import HaBluetooth.Protocol.BleChunks
import HaBluetooth.Support.BoundedQueue
import HaBluetooth.Support.Reassembly

/-! `HaBleGattServer`: the receive buffer, the connection flag and the outgoing chunk queue. -/

namespace HaBluetooth.Gatt

open Python Protocol Support

def chunkSize : ℕ := 244

instance : NeZero chunkSize := ⟨by decide⟩

def encodeChunks (data : Bytes) : List Bytes := encodeFrom chunkSize data 0

inductive Callback
  | onConnect
  | onDisconnect
  | onFrame (frame : Bytes)
  deriving DecidableEq, Repr

structure GattServer where
  -- whether `_server` holds a BlessServer
  server : Bool
  running : Bool
  connected : Bool
  rxBuf : Bytes
  -- `None` in the queue stops the worker
  txQueue : BoundedQueue (Option Bytes) 256
  -- `_loop`, absent before start(): the callbacks given to call_soon_threadsafe, oldest first
  loop : Option (List Callback)
  -- callbacks invoked on the spot
  called : List Callback

namespace GattServer

def init : GattServer := ⟨false, false, false, [], .empty _ _, none, []⟩

/-- What start() itself sets, before the task it spawns runs. -/
def start (s : GattServer) : GattServer := { s with loop := some (s.loop.getD []), running := true }

def callSoon (s : GattServer) (c : Callback) : GattServer :=
  { s with loop := s.loop.map (· ++ [c]) }

def sendFrame (s : GattServer) (data : Bytes) : GattServer × Bool :=
  if !s.connected || !s.server then (s, false)
  else
    let (queue, accepted) := s.txQueue.putAll ((encodeChunks data).map some)
    ({ s with txQueue := queue }, accepted)

def markDisconnected (s : GattServer) : GattServer :=
  if !s.connected then s
  else
    let s := { s with connected := false, txQueue := s.txQueue.drain }
    match s.loop with
    | some _ => s.callSoon .onDisconnect
    | none => { s with called := s.called ++ [.onDisconnect] }

def handleWrite (s : GattServer) (value : Bytes) : GattServer :=
  match value with
  | [] => s
  | flag :: payload =>
    let buf := s.rxBuf ++ payload
    if flag = bleChunkFinal then
      let s := { s with rxBuf := [] }
      match s.loop with
      | none => s
      | some _ =>
        let s := if s.connected then s else { s with connected := true }.callSoon .onConnect
        s.callSoon (.onFrame buf)
    else { s with rxBuf := buf }

end GattServer

end HaBluetooth.Gatt
