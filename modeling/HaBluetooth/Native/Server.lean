import HaBluetooth.Dispatcher.Tasks
import HaBluetooth.Gatt.Sessions
import HaBluetooth.Gatt.TxWorker

/-! `NativeBleServer` on its event loop, which runs callbacks and new tasks in the order they were
scheduled. Writes, drops, events and the ends of service calls come in between, in any order. -/

namespace HaBluetooth.Native

open Python Protocol Support Dispatcher Gatt

/-- What waits for the loop: a callback of the GATT server, a new handler or a push. The number is
the session in which the frame was completed. -/
inductive Job
  | callback (c : Callback) (session : ℕ)
  | handle (frame : Bytes) (session : ℕ)
  | push (obj : Value)

structure Suspended where
  task : Task
  request : Option ℕ

/-- A packet given to `send_frame` while a client is connected, with the session of the request that
it answers, if any. -/
structure Handed where
  data : Bytes
  request : Option ℕ
  session : ℕ
  authenticated : Bool

structure NativeBleServer where
  gatt : GattServer
  worker : TxWorker
  link : ClientLink
  ready : List Job
  calls : List Suspended
  effects : List Effect
  -- how often a write has found no client connected
  session : ℕ
  -- whether a frame of this session has been found to carry the passcode
  authenticated : Bool
  handed : List Handed

/-- What `stop()` does from one `await` to the next. -/
inductive StopPart
  | signOff
  | putNone
  | endTask
  | dropServer
  deriving DecidableEq, Repr

inductive Input
  | write (value : Bytes)
  | disconnect
  | tx (u : Update)
  -- the home is given as it is at that step
  | next (hass : Hass)
  | finish (i : ℕ) (hass : Hass)
  | stateChanged (hass : Hass) (newState : Option State)
  | stop (part : StopPart)

def Input.event : Input → Option Event
  | .write value => some (.write value)
  | .disconnect | .tx _ | .next _ | .finish _ _ | .stateChanged _ _ | .stop _ => none

def receivedFrames (inputs : List Input) : List Bytes := Reassembly.frames [] (pieces (inputs.filterMap Input.event))

def CarriesPasscode (passcode : UInt32) (frame : Bytes) : Prop :=
  (decodePacket frame).map Prod.fst = some passcode.toNat

instance (passcode : UInt32) (frame : Bytes) : Decidable (CarriesPasscode passcode frame) :=
  inferInstanceAs (Decidable (_ = _))

namespace NativeBleServer

def init : NativeBleServer := ⟨serving, .getting, .init, [], [], [], 0, false, []⟩

def scheduling (s : NativeBleServer) (gatt : GattServer) : NativeBleServer :=
  { s with
    gatt := { gatt with loop := some [] }
    ready := s.ready ++ (gatt.loop.getD []).map fun c => .callback c s.session }

def sendFrames (gatt : GattServer) (datas : List Bytes) : GattServer :=
  datas.foldl (fun gatt data => (gatt.sendFrame data).1) gatt

def perform (s : NativeBleServer) (request : Option ℕ) (r : Run (Option Task)) : NativeBleServer :=
  { s with
    gatt := sendFrames s.gatt r.sent
    effects := s.effects ++ r.events
    calls := s.calls ++ (r.result.toOption.bind id).toList.map fun task => ⟨task, request⟩
    handed := s.handed ++
      if s.gatt.connected && s.gatt.server then r.sent.map fun data => ⟨data, request, s.session, s.authenticated⟩
      else [] }

variable (py : Library) (passcode : UInt32)

/-- `_send_raw` always returns normally. -/
def dispatcher (hass : Hass) : PacketDispatcher := ⟨hass, passcode, fun _ => .ok ()⟩

def runJob (s : NativeBleServer) (hass : Hass) : Job → NativeBleServer
  | .callback .onConnect _ => { s with link := s.link.onBleClientConnected }
  | .callback .onDisconnect _ => { s with link := s.link.onBleClientDisconnected }
  | .callback (.onFrame frame) session => { s with ready := s.ready ++ [.handle frame session] }
  -- no send suspends, so the handler runs up to its service call, if it makes one
  | .handle frame session =>
    { s with authenticated := s.authenticated || decide (session = s.session ∧ CarriesPasscode passcode frame) }.perform
      (some session) ((dispatcher passcode hass).startHandling py frame)
  | .push obj => s.perform none ((dispatcher passcode hass).advance py (.push obj))

def handleWrite (s : NativeBleServer) (value : Bytes) : NativeBleServer :=
  let gatt := s.gatt.handleWrite value
  let connecting := !s.gatt.connected && gatt.connected
  let s := if connecting then { s with session := s.session + 1, authenticated := false } else s
  s.scheduling gatt

def stopPart (s : NativeBleServer) : StopPart → NativeBleServer
  | .signOff => { s with link := s.link.onBleClientDisconnected, gatt := { s.gatt with running := false } }
  -- on a full queue `put(None)` goes on waiting
  | .putNone => { s with gatt := { s.gatt with txQueue := (s.gatt.txQueue.put none).getD s.gatt.txQueue } }
  | .endTask => { s with worker := .ended }
  | .dropServer => { s with gatt := { s.gatt with server := false } }

def step (s : NativeBleServer) : Input → NativeBleServer
  | .write value => s.handleWrite value
  | .disconnect => s.scheduling s.gatt.markDisconnected
  | .tx u =>
    let (gatt, worker, _) := s.gatt.resume u s.worker
    { s with worker := worker }.scheduling gatt
  | .next hass =>
    match s.ready with
    | [] => s
    | job :: ready => { s with ready := ready }.runJob py passcode hass job
  | .finish i hass =>
    match s.calls[i]? with
    | none => s
    | some call =>
      { s with calls := s.calls.eraseIdx i }.perform call.request
        ((dispatcher passcode hass).advance py call.task)
  | .stateChanged hass newState => { s with ready := s.ready ++ (s.link.stateChanged hass newState).map .push }
  | .stop part => s.stopPart part

def run (s : NativeBleServer) (inputs : List Input) : NativeBleServer := inputs.foldl (step py passcode) s

end NativeBleServer

end HaBluetooth.Native
