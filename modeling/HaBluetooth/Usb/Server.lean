import HaBluetooth.Protocol.UsbFrames
import HaBluetooth.Support.BoundedQueue

/-! `UsbSerialServer`: the queue in front of the write worker. -/

namespace HaBluetooth.Usb

open Python Protocol Support

structure UsbServer where
  -- absent while no bridge is up; `None` in the queue stops the worker
  writeQueue : Option (BoundedQueue (Option Bytes) 64)

namespace UsbServer

def sendRaw (s : UsbServer) (data : Bytes) : Result UsbServer :=
  match s.writeQueue with
  | none => .ok s
  | some queue => do
    let frame ← frameForUsb data
    match queue.put (some frame) with
    | some queue' => return { s with writeQueue := some queue' }
    | none => return s

end UsbServer

end HaBluetooth.Usb
