import HaBluetooth.Gatt.Server

/-! `_disconnect_detector`, the loop that polls for connected devices. -/

namespace HaBluetooth.Gatt

/-- Where the loop is suspended, with the devices found connected by the last poll. -/
inductive Detector
  | sleeping (prevConnected : List String)
  | polling (prevConnected : List String)
  | ended
  deriving DecidableEq, Repr

namespace GattServer

def nextPoll (s : GattServer) (prevConnected : List String) : Detector :=
  if s.running then .sleeping prevConnected else .ended

/-- `devices` is what bluetoothctl lists, or `none` when the poll raises. -/
def detect (s : GattServer) (devices : Option (List String)) : Detector → GattServer × Detector
  | .ended => (s, .ended)
  | .sleeping prevConnected => (s, if s.running then .polling prevConnected else .ended)
  | .polling prevConnected =>
    let connectedMacs := devices.getD []
    let s := if prevConnected ≠ [] ∧ connectedMacs = [] ∧ s.connected then s.markDisconnected else s
    (s, s.nextPoll connectedMacs)

end GattServer

end HaBluetooth.Gatt
