import HaBluetooth.Python.Runtime

/-! Length-prefixed frames on the serial line. -/

namespace HaBluetooth.Protocol

open Python Support

def frameForUsb (data : Bytes) : Result Bytes := do
  let header ← structPack 4 data.length
  return header ++ data

lemma frameForUsb_ok {data : Bytes} (h : data.length < 256 ^ 4) :
    frameForUsb data = .ok (BigEndian.toBytes 4 data.length ++ data) := by
  simp only [frameForUsb, structPack_ok h]
  rfl

end HaBluetooth.Protocol
