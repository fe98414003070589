import HaBluetooth.Native.ServiceCalls
import HaBluetooth.Usb.ReaderLoop

/-! From bytes on the serial line, or writes to the GATT characteristic, to the services called. -/

namespace HaBluetooth.Transports

open Python Protocol Support Dispatcher

def Justified (py : Library) (passcode : UInt32) (calls : List ServiceCall) (frames : List Bytes) : Prop :=
  ∃ f : Fin calls.length ↪o Fin frames.length, ∀ i, Requests py passcode (calls.get i) (frames.get (f i))

variable (py : Library) (passcode : UInt32)

def callPacket : Bytes := [0xAA, 0xBB, 0, 0, 0, 1, 0x22, 0, 0, 0, 0x41, 0x49, 0xCC, 0xDD]

def callOnLine : Usb.Session :=
  ⟨[0xFF, 0xFF] ++ [0, 0, 0, 14] ++ callPacket, fun _ => ⟨.empty, fun _ => .ok (), fun _ => .ok ()⟩⟩

def callInChunks : List Native.Input :=
  [.write (0x00 :: callPacket.take 7), .write (0x01 :: callPacket.drop 7), .next .empty, .next .empty, .next .empty]

example : (Native.NativeBleServer.init.run .ascii 1 callInChunks).serviceCalls.length = 1 := by decide +kernel

end HaBluetooth.Transports
