import HaBluetooth.Gatt.Sessions
import HaBluetooth.Gatt.TxWorker

/-! The callbacks that go with a change of the connection flag. -/

namespace HaBluetooth.Gatt

open Python Protocol Support

/-- What a step of the GATT server hands to the loop, between the flag before and the flag after. -/
inductive Heard : Bool → Bool → List Callback → Prop
  | quiet (connected : Bool) : Heard connected connected []
  | frame (frame : Bytes) : Heard true true [.onFrame frame]
  | firstFrame (frame : Bytes) : Heard false true [.onConnect, .onFrame frame]
  | drop : Heard true false [.onDisconnect]

namespace GattServer

def callbacks (s : GattServer) : List Callback := s.loop.getD []

variable {s : GattServer}

lemma handleWrite_heard (hl : s.loop = some []) (value : Bytes) :
    Heard s.connected (s.handleWrite value).connected (s.handleWrite value).callbacks := by
  obtain ⟨server, running, connected, rxBuf, queue, loop, called⟩ := s
  obtain rfl : loop = some [] := hl
  cases value with
  | nil => exact .quiet connected
  | cons flag payload =>
    by_cases hf : flag = bleChunkFinal
    · subst hf
      cases connected
      · exact .firstFrame _
      · exact .frame _
    · rw [handleWrite, if_neg hf]
      exact .quiet connected

lemma markDisconnected_heard (hl : s.loop = some []) :
    Heard s.connected s.markDisconnected.connected s.markDisconnected.callbacks := by
  obtain ⟨server, running, connected, rxBuf, queue, loop, called⟩ := s
  obtain rfl : loop = some [] := hl
  cases connected
  · exact .quiet false
  · exact .drop

lemma resume_heard (hl : s.loop = some []) (w : TxWorker) (u : Update) :
    Heard s.connected (s.resume u w).1.connected (s.resume u w).1.callbacks := by
  have hquiet : s.callbacks = [] := by rw [callbacks, hl]; rfl
  rcases s.resume_cases w u with ⟨hs, -⟩ | ⟨item, queue, -, -, hs | ⟨-, hs⟩⟩
  · rw [hs, hquiet]
    exact .quiet _
  · rw [hs]
    change Heard s.connected s.connected s.callbacks
    rw [hquiet]
    exact .quiet _
  · rw [hs]
    exact @markDisconnected_heard { s with txQueue := queue } hl

end GattServer

end HaBluetooth.Gatt
