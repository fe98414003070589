import HaBluetooth.Gatt.Server

/-! What `send_frame` does to the outgoing queue, whether it accepts the frame or not. -/

namespace HaBluetooth.Gatt

open Python Protocol Support

def chunkCount (data : Bytes) : ℕ := (data.length + 243) / 244

lemma length_encodeChunks (data : Bytes) : (encodeChunks data).length = chunkCount data :=
  length_encodeFrom chunkSize data 0

namespace GattServer

variable (s : GattServer) (data : Bytes)

lemma sendFrame_offline (h : ¬ (s.connected = true ∧ s.server = true)) : s.sendFrame data = (s, false) := by
  have hh : (!s.connected || !s.server) = true := by
    cases hc : s.connected <;> cases hv : s.server <;> simp_all
  rw [sendFrame, if_pos hh]

lemma sendFrame_online (hc : s.connected = true) (hv : s.server = true) :
    s.sendFrame data =
      ({ s with txQueue := (s.txQueue.putAll ((encodeChunks data).map some)).1 },
        (s.txQueue.putAll ((encodeChunks data).map some)).2) := by
  simp [sendFrame, hc, hv]

lemma sendFrame_accepts (hc : s.connected = true) (hv : s.server = true) :
    (s.sendFrame data).2 = true ↔ s.txQueue.items.length + chunkCount data ≤ 256 := by
  rw [sendFrame_online s data hc hv, BoundedQueue.putAll_accepts, List.length_map, length_encodeChunks]

def Overruns : Prop :=
  s.connected = true ∧ s.server = true ∧
    s.txQueue.items.length < 256 ∧ 256 < s.txQueue.items.length + chunkCount data

lemma overrun_leftover (h : s.Overruns data) :
    (s.sendFrame data).2 = false ∧ (s.sendFrame data).1.txQueue ≠ s.txQueue := by
  obtain ⟨hc, hv, hfree, hover⟩ := h
  have hfail : (s.sendFrame data).2 = false := by
    rw [← Bool.not_eq_true, sendFrame_accepts s data hc hv]
    omega
  refine ⟨hfail, fun hsame => hfree.ne ?_⟩
  rw [sendFrame_online s data hc hv] at hfail hsame
  exact (BoundedQueue.putAll_unchanged _ hfail).mp hsame

lemma rejected_unchanged (h : ¬ s.Overruns data) (hfail : (s.sendFrame data).2 = false) :
    (s.sendFrame data).1.txQueue = s.txQueue := by
  by_cases hon : s.connected = true ∧ s.server = true
  · obtain ⟨hc, hv⟩ := hon
    have hb := s.txQueue.bounded
    have hover : 256 < s.txQueue.items.length + chunkCount data := by
      rw [← Bool.not_eq_true, sendFrame_accepts s data hc hv] at hfail
      omega
    have hfull : s.txQueue.items.length = 256 := by
      by_contra hne
      exact h ⟨hc, hv, by omega, hover⟩
    rw [sendFrame_online s data hc hv] at hfail ⊢
    exact (BoundedQueue.putAll_unchanged _ hfail).mpr hfull
  · rw [sendFrame_offline s data hon]

theorem sendFrame_atomic_iff :
    ((s.sendFrame data).2 = false → (s.sendFrame data).1.txQueue = s.txQueue) ↔ ¬ s.Overruns data := by
  refine ⟨fun h hover => ?_, s.rejected_unchanged data⟩
  obtain ⟨hfail, hne⟩ := s.overrun_leftover data hover
  exact hne (h hfail)

def oneSlot : GattServer :=
  { server := true, running := true, connected := true, rxBuf := [], loop := some [], called := []
    txQueue := ⟨List.replicate 255 (some [0x01, 0x00]), List.length_replicate.trans_le (by norm_num)⟩ }

theorem dropped_frame_remains :
    (oneSlot.sendFrame (List.replicate 245 0x41)).2 = false ∧
      (oneSlot.sendFrame (List.replicate 245 0x41)).1.txQueue ≠ oneSlot.txQueue := by
  apply overrun_leftover
  have hq : oneSlot.txQueue.items.length = 255 := List.length_replicate
  refine ⟨rfl, rfl, by omega, ?_⟩
  rw [hq, chunkCount, List.length_replicate]
  decide

end GattServer

end HaBluetooth.Gatt
