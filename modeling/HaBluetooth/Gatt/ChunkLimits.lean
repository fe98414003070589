import HaBluetooth.Gatt.ChunkStreams

/-! How long a chunk gets. Each encoder cuts payloads of its size constant and puts the flag byte on
top, but only one of the two constants leaves room for it. -/

namespace HaBluetooth.Gatt

open Python Protocol

section Splitting

variable {size : ℕ} [NeZero size] {data : Bytes}

lemma length_chunk_le {offset : ℕ} {c : Bytes} (hc : c ∈ encodeFrom size data offset) :
    c.length ≤ 1 + min size (data.length - offset) := by
  fun_induction encodeFrom size data offset with
  | case1 offset h stop flag ih =>
    rcases List.mem_cons.mp hc with rfl | hc
    · rw [List.length_cons, List.length_drop, List.length_take]
      omega
    · have hrest := ih hc
      omega
  | case2 offset h => cases hc

lemma exists_full_chunk {offset : ℕ} (h : offset + size ≤ data.length) :
    ∃ c ∈ encodeFrom size data offset, c.length = 1 + size := by
  have hsize := NeZero.pos size
  rw [encodeFrom_more (by omega)]
  refine ⟨_, List.mem_cons_self, ?_⟩
  rw [List.length_cons, List.length_drop, List.length_take]
  omega

lemma chunks_within_iff : (∀ c ∈ encodeFrom size data 0, c.length ≤ size) ↔ data.length < size := by
  constructor
  · intro h
    by_contra hlong
    obtain ⟨c, hc, hlen⟩ := exists_full_chunk (show 0 + size ≤ data.length by omega)
    have hle := h c hc
    omega
  · intro h c hc
    have hle := length_chunk_le hc
    omega

end Splitting

theorem chunks_fit_iff (data : Bytes) :
    ((∀ c ∈ encodeChunks data, c.length ≤ 244) ∧ ∀ c ∈ encodeBleChunks data, c.length ≤ 509) ↔ data.length < 244 := by
  have hble : ∀ c ∈ encodeBleChunks data, c.length ≤ 509 := fun c hc =>
    (length_chunk_le hc).trans (Nat.add_le_add_left (min_le_left _ _) 1)
  rw [and_iff_left hble]
  exact chunks_within_iff

theorem full_chunk_too_long :
    ¬ ((∀ c ∈ encodeChunks (List.replicate 244 0), c.length ≤ 244) ∧
      ∀ c ∈ encodeBleChunks (List.replicate 244 0), c.length ≤ 509) := by
  rintro ⟨h, -⟩
  have hshort := chunks_within_iff.mp h
  rw [List.length_replicate] at hshort
  exact lt_irrefl 244 hshort

end HaBluetooth.Gatt
