import HaBluetooth.Protocol.RfcommReader

/-! What the frame reader makes of any stream that ends: the frame under the first plausible header,
if it looks as far as that, and otherwise the reason why there is none. -/

namespace HaBluetooth.Protocol

open Python Support

def HeaderAt (s : Bytes) (k : ℕ) : Prop := k + 4 ≤ s.length ∧ Plausible (window s k)

def FirstHeader (s : Bytes) (k : ℕ) : Prop := HeaderAt s k ∧ ∀ j < k, ¬ HeaderAt s j

lemma window_take {s : Bytes} {i n : ℕ} (h : i + 4 ≤ n) : window (s.take n) i = window s i := by
  rw [window, window, List.drop_take, List.take_take, min_eq_left (by omega)]

lemma window_zero {header : Bytes} (h : header.length = 4) (buffer : Bytes) : window (header ++ buffer) 0 = header :=
  List.take_left' h

lemma window_succ (b : UInt8) (bs : Bytes) (i : ℕ) : window (b :: bs) (i + 1) = window bs i := rfl

lemma headerAt_succ (b : UInt8) (bs : Bytes) (i : ℕ) : HeaderAt (b :: bs) (i + 1) ↔ HeaderAt bs i := by
  rw [HeaderAt, HeaderAt, window_succ, List.length_cons]
  exact and_congr_left fun _ => by omega

lemma headerAt_shift {header : Bytes} (h : header.length = 4) (b : UInt8) (rest : Bytes) (i : ℕ) :
    HeaderAt (header.drop 1 ++ [b] ++ rest) i ↔ HeaderAt (header ++ b :: rest) (i + 1) := by
  obtain ⟨a, tail, rfl⟩ := List.exists_cons_of_length_eq_add_one h
  rw [List.cons_append, headerAt_succ, List.append_assoc]
  rfl

lemma split_at (s : Bytes) {k : ℕ} (hk : k + 4 ≤ s.length) :
    s = s.take k ++ window s k ++ s.drop (k + 4) ∧ (window s k).length = 4 := by
  refine ⟨?_, ?_⟩
  · rw [window, List.append_assoc, ← List.drop_drop, List.take_append_drop, List.take_append_drop]
  · rw [window, List.length_take, List.length_drop]
    omega

/-! ### A header within reach -/

lemma rfcommReadFrame_first {s : Bytes} {k : ℕ} (hk : k ≤ usbMaxResyncBytes) (h : FirstHeader s k) :
    rfcommReadFrame s = readexactly (BigEndian.value (window s k)) (s.drop (k + 4)) := by
  obtain ⟨⟨hlen, hp⟩, hfirst⟩ := h
  obtain ⟨hs, hw⟩ := split_at s hlen
  have hg : (s.take k).length = k := List.length_take_of_le (by omega)
  have hwhole : s.take k ++ window s k = s.take (k + 4) := by
    rw [List.take_add]
    rfl
  conv_lhs => rw [hs]
  refine rfcommReadFrame_skips hw hp (by omega) fun i hi hpi => ?_
  rw [hwhole, window_take (by omega)] at hpi
  exact hfirst i (by omega) ⟨by omega, hpi⟩

/-! ### No header within reach -/

lemma resync_exhausted {skipped : ℕ} {header buffer : Bytes} (hlen : header.length = 4)
    (hs : skipped ≤ usbMaxResyncBytes)
    (hnone : ∀ i ≤ usbMaxResyncBytes - skipped, ¬ HeaderAt (header ++ buffer) i) :
    resync skipped header buffer =
      if usbMaxResyncBytes - skipped ≤ buffer.length then
        .error resyncFailed (buffer.drop (usbMaxResyncBytes - skipped))
      else .error (incompleteRead 0 1) [] := by
  fun_induction resync skipped header generalizing buffer with
  | case1 skipped header hp =>
    refine absurd ⟨?_, ?_⟩ (hnone 0 (Nat.zero_le _))
    · rw [List.length_append]
      omega
    · rwa [window_zero hlen]
  | case2 skipped header hp hlast =>
    have hend : usbMaxResyncBytes - skipped = 0 := by omega
    rw [hend, if_pos (Nat.zero_le _), List.drop_zero]
    rfl
  | case3 skipped header hp hlast ih =>
    cases buffer with
    | nil =>
      have hmore : ¬ usbMaxResyncBytes - skipped ≤ ([] : Bytes).length := by
        rw [List.length_nil]
        omega
      rw [if_neg hmore]
      exact Reader.bind_error _ rfl
    | cons b rest =>
      have hnext : usbMaxResyncBytes - skipped = usbMaxResyncBytes - (skipped + 1) + 1 := by omega
      have hheader : (header.drop 1 ++ [b]).length = 4 := by simp [hlen]
      rw [Reader.bind_ok _ (Reader.readexactly_one b rest), ih [b] hheader (by omega) fun i hi => ?_]
      · rw [hnext, List.drop_succ_cons, List.length_cons]
        simp only [Nat.add_le_add_iff_right]
      · rw [headerAt_shift hlen]
        exact hnone (i + 1) (by omega)

lemma rfcommReadFrame_exhausted {s : Bytes} (hnone : ∀ k ≤ usbMaxResyncBytes, ¬ HeaderAt s k) :
    (usbMaxResyncBytes + 4 ≤ s.length → rfcommReadFrame s = .error resyncFailed (s.drop (usbMaxResyncBytes + 4))) ∧
      (s.length < usbMaxResyncBytes + 4 →
        ∃ partialLen expected : ℕ, rfcommReadFrame s = .error (incompleteRead partialLen expected) []) := by
  rcases lt_or_ge s.length 4 with hshort | hlong
  · have hread : readexactly 4 s = .error (incompleteRead s.length 4) [] := by rw [readexactly, if_pos hshort]
    exact ⟨fun h => by omega, fun _ => ⟨s.length, 4, Reader.bind_error _ hread⟩⟩
  · have hheader : (s.take 4).length = 4 := List.length_take_of_le hlong
    have hread : readexactly 4 s = .ok (s.take 4) (s.drop 4) := by rw [readexactly, if_neg (by omega)]
    have hresync := @resync_exhausted 0 _ (s.drop 4) hheader (Nat.zero_le _) fun i hi => by
      rw [List.take_append_drop]
      exact hnone i hi
    rw [rfcommReadFrame, Reader.bind_ok _ hread, hresync, List.length_drop, List.drop_drop]
    constructor
    · intro h
      rw [if_pos (by omega)]
      rfl
    · intro h
      exact ⟨0, 1, if_neg (by omega)⟩

theorem rfcommReadFrame_searches (s : Bytes) :
    (∀ k ≤ 4096, FirstHeader s k →
      (k + 4 + BigEndian.value (window s k) ≤ s.length →
        rfcommReadFrame s = .ok ((s.drop (k + 4)).take (BigEndian.value (window s k)))
          (s.drop (k + 4 + BigEndian.value (window s k)))) ∧
      (s.length < k + 4 + BigEndian.value (window s k) →
        ∃ e rest, rfcommReadFrame s = .error e rest ∧ e.kind = .incompleteReadError)) ∧
    ((∀ k ≤ 4096, ¬ HeaderAt s k) →
      (4100 ≤ s.length → ∃ e, rfcommReadFrame s = .error e (s.drop 4100) ∧ e.kind = .valueError) ∧
      (s.length < 4100 → ∃ e rest, rfcommReadFrame s = .error e rest ∧ e.kind = .incompleteReadError)) := by
  constructor
  · intro k hk hfirst
    have hlen := hfirst.1.1
    rw [rfcommReadFrame_first hk hfirst, readexactly, List.length_drop]
    constructor
    · intro h
      rw [if_neg (by omega), List.drop_drop]
    · intro h
      exact ⟨_, _, if_pos (by omega), rfl⟩
  · intro hnone
    obtain ⟨hfailed, hincomplete⟩ := rfcommReadFrame_exhausted hnone
    constructor
    · intro h
      exact ⟨resyncFailed, hfailed h, rfl⟩
    · intro h
      obtain ⟨partialLen, expected, hread⟩ := hincomplete h
      exact ⟨_, _, hread, rfl⟩

end HaBluetooth.Protocol
