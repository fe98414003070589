import HaBluetooth.Protocol.RfcommReader

/-! When the reader finds the frame behind some garbage: when no four bytes that begin in the garbage
can be a length. -/

namespace HaBluetooth.Protocol

open Python Support

lemma window_append {bs : Bytes} {i : ℕ} (h : i + 4 ≤ bs.length) (cs : Bytes) : window (bs ++ cs) i = window bs i := by
  rw [window, window, List.drop_append_of_le_length (by omega), List.take_append_of_le_length (by simp; omega)]

lemma length_window {bs : Bytes} {i : ℕ} (h : i + 4 ≤ bs.length) : (window bs i).length = 4 := by
  rw [window, List.length_take, List.length_drop]
  omega

section Garbage

variable {g p frame : Bytes} (hp : 0 < p.length) (hmax : p.length ≤ usbMaxFrame) (hf : frameForUsb p = .ok frame)
include hp hmax hf

lemma frame_header : ∃ header, header.length = 4 ∧ Plausible header ∧ BigEndian.value header = p.length ∧
    frame = header ++ p := by
  have hlt : p.length < 256 ^ 4 := lt_of_le_of_lt hmax (by norm_num [usbMaxFrame])
  have hv := BigEndian.value_toBytes hlt
  rw [frameForUsb_ok hlt] at hf
  refine ⟨BigEndian.toBytes 4 p.length, BigEndian.length_toBytes 4 _, ?_, hv, (Except.ok.inj hf).symm⟩
  rw [Plausible, hv]
  exact ⟨hp, hmax⟩

lemma reads_of_implausible (hg : g.length ≤ usbMaxResyncBytes) (rest : Bytes)
    (h : ∀ i < g.length, ¬ Plausible (window (g ++ frame) i)) :
    rfcommReadFrame (g ++ frame ++ rest) = .ok p rest := by
  obtain ⟨header, hlen, hpl, hval, rfl⟩ := frame_header hp hmax hf
  rw [← List.append_assoc, List.append_assoc _ p rest, rfcommReadFrame_skips hlen hpl hg, hval]
  · exact Reader.readexactly_append rfl rest
  · intro i hi
    rw [← window_append (by simp; omega) p, List.append_assoc]
    exact h i hi

lemma implausible_of_reads (hg : g.length ≤ usbMaxResyncBytes) {rest : Bytes}
    (h : rfcommReadFrame (g ++ frame ++ rest) = .ok p rest) :
    ∀ i < g.length, ¬ Plausible (window (g ++ frame) i) := by
  intro i
  induction i using Nat.strong_induction_on with
  | h i ih =>
    intro hi hpl
    obtain ⟨header, hlen, -, -, rfl⟩ := frame_header hp hmax hf
    have hl : i + 4 ≤ (g ++ (header ++ p)).length := by
      simp
      omega
    have hw := length_window hl
    have hsplit : g ++ (header ++ p) =
        g.take i ++ window (g ++ (header ++ p)) i ++ (g ++ (header ++ p)).drop (i + 4) := by
      have hgi : (g ++ (header ++ p)).take i = g.take i := List.take_append_of_le_length hi.le
      rw [window, ← hgi, ← List.drop_drop, List.append_assoc, List.take_append_drop, List.take_append_drop]
    have hskip : ∀ j < (g.take i).length, ¬ Plausible (window (g.take i ++ window (g ++ (header ++ p)) i) j) := by
      intro j hj
      rw [List.length_take, lt_min_iff] at hj
      rw [← window_append (by simp [hw]; omega) ((g ++ (header ++ p)).drop (i + 4)), ← hsplit]
      exact ih j hj.1 hj.2
    rw [hsplit, List.append_assoc, rfcommReadFrame_skips hw hpl (by simp; omega) hskip] at h
    obtain ⟨-, hrest⟩ := Reader.readexactly_eq_ok.mp h
    have hcount := congrArg List.length hrest
    simp only [List.length_append, List.length_drop] at hcount
    omega

lemma resynchronises (hg : g.length ≤ usbMaxResyncBytes) (rest : Bytes) :
    rfcommReadFrame (g ++ frame ++ rest) = .ok p rest ↔ ∀ i < g.length, ¬ Plausible (window (g ++ frame) i) :=
  ⟨implausible_of_reads hp hmax hf hg, reads_of_implausible hp hmax hf hg rest⟩

end Garbage

/-! ### Stray NUL bytes -/

lemma value_nuls (k : ℕ) (bs : Bytes) : BigEndian.value (List.replicate k 0 ++ bs) = BigEndian.value bs := by
  induction k with
  | zero => rfl
  | succ k ih => rw [List.replicate_succ, List.cons_append, BigEndian.value_cons, ih]; simp

lemma window_nuls {k i n : ℕ} (h : i < k) (hn : n < 256 ^ 4) :
    BigEndian.value (window (List.replicate k 0 ++ BigEndian.toBytes 4 n) i) = n / 256 ^ (k - i) := by
  have hd : (List.replicate k (0 : UInt8) ++ BigEndian.toBytes 4 n).drop i =
      List.replicate (k - i) 0 ++ BigEndian.toBytes 4 n := by
    rw [List.drop_append_of_le_length (by simp; omega), List.drop_replicate]
  rw [window, hd, List.take_append, List.take_replicate, value_nuls, List.length_replicate]
  rcases le_or_gt (k - i) 4 with hj | hj
  · have hb : BigEndian.toBytes 4 n = BigEndian.toBytes (4 - (k - i) + (k - i)) n := by rw [Nat.sub_add_cancel hj]
    have hle : n / 256 ^ (k - i) < 256 ^ (4 - (k - i)) := by
      rw [Nat.div_lt_iff_lt_mul (by positivity), ← pow_add, Nat.sub_add_cancel hj]
      exact hn
    rw [hb, BigEndian.take_toBytes, BigEndian.value_toBytes hle]
  · have hzero : n / 256 ^ (k - i) = 0 :=
      Nat.div_eq_of_lt (hn.trans_le (Nat.pow_le_pow_right (by norm_num) hj.le))
    rw [Nat.sub_eq_zero_of_le hj.le, List.take_zero, hzero]
    rfl

lemma nuls_implausible_iff {k : ℕ} {p frame : Bytes} (hk : 0 < k) (hmax : p.length ≤ usbMaxFrame)
    (hf : frameForUsb p = .ok frame) :
    (∀ i < k, ¬ Plausible (window (List.replicate k 0 ++ frame) i)) ↔ p.length < 256 := by
  have hlt : p.length < 256 ^ 4 := lt_of_le_of_lt hmax (by norm_num [usbMaxFrame])
  rw [frameForUsb_ok hlt] at hf
  have hw : ∀ i < k, BigEndian.value (window (List.replicate k 0 ++ frame) i) = p.length / 256 ^ (k - i) := by
    intro i hi
    rw [← Except.ok.inj hf, ← List.append_assoc, window_append (by simp; omega), window_nuls hi hlt]
  constructor
  · intro h
    by_contra hn
    have hlast := hw (k - 1) (by omega)
    rw [show k - (k - 1) = 1 by omega, pow_one] at hlast
    apply h (k - 1) (by omega)
    rw [Plausible, hlast]
    omega
  · intro h i hi hpl
    rw [Plausible, hw i hi] at hpl
    have hpow : 256 ≤ 256 ^ (k - i) := Nat.le_self_pow (by omega) 256
    rw [Nat.div_eq_of_lt (by omega)] at hpl
    exact hpl.1.false

theorem resynchronises_iff {g p frame : Bytes} (hg : g.length ≤ 4096) (hp : 0 < p.length)
    (hmax : p.length ≤ 16 * 1024 * 1024) (hf : frameForUsb p = .ok frame) (rest : Bytes) :
    (rfcommReadFrame (g ++ frame ++ rest) = .ok p rest ↔ ∀ i < g.length, ¬ Plausible (window (g ++ frame) i)) ∧
      ∀ k, 0 < k → g = List.replicate k 0 →
        (rfcommReadFrame (g ++ frame ++ rest) = .ok p rest ↔ p.length < 256) := by
  have hiff := resynchronises hp hmax hf hg rest
  refine ⟨hiff, fun k hk hnul => ?_⟩
  have hlen : g.length = k := by rw [hnul, List.length_replicate]
  rw [hiff, hlen, hnul]
  exact nuls_implausible_iff hk hmax hf

theorem resynchronises_log :
    (rfcommReadFrame ([0x4F, 0x4B] ++ [0, 0, 0, 1, 0x7B] ++ []) = .ok [0x7B] [] ↔
      ∀ i < [0x4F, 0x4B].length, ¬ Plausible (window ([0x4F, 0x4B] ++ [0, 0, 0, 1, 0x7B]) i)) ∧
    ∀ k, 0 < k → ([0x4F, 0x4B] : Bytes) = List.replicate k 0 →
      (rfcommReadFrame ([0x4F, 0x4B] ++ [0, 0, 0, 1, 0x7B] ++ []) = .ok [0x7B] [] ↔ [(0x7B : UInt8)].length < 256) :=
  resynchronises_iff (by simp) (by simp) (by simp) rfl []

theorem stray_nul_misread : ∃ frame, frameForUsb (List.replicate 1280 0x41) = .ok frame ∧
    (∀ i, i + 4 ≤ ([0x00] : Bytes).length → ¬ Plausible (window [0x00] i)) ∧
    rfcommReadFrame ([0x00] ++ frame) = .ok [0x00, 0x41, 0x41, 0x41, 0x41] (List.replicate 1276 0x41) := by
  have hlt : (List.replicate 1280 (0x41 : UInt8)).length < 256 ^ 4 := List.length_replicate.trans_lt (by norm_num)
  refine ⟨_, frameForUsb_ok hlt, fun i hi => by simp at hi, ?_⟩
  have hsplit :
      [0x00] ++ (BigEndian.toBytes 4 (List.replicate 1280 (0x41 : UInt8)).length ++ List.replicate 1280 0x41) =
      [] ++ [0x00, 0x00, 0x00, 0x05] ++ ([0x00, 0x41, 0x41, 0x41, 0x41] ++ List.replicate 1276 0x41) := by
    rw [List.length_replicate]
    rfl
  rw [hsplit, rfcommReadFrame_skips rfl (by decide) (by simp) (by simp)]
  exact Reader.readexactly_append rfl _

/-! ### Whole streams -/

def usbStream : List (Bytes × Bytes) → Result Bytes
  | [] => .ok []
  | (g, p) :: segments => do
    let frame ← frameForUsb p
    let stream ← usbStream segments
    return g ++ frame ++ stream

lemma log_implausible {g : Bytes} (h : ∀ b ∈ g, 2 ≤ b) {bs : Bytes} {i : ℕ} (hi : i < g.length)
    (hlen : i + 4 ≤ (g ++ bs).length) : ¬ Plausible (window (g ++ bs) i) := by
  have hw := length_window hlen
  obtain ⟨b, t, hbt⟩ : ∃ b t, window (g ++ bs) i = b :: t := List.exists_cons_of_length_eq_add_one hw
  have hb : b ∈ g := by
    have hhead := congrArg List.head? hbt
    rw [window, List.drop_append_of_le_length hi.le, List.drop_eq_getElem_cons hi] at hhead
    exact Option.some.inj hhead ▸ List.getElem_mem hi
  have hge : 2 ≤ b.toNat := UInt8.le_iff_toNat_le.mp (h b hb)
  rw [hbt, List.length_cons] at hw
  rw [hbt, Plausible, BigEndian.value_cons, Nat.succ.inj hw, usbMaxFrame]
  omega

theorem usb_stream_recovered (segments : List (Bytes × Bytes))
    (h : ∀ s ∈ segments, s.1.length ≤ 4096 ∧ (∀ b ∈ s.1, 2 ≤ b) ∧ 0 < s.2.length ∧ s.2.length ≤ 16 * 1024 * 1024) :
    ∃ stream, usbStream segments = .ok stream ∧
      readFrames segments.length stream = .ok (segments.map Prod.snd) [] := by
  induction segments with
  | nil => exact ⟨[], rfl, rfl⟩
  | cons s segments ih =>
    obtain ⟨⟨hg, hlog, hp, hmax⟩, hrest⟩ := List.forall_mem_cons.mp h
    obtain ⟨stream, hstream, hread⟩ := ih hrest
    have hf := frameForUsb_ok (lt_of_le_of_lt hmax (by norm_num))
    have hhead := reads_of_implausible hp hmax hf hg stream fun i hi => log_implausible hlog hi (by simp; omega)
    refine ⟨_, by rw [usbStream, hf, hstream]; rfl, ?_⟩
    rw [List.length_cons, readFrames, Reader.bind_ok _ hhead, Reader.bind_ok _ hread]
    rfl

theorem usb_stream_recovered_log : ∃ stream, usbStream [([0x4F, 0x4B], [0x7B]), ([], [0xAA])] = .ok stream ∧
    readFrames 2 stream = .ok [[0x7B], [0xAA]] [] :=
  usb_stream_recovered [([0x4F, 0x4B], [0x7B]), ([], [0xAA])] (by simp)

end HaBluetooth.Protocol
