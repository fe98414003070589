import Mathlib.Tactic

/-! A linear feedback shift register reading one bit at a time, most significant end first.
The register after a bit string is linear over exclusive or, and a register whose feedback
polynomial has a constant term never forgets an error confined to its own width. -/

namespace HaBluetooth.Support.ShiftRegister

variable {w : ℕ} (poly : BitVec w)

def shift (r : BitVec w) : BitVec w := if r.msb then (r <<< 1) ^^^ poly else r <<< 1

def feed (r : BitVec w) (b : Bool) : BitVec w := shift poly (if b then r ^^^ BitVec.intMin w else r)

def run (r : BitVec w) (bs : List Bool) : BitVec w := bs.foldl (feed poly) r

@[simp] lemma run_nil (r : BitVec w) : run poly r [] = r := rfl

@[simp] lemma run_cons (r : BitVec w) (b : Bool) (bs : List Bool) :
    run poly r (b :: bs) = run poly (feed poly r b) bs := rfl

lemma run_append (r : BitVec w) (xs ys : List Bool) :
    run poly r (xs ++ ys) = run poly (run poly r xs) ys := List.foldl_append

lemma xor_cancel_right (a b p : BitVec w) : (a ^^^ p) ^^^ (b ^^^ p) = a ^^^ b := by
  rw [BitVec.xor_comm b p, BitVec.xor_assoc, ← BitVec.xor_assoc p, BitVec.xor_self, BitVec.zero_xor]

lemma shift_xor (a b : BitVec w) : shift poly (a ^^^ b) = shift poly a ^^^ shift poly b := by
  simp only [shift, BitVec.msb_xor, BitVec.shiftLeft_xor_distrib]
  cases a.msb <;> cases b.msb
  · rfl
  · exact BitVec.xor_assoc _ _ _
  · change a <<< 1 ^^^ b <<< 1 ^^^ poly = a <<< 1 ^^^ poly ^^^ b <<< 1
    rw [BitVec.xor_assoc, BitVec.xor_comm (b <<< 1), BitVec.xor_assoc]
  · exact (xor_cancel_right _ _ _).symm

@[simp] lemma shift_zero : shift poly 0 = 0 := by simp [shift]

lemma feed_xor (a b : BitVec w) (x y : Bool) :
    feed poly (a ^^^ b) (x ^^ y) = feed poly a x ^^^ feed poly b y := by
  simp only [feed, ← shift_xor]
  congr 1
  cases x <;> cases y
  · rfl
  · exact BitVec.xor_assoc _ _ _
  · change a ^^^ b ^^^ BitVec.intMin w = a ^^^ BitVec.intMin w ^^^ b
    rw [BitVec.xor_assoc, BitVec.xor_comm b, BitVec.xor_assoc]
  · exact (xor_cancel_right _ _ _).symm

lemma run_xor (a b : BitVec w) (xs ys : List Bool) (h : xs.length = ys.length) :
    run poly (a ^^^ b) (List.zipWith (· ^^ ·) xs ys) = run poly a xs ^^^ run poly b ys := by
  induction xs generalizing a b ys with
  | nil =>
    obtain rfl : ys = [] := List.length_eq_zero_iff.mp h.symm
    rfl
  | cons x xs ih =>
    obtain ⟨y, ys, rfl⟩ : ∃ y zs, ys = y :: zs := List.exists_cons_of_length_eq_add_one h.symm
    simp only [List.zipWith_cons_cons, run_cons, feed_xor]
    exact ih _ _ ys (by simpa using h)

/-! ### Loading a block of bits at once -/

def load (w : ℕ) : List Bool → BitVec w
  | [] => 0
  | b :: bs => (if b then BitVec.intMin w else 0) ^^^ (load w bs >>> 1)

lemma getMsbD_load (bs : List Bool) (i : ℕ) (hi : i < w) :
    (load w bs).getMsbD i = bs.getD i false := by
  induction bs generalizing i with
  | nil => simp [load]
  | cons b bs ih =>
    cases i with
    | zero => cases b <;> simp [load, hi, BitVec.getMsbD_intMin]
    | succ i =>
      have hh := ih i (by omega)
      cases b <;> simp_all [load, BitVec.getMsbD_intMin]

lemma load_eq_zero {bs : List Bool} (hw : bs.length ≤ w) (h : load w bs = 0) : ∀ b ∈ bs, b = false := by
  intro b hb
  obtain ⟨i, hi, rfl⟩ := List.mem_iff_getElem.mp hb
  have hm := getMsbD_load bs i (by omega : i < w)
  simpa [h, hi] using hm.symm

lemma load_append {m n : ℕ} (xs ys : List Bool) (h : xs.length = m) :
    load (m + n) (xs ++ ys) = load m xs ++ load n ys := by
  apply BitVec.eq_of_getMsbD_eq
  intro i hi
  rw [getMsbD_load _ _ hi, BitVec.getMsbD_append, List.getD_eq_getElem?_getD]
  by_cases hm : i < m
  · rw [List.getElem?_append_left (by omega), ← List.getD_eq_getElem?_getD, ← getMsbD_load xs i hm]
    simp [show ¬ m ≤ i by omega]
  · rw [List.getElem?_append_right (by omega), ← List.getD_eq_getElem?_getD, h,
      ← getMsbD_load (w := n) ys (i - m) (by omega)]
    simp [show m ≤ i by omega]

lemma shift_load (bs : List Bool) (h : bs.length < w) : shift poly (load w bs >>> 1) = load w bs := by
  have hm : (load w bs >>> 1).msb = false := by simp
  have hl : (load w bs).getLsbD 0 = false := by
    rw [BitVec.getLsbD_eq_getMsbD, getMsbD_load bs _ (by omega), List.getD_eq_getElem?_getD,
      List.getElem?_eq_none (by omega), Option.getD_none, Bool.and_false]
  simp only [shift, hm, Bool.false_eq_true, if_false]
  apply BitVec.eq_of_getLsbD_eq
  intro i hi
  cases i with
  | zero => simp [hl]
  | succ i => simp [hi, Nat.add_comm 1 i]

lemma run_load (r : BitVec w) (bs : List Bool) (h : bs.length ≤ w) :
    run poly r bs = (shift poly)^[bs.length] (r ^^^ load w bs) := by
  induction bs generalizing r with
  | nil => simp [load]
  | cons b bs ih =>
    rw [List.length_cons] at h ⊢
    rw [run_cons, ih _ (by omega), Function.iterate_succ_apply]
    congr 1
    conv_lhs => rw [← shift_load poly bs (by omega)]
    rw [feed, ← shift_xor, load]
    congr 1
    cases b
    · simp
    · simp [BitVec.xor_assoc]

lemma run_false (n : ℕ) (r : BitVec w) : run poly r (List.replicate n false) = (shift poly)^[n] r := by
  induction n generalizing r with
  | zero => rfl
  | succ n ih => simp [List.replicate_succ, ih, feed]

/-! ### Nothing is lost when the polynomial has a constant term -/

section Faithful

variable {poly} (hp : poly.getLsbD 0 = true)
include hp

lemma shift_eq_zero {r : BitVec w} : shift poly r = 0 ↔ r = 0 := by
  refine ⟨fun h => ?_, fun h => h ▸ shift_zero poly⟩
  cases hm : r.msb with
  | false =>
    simp only [shift, hm, Bool.false_eq_true, if_false] at h
    apply BitVec.eq_of_getLsbD_eq
    intro i hi
    by_cases hl : i + 1 = w
    · have hb : r.msb = r.getLsbD i := by
        rw [BitVec.msb_eq_getLsbD_last, show w - 1 = i by omega]
      rw [← hb, hm]
      simp
    · have hh := congrArg (fun v => v.getLsbD (i + 1)) h
      simpa [show i + 1 < w by omega, hi, Nat.add_comm 1 i] using hh
  | true =>
    simp only [shift, hm, if_true] at h
    have hh := congrArg (fun v => v.getLsbD 0) h
    simp [hp] at hh

lemma iterate_eq_zero (n : ℕ) {r : BitVec w} : (shift poly)^[n] r = 0 ↔ r = 0 := by
  induction n generalizing r with
  | zero => rfl
  | succ n ih => rw [Function.iterate_succ_apply, ih, shift_eq_zero hp]

lemma burst_zero {bs : List Bool} {s : ℕ} (hwin : ∀ i, bs[i]? = some true → s ≤ i ∧ i < s + w)
    (hrun : run poly 0 bs = 0) : ∀ b ∈ bs, b = false := by
  have hout : ∀ i b, bs[i]? = some b → ¬ (s ≤ i ∧ i < s + w) → b = false := by
    intro i b hb hn
    cases b with
    | false => rfl
    | true => exact (hn (hwin i hb)).elim
  have hleft : bs.take s = List.replicate (bs.take s).length false := by
    refine List.eq_replicate_iff.mpr ⟨rfl, fun b hb => ?_⟩
    obtain ⟨i, hi, he⟩ := List.mem_take_iff_getElem.mp hb
    exact hout i b (List.getElem?_eq_some_iff.mpr ⟨by omega, he⟩) (by omega)
  have hright : (bs.drop s).drop w = List.replicate ((bs.drop s).drop w).length false := by
    refine List.eq_replicate_iff.mpr ⟨rfl, fun b hb => ?_⟩
    rw [List.drop_drop] at hb
    obtain ⟨i, hi, he⟩ := List.mem_drop_iff_getElem.mp hb
    exact hout (s + w + i) b (List.getElem?_eq_some_iff.mpr ⟨by omega, he⟩) (by omega)
  have hsplit : bs = bs.take s ++ ((bs.drop s).take w ++ (bs.drop s).drop w) := by
    rw [List.take_append_drop, List.take_append_drop]
  have hmid : load w ((bs.drop s).take w) = 0 := by
    rw [hsplit, run_append, run_append, hleft, run_false, (iterate_eq_zero hp _).mpr rfl, hright,
      run_false, iterate_eq_zero hp, run_load poly 0 _ (by simp), iterate_eq_zero hp] at hrun
    simpa using hrun
  intro b hb
  rw [hsplit, List.mem_append, List.mem_append, hleft, hright] at hb
  rcases hb with hb | hb | hb
  · exact List.eq_of_mem_replicate hb
  · exact load_eq_zero (by simp) hmid b hb
  · exact List.eq_of_mem_replicate hb

end Faithful

end HaBluetooth.Support.ShiftRegister
