import HaBluetooth.Support.ShiftRegister
import Mathlib.Algebra.CharP.Two
import Mathlib.Algebra.Polynomial.OfFn
import Mathlib.RingTheory.AdjoinRoot

/-! The shift register divides polynomials over the field of two elements: the register is the
remainder of what it has read, and a string that leaves it at zero is a multiple of the modulus. -/

namespace HaBluetooth.Support.ShiftRegister

open Polynomial

variable {w : ℕ}

noncomputable def toPoly (r : BitVec w) : (ZMod 2)[X] := ofFn w fun i => ((r.getLsbD i).toNat : ZMod 2)

/-- The first bit is the leading coefficient. -/
noncomputable def ofBits (bs : List Bool) : (ZMod 2)[X] := bs.foldl (fun p b => p * X + C (b.toNat : ZMod 2)) 0

variable (poly : BitVec w)

noncomputable def modulus : (ZMod 2)[X] := X ^ w + toPoly poly

noncomputable def residue (r : BitVec w) : AdjoinRoot (modulus poly) := AdjoinRoot.mk _ (toPoly r)

/-! ### Bit strings as polynomials -/

@[simp] lemma ofBits_nil : ofBits [] = 0 := rfl

lemma ofBits_snoc (bs : List Bool) (b : Bool) : ofBits (bs ++ [b]) = ofBits bs * X + C (b.toNat : ZMod 2) := by
  rw [ofBits, List.foldl_append]
  rfl

lemma ofBits_append (xs ys : List Bool) : ofBits (xs ++ ys) = ofBits xs * X ^ ys.length + ofBits ys := by
  induction ys using List.reverseRecOn with
  | nil => simp
  | append_singleton ys b ih =>
    rw [← List.append_assoc, ofBits_snoc, ofBits_snoc, ih, List.length_append, List.length_singleton, pow_succ]
    ring

lemma ofBits_singleton (b : Bool) : ofBits [b] = C (b.toNat : ZMod 2) := by
  rw [← List.nil_append [b], ofBits_snoc, ofBits_nil, zero_mul, zero_add]

lemma ofBits_cons (b : Bool) (bs : List Bool) :
    ofBits (b :: bs) = C (b.toNat : ZMod 2) * X ^ bs.length + ofBits bs := by
  rw [← List.singleton_append, ofBits_append, ofBits_singleton]

lemma ofBits_false {bs : List Bool} (h : ∀ b ∈ bs, b = false) : ofBits bs = 0 := by
  induction bs with
  | nil => rfl
  | cons b bs ih =>
    obtain ⟨rfl, hbs⟩ := List.forall_mem_cons.mp h
    rw [ofBits_cons, ih hbs]
    simp

lemma coeff_ofBits (bs : List Bool) (k : ℕ) : (ofBits bs).coeff k = ((bs.reverse.getD k false).toNat : ZMod 2) := by
  induction bs using List.reverseRecOn generalizing k with
  | nil => simp
  | append_singleton bs b ih =>
    rw [ofBits_snoc, coeff_add, List.reverse_append, List.reverse_singleton, List.singleton_append]
    cases k with
    | zero => simp
    | succ k => rw [coeff_mul_X, ih, coeff_C_succ, add_zero, List.getD_cons_succ]

/-! ### Registers as polynomials -/

lemma coeff_toPoly (r : BitVec w) (k : ℕ) : (toPoly r).coeff k = ((r.getLsbD k).toNat : ZMod 2) := by
  rw [toPoly]
  rcases lt_or_ge k w with hk | hk
  · exact ofFn_coeff_eq_val_of_lt _ hk
  · rw [ofFn_coeff_eq_zero_of_ge _ hk, BitVec.getLsbD_of_ge r k hk]
    rfl

lemma degree_toPoly (r : BitVec w) : (toPoly r).degree < w := ofFn_degree_lt _

lemma toNat_cast_injective {a b : Bool} (h : (a.toNat : ZMod 2) = b.toNat) : a = b := by
  revert h
  cases a <;> cases b <;> decide

lemma toPoly_injective : Function.Injective (toPoly : BitVec w → (ZMod 2)[X]) := by
  intro r s h
  apply BitVec.eq_of_getLsbD_eq
  intro i _
  have hc := congrArg (fun p => p.coeff i) h
  simp only [coeff_toPoly] at hc
  exact toNat_cast_injective hc

@[simp] lemma toPoly_zero : toPoly (0 : BitVec w) = 0 := by
  ext k
  simp [coeff_toPoly]

lemma xor_cast (a b : Bool) : ((a ^^ b).toNat : ZMod 2) = a.toNat + b.toNat := by
  cases a <;> cases b <;> decide

lemma toPoly_xor (r s : BitVec w) : toPoly (r ^^^ s) = toPoly r + toPoly s := by
  ext k
  rw [coeff_add, coeff_toPoly, coeff_toPoly, coeff_toPoly, BitVec.getLsbD_xor, xor_cast]

lemma toPoly_intMin (hw : 0 < w) : toPoly (BitVec.intMin w) = X ^ (w - 1) := by
  ext k
  rw [coeff_toPoly, BitVec.getLsbD_intMin, coeff_X_pow]
  by_cases hk : k + 1 = w
  · subst hk
    simp
  · have hne : k ≠ w - 1 := by omega
    simp [hk, hne]

lemma toPoly_load {bs : List Bool} (h : bs.length = w) : toPoly (load w bs) = ofBits bs := by
  ext k
  rw [coeff_toPoly, coeff_ofBits]
  congr 2
  rcases lt_or_ge k w with hk | hk
  · rw [BitVec.getLsbD_eq_getMsbD, getMsbD_load bs _ (by omega)]
    simp only [hk, decide_true, Bool.true_and, List.getD_eq_getElem?_getD, List.getElem?_reverse (h ▸ hk), h]
  · rw [BitVec.getLsbD_of_ge _ _ hk, List.getD_eq_default _ _ (by simpa [h] using hk)]

lemma shiftLeft_toPoly (r : BitVec w) : toPoly (r <<< 1) + C (r.msb.toNat : ZMod 2) * X ^ w = X * toPoly r := by
  ext k
  rw [coeff_add, coeff_toPoly, coeff_C_mul, coeff_X_pow]
  cases k with
  | zero =>
    rw [coeff_X_mul_zero]
    rcases Nat.eq_zero_or_pos w with rfl | hw
    · simp [BitVec.msb_eq_getLsbD_last]
    · simp [hw.ne]
  | succ k =>
    rw [coeff_X_mul, coeff_toPoly, BitVec.getLsbD_shiftLeft]
    by_cases hk : k + 1 = w
    · subst hk
      simp [BitVec.msb_eq_getLsbD_last]
    · rcases lt_or_ge k w with hlt | hge
      · simp [hk, show k + 1 < w by omega]
      · simp [hk, show ¬ k + 1 < w by omega, BitVec.getLsbD_of_ge r k hge]

lemma shift_toPoly (r : BitVec w) :
    toPoly (shift poly r) + C (r.msb.toNat : ZMod 2) * modulus poly = X * toPoly r := by
  rw [← shiftLeft_toPoly, shift, modulus]
  cases r.msb with
  | false => simp
  | true =>
    have htwo : toPoly poly + toPoly poly = 0 := CharTwo.add_self_eq_zero _
    simp only [if_true, toPoly_xor, Bool.toNat_true, Nat.cast_one, C_1, one_mul]
    rw [add_assoc, add_left_comm (toPoly poly), htwo, add_zero]

/-! ### Residues -/

lemma modulus_monic : (modulus poly).Monic := monic_X_pow_add (degree_toPoly poly)

lemma degree_modulus : (modulus poly).degree = w := by
  have hlt : (toPoly poly).degree < (X ^ w : (ZMod 2)[X]).degree := by
    rw [degree_X_pow]
    exact degree_toPoly poly
  rw [modulus, degree_add_eq_left_of_degree_lt hlt, degree_X_pow]

lemma toPoly_mod (r : BitVec w) : toPoly r %ₘ modulus poly = toPoly r := by
  rw [modByMonic_eq_self_iff (modulus_monic poly), degree_modulus]
  exact degree_toPoly r

lemma residue_injective : Function.Injective (residue poly) := by
  intro r s h
  apply toPoly_injective
  rw [← toPoly_mod poly r, ← toPoly_mod poly s]
  exact modByMonic_eq_of_dvd_sub (modulus_monic poly) (AdjoinRoot.mk_eq_mk.mp h)

lemma residue_xor (r s : BitVec w) : residue poly (r ^^^ s) = residue poly r + residue poly s := by
  rw [residue, toPoly_xor, map_add]
  rfl

lemma residue_shift (r : BitVec w) : residue poly (shift poly r) = AdjoinRoot.root (modulus poly) * residue poly r := by
  have h := congrArg (AdjoinRoot.mk (modulus poly)) (shift_toPoly poly r)
  rwa [map_add, map_mul, AdjoinRoot.mk_self, mul_zero, add_zero, map_mul, AdjoinRoot.mk_X] at h

lemma residue_feed (hw : 0 < w) (r : BitVec w) (b : Bool) :
    residue poly (feed poly r b) = AdjoinRoot.root (modulus poly) * residue poly r +
      AdjoinRoot.root (modulus poly) ^ w * AdjoinRoot.mk _ (C (b.toNat : ZMod 2)) := by
  rw [feed, residue_shift]
  cases b with
  | false => simp
  | true =>
    have htop : residue poly (BitVec.intMin w) = AdjoinRoot.root (modulus poly) ^ (w - 1) := by
      rw [residue, toPoly_intMin hw, map_pow, AdjoinRoot.mk_X]
    rw [if_pos rfl, residue_xor, mul_add, htop, ← pow_succ', Nat.sub_add_cancel hw]
    simp

lemma residue_run (hw : 0 < w) (r : BitVec w) (bs : List Bool) :
    residue poly (run poly r bs) =
      AdjoinRoot.mk _ (toPoly r * X ^ bs.length + ofBits bs * X ^ w) := by
  induction bs generalizing r with
  | nil => simp [residue]
  | cons b bs ih =>
    have hfeed := residue_feed poly hw r b
    rw [residue] at hfeed
    rw [run_cons, ih, ofBits_cons, List.length_cons]
    simp only [map_add, map_mul, map_pow, AdjoinRoot.mk_X] at hfeed ⊢
    rw [hfeed, residue]
    ring

theorem toPoly_run (hw : 0 < w) (r : BitVec w) (bs : List Bool) :
    toPoly (run poly r bs) = (toPoly r * X ^ bs.length + ofBits bs * X ^ w) %ₘ modulus poly := by
  rw [← toPoly_mod poly (run poly r bs)]
  exact modByMonic_eq_of_dvd_sub (modulus_monic poly) (AdjoinRoot.mk_eq_mk.mp (residue_run poly hw r bs))

section

variable {poly} (hp : poly.getLsbD 0 = true)
include hp

lemma coprime_X_modulus : IsCoprime X (modulus poly) := by
  rw [irreducible_X.coprime_iff_not_dvd, X_dvd_iff, modulus, coeff_add, coeff_toPoly, hp]
  have hw : w ≠ 0 := by
    rintro rfl
    simp at hp
  simp [coeff_X_pow, hw.symm]

lemma run_zero_iff {bs : List Bool} : run poly 0 bs = 0 ↔ modulus poly ∣ ofBits bs := by
  have hw : 0 < w := by
    rcases Nat.eq_zero_or_pos w with rfl | hw
    · simp at hp
    · exact hw
  have hrun := residue_run poly hw 0 bs
  rw [toPoly_zero, zero_mul, zero_add] at hrun
  have hzero : residue poly 0 = 0 := by rw [residue, toPoly_zero, map_zero]
  constructor
  · intro h
    rw [h, hzero, eq_comm, AdjoinRoot.mk_eq_zero] at hrun
    exact (coprime_X_modulus hp).symm.pow_right.dvd_of_dvd_mul_right hrun
  · intro h
    apply residue_injective poly
    rw [hrun, hzero, AdjoinRoot.mk_eq_zero]
    exact h.mul_right _

end

/-! ### Multiplication, and powers of the root -/

def bitsOf (r : BitVec w) : List Bool := (List.range w).map r.getMsbD

def mul (a b : BitVec w) : BitVec w :=
  (bitsOf b).foldl (fun r bit => if bit then shift poly r ^^^ a else shift poly r) 0

lemma load_bitsOf (r : BitVec w) : load w (bitsOf r) = r := by
  apply BitVec.eq_of_getMsbD_eq
  intro i hi
  rw [getMsbD_load _ _ hi]
  simp [bitsOf, hi]

lemma ofBits_bitsOf (r : BitVec w) : ofBits (bitsOf r) = toPoly r := by
  have hlen : (bitsOf r).length = w := by simp [bitsOf]
  rw [← toPoly_load hlen, load_bitsOf]

lemma residue_foldl (a r : BitVec w) (bs : List Bool) :
    residue poly (bs.foldl (fun r bit => if bit then shift poly r ^^^ a else shift poly r) r) =
      AdjoinRoot.root (modulus poly) ^ bs.length * residue poly r +
        residue poly a * AdjoinRoot.mk _ (ofBits bs) := by
  induction bs generalizing r with
  | nil => simp
  | cons b bs ih =>
    have hstep : residue poly (if b then shift poly r ^^^ a else shift poly r) =
        AdjoinRoot.root (modulus poly) * residue poly r + residue poly a * AdjoinRoot.mk _ (C (b.toNat : ZMod 2)) := by
      cases b with
      | false => simp [residue_shift]
      | true => simp [residue_xor, residue_shift]
    rw [List.foldl_cons, ih, hstep, ofBits_cons, List.length_cons, map_add, map_mul, map_pow, AdjoinRoot.mk_X]
    ring

lemma residue_mul (a b : BitVec w) : residue poly (mul poly a b) = residue poly a * residue poly b := by
  have hzero : residue poly 0 = 0 := by rw [residue, toPoly_zero, map_zero]
  rw [mul, residue_foldl, hzero, mul_zero, zero_add, ofBits_bitsOf]
  rfl

lemma residue_one (hw : 0 < w) : residue poly 1#w = 1 := by
  have hone : toPoly 1#w = 1 := by
    ext k
    rw [coeff_toPoly, coeff_one]
    cases k with
    | zero => simp [hw]
    | succ k => simp
  rw [residue, hone, map_one]

lemma residue_squares {vs : List (BitVec w)} {n : ℕ}
    (h : ∀ k < n, mul poly (vs.getD k 0) (vs.getD k 0) = vs.getD (k + 1) 0) {k : ℕ} (hk : k ≤ n) :
    residue poly (vs.getD k 0) = residue poly (vs.getD 0 0) ^ 2 ^ k := by
  induction k with
  | zero => rw [pow_zero, pow_one]
  | succ k ih => rw [← h k hk, residue_mul, ih (Nat.le_of_lt hk), ← pow_two, ← pow_mul, ← pow_succ]

lemma residue_product (hw : 0 < w) (vs : List (BitVec w)) :
    residue poly (vs.foldr (mul poly) 1#w) = (vs.map (residue poly)).prod := by
  induction vs with
  | nil => exact residue_one poly hw
  | cons v vs ih => rw [List.foldr_cons, residue_mul, ih, List.map_cons, List.prod_cons]

lemma isUnit_root {poly : BitVec w} (hp : poly.getLsbD 0 = true) : IsUnit (AdjoinRoot.root (modulus poly)) := by
  obtain ⟨u, v, huv⟩ := coprime_X_modulus hp
  have h := congrArg (AdjoinRoot.mk (modulus poly)) huv
  rw [map_add, map_mul, map_mul, AdjoinRoot.mk_self, mul_zero, add_zero, AdjoinRoot.mk_X, map_one] at h
  exact IsUnit.of_mul_eq_one_right _ h

/-! ### Few bits, and an odd number of them -/

lemma eval_ofBits (bs : List Bool) : (ofBits bs).eval 1 = (bs.count true : ZMod 2) := by
  induction bs using List.reverseRecOn with
  | nil => simp
  | append_singleton bs b ih =>
    rw [ofBits_snoc, eval_add, eval_mul, eval_X, mul_one, eval_C, ih, List.count_append]
    cases b <;> simp

lemma odd_not_dvd {poly : BitVec w} (heven : (modulus poly).eval 1 = 0) {bs : List Bool} (hodd : Odd (bs.count true)) :
    ¬ modulus poly ∣ ofBits bs := by
  rintro ⟨q, hq⟩
  have h := congrArg (eval 1) hq
  rw [eval_ofBits, eval_mul, heven, zero_mul] at h
  exact (Nat.not_even_iff_odd.mpr hodd) (even_iff_two_dvd.mpr ((ZMod.natCast_eq_zero_iff _ 2).mp h))

def TwoBits (bs : List Bool) (i j : ℕ) : Prop := i < j ∧ ∀ k, bs[k]? = some true ↔ k = i ∨ k = j

lemma getD_reverse {bs : List Bool} {k : ℕ} (hk : k < bs.length) :
    bs.reverse.getD k false = true ↔ bs[bs.length - 1 - k]? = some true := by
  rw [List.getD_eq_getElem?_getD, List.getElem?_reverse hk]
  cases bs[bs.length - 1 - k]? <;> simp

lemma ofBits_twoBits {bs : List Bool} {i j : ℕ} (h : TwoBits bs i j) :
    ofBits bs = (X ^ (j - i) + 1) * X ^ (bs.length - 1 - j) := by
  obtain ⟨hij, hbits⟩ := h
  have hj : j < bs.length := (List.getElem?_eq_some_iff.mp ((hbits j).mpr (.inr rfl))).1
  ext k
  rw [coeff_ofBits, add_mul, one_mul, ← pow_add, coeff_add, coeff_X_pow, coeff_X_pow]
  rcases lt_or_ge k bs.length with hk | hk
  · have hbit := (getD_reverse hk).trans (hbits _)
    by_cases hi : bs.length - 1 - k = i
    · rw [hbit.mpr (.inl hi), if_pos (by omega), if_neg (by omega)]
      simp
    · by_cases hlast : bs.length - 1 - k = j
      · rw [hbit.mpr (.inr hlast), if_neg (by omega), if_pos (by omega)]
        simp
      · have hzero : bs.reverse.getD k false = false := by
          rw [← Bool.not_eq_true, hbit]
          exact not_or.mpr ⟨hi, hlast⟩
        rw [hzero, if_neg (by omega), if_neg (by omega)]
        simp
  · rw [List.getD_eq_default _ _ (by simpa using hk), if_neg (by omega), if_neg (by omega)]
    simp

lemma twoBits_not_dvd {poly : BitVec w} (hp : poly.getLsbD 0 = true) {bs : List Bool} {i j : ℕ} (h : TwoBits bs i j)
    (hn : j - i < orderOf (AdjoinRoot.root (modulus poly))) : ¬ modulus poly ∣ ofBits bs := by
  rw [ofBits_twoBits h]
  intro hdvd
  have hpow : modulus poly ∣ X ^ (j - i) + 1 := (coprime_X_modulus hp).symm.pow_right.dvd_of_dvd_mul_right hdvd
  have hroot := AdjoinRoot.mk_eq_zero.mpr hpow
  rw [map_add, map_pow, AdjoinRoot.mk_X, map_one] at hroot
  have hone : AdjoinRoot.root (modulus poly) ^ (j - i) = 1 := by
    have htwo : (1 : AdjoinRoot (modulus poly)) + 1 = 0 := by
      rw [← map_one (AdjoinRoot.mk (modulus poly)), ← map_add, CharTwo.add_self_eq_zero, map_zero]
    exact (eq_neg_of_add_eq_zero_left hroot).trans (eq_neg_of_add_eq_zero_left htwo).symm
  exact (Nat.le_of_dvd (Nat.sub_pos_of_lt h.1) (orderOf_dvd_of_pow_eq_one hone)).not_gt hn

end HaBluetooth.Support.ShiftRegister
