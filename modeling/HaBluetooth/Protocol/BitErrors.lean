import HaBluetooth.Protocol.CrcDivision
import Mathlib.Tactic.NormNum.Prime

/-! Transmission errors in an odd number of bits, or in two bits that are not too far apart. The
modulus is a multiple of x + 1, and x has order 32767 modulo it. -/

namespace HaBluetooth.Protocol

open Python Support ShiftRegister BitStrings Polynomial

lemma overlooked_dvd {p c f : ℕ} {payload packet e : Bytes} (henc : encodePacket p c payload f = .ok packet)
    (hlen : e.length = packet.length) (h : decodePacket (xorBytes packet e) ≠ none) :
    modulus generator ∣ ofBits (bitString e) := by
  obtain ⟨e₀, e₁, e₃, rfl, -, hz₀, hz₃, hrun⟩ := overlooked_codeword henc hlen h
  have hzero : ∀ {bs : Bytes}, (∀ b ∈ bs, b = 0) → ofBits (bitString bs) = 0 := by
    intro bs hbs
    refine ofBits_false fun b hb => ?_
    obtain ⟨x, hx, hbx⟩ := List.mem_flatMap.mp hb
    rw [hbs x hx] at hbx
    exact (show ∀ b ∈ bits 0, b = false by decide) b hbx
  rw [bitString_append, bitString_append, ofBits_append, ofBits_append, hzero hz₀, hzero hz₃, zero_mul, zero_add,
    add_zero]
  exact ((run_zero_iff generator_constant).mp hrun).mul_right _

lemma modulus_even : (modulus generator).eval 1 = 0 := by
  rw [modulus_generator]
  simp only [eval_add, eval_pow, eval_X, eval_one, one_pow]
  decide

/-! ### The order of x -/

-- x, x², x⁴, and so on up to the exponent 2¹⁵, where x comes back
def squares : List (BitVec 16) :=
  [0x2, 0x4, 0x10, 0x100, 0x1021, 0x3730, 0xb861, 0xaefc, 0x8e29, 0x13fc, 0x36c4, 0xfd50, 0xaa9e, 0x881c, 0x4458, 0x2]

lemma squares_chain : ∀ k < 15, mul generator (squares.getD k 0) (squares.getD k 0) = squares.getD (k + 1) 0 := by
  decide +kernel

lemma residue_square {k : ℕ} (hk : k ≤ 15) :
    residue generator (squares.getD k 0) = AdjoinRoot.root (modulus generator) ^ 2 ^ k := by
  have htwo : squares.getD 0 0 = shift generator 1#16 := by decide
  rw [residue_squares generator squares_chain hk, htwo, residue_shift, residue_one generator (by decide), mul_one]

lemma pow_pred_eq_one {M : Type*} [Monoid M] {u : M} (hu : IsUnit u) {n : ℕ} (hn : 0 < n) (h : u ^ n = u) :
    u ^ (n - 1) = 1 := by
  apply hu.mul_left_cancel
  rw [mul_one, ← pow_succ', Nat.sub_add_cancel hn, h]

lemma root_pow_period : AdjoinRoot.root (modulus generator) ^ (2 ^ 15 - 1) = 1 := by
  apply pow_pred_eq_one (isUnit_root generator_constant) (by decide)
  rw [← residue_square (le_refl 15)]
  exact (residue_square (Nat.zero_le 15)).trans (pow_one _)

lemma root_pow_ne_one (ks : List ℕ) (hks : ∀ k ∈ ks, k ≤ 15)
    (h : (ks.map fun k => squares.getD k 0).foldr (mul generator) 1#16 ≠ 1#16) :
    AdjoinRoot.root (modulus generator) ^ (ks.map (2 ^ ·)).sum ≠ 1 := by
  have hprod := residue_product generator (by decide) (ks.map fun k => squares.getD k 0)
  have hpow : ∀ ls : List ℕ, (∀ k ∈ ls, k ≤ 15) →
      ((ls.map fun k => squares.getD k 0).map (residue generator)).prod =
        AdjoinRoot.root (modulus generator) ^ (ls.map (2 ^ ·)).sum := by
    intro ls hls
    induction ls with
    | nil => rfl
    | cons k ls ih =>
      obtain ⟨hk, hls⟩ := List.forall_mem_cons.mp hls
      rw [List.map_cons, List.map_cons, List.prod_cons, residue_square hk, ih hls, List.map_cons, List.sum_cons,
        pow_add]
  intro hone
  rw [hpow ks hks, hone, ← residue_one generator (by decide)] at hprod
  exact h (residue_injective generator hprod)

lemma order_root : orderOf (AdjoinRoot.root (modulus generator)) = 2 ^ 15 - 1 := by
  refine orderOf_eq_of_pow_and_pow_div_prime (by decide) root_pow_period fun p hp hdvd => ?_
  have hfactor : p = 7 ∨ p = 31 ∨ p = 151 := by
    rw [show 2 ^ 15 - 1 = 7 * (31 * 151) by decide, hp.dvd_mul, hp.dvd_mul] at hdvd
    rcases hdvd with h | h | h
    · exact .inl ((Nat.prime_dvd_prime_iff_eq hp (by norm_num)).mp h)
    · exact .inr (.inl ((Nat.prime_dvd_prime_iff_eq hp (by norm_num)).mp h))
    · exact .inr (.inr ((Nat.prime_dvd_prime_iff_eq hp (by norm_num)).mp h))
  rcases hfactor with rfl | rfl | rfl
  · exact root_pow_ne_one [0, 3, 6, 9, 12] (by decide) (by decide +kernel)
  · exact root_pow_ne_one [0, 5, 10] (by decide) (by decide +kernel)
  · exact root_pow_ne_one [0, 3, 4, 6, 7] (by decide) (by decide +kernel)

/-! ### The decoder -/

theorem bit_errors_detected {p c f : ℕ} {payload packet e : Bytes} (henc : encodePacket p c payload f = .ok packet)
    (hlen : e.length = packet.length)
    (herr : Odd ((bitString e).count true) ∨ ∃ i j, TwoBits (bitString e) i j ∧ j - i < 32767) :
    decodePacket (xorBytes packet e) = none := by
  by_contra hr
  have hdvd := overlooked_dvd henc hlen hr
  rcases herr with hodd | ⟨i, j, htwo, hij⟩
  · exact odd_not_dvd modulus_even hodd hdvd
  · exact twoBits_not_dvd generator_constant htwo (by rwa [order_root]) hdvd

def farApart : Bytes := [0, 0, 0x40, 0, 0, 0, 0, 0, 0, 0, 0, 0x02, 0, 0]

lemma farApart_twoBits : TwoBits (bitString farApart) 17 94 := by
  have hlen : (bitString farApart).length = 112 := by decide
  refine ⟨by decide, fun k => ?_⟩
  rcases lt_or_ge k 112 with hk | hk
  · revert k
    decide +kernel
  · rw [List.getElem?_eq_none (hlen.trans_le hk)]
    constructor
    · exact nofun
    · rintro (rfl | rfl)
      · omega
      · omega

theorem bit_errors_detected_in_areas :
    decodePacket (xorBytes [0xAA, 0xBB, 0, 0, 0, 1, 0x10, 0, 0, 0, 0x80, 0xC8, 0xCC, 0xDD]
      [0, 0, 0, 0, 0, 0, 0x15, 0, 0, 0, 0, 0, 0, 0]) = none ∧
    decodePacket (xorBytes [0xAA, 0xBB, 0, 0, 0, 1, 0x10, 0, 0, 0, 0x80, 0xC8, 0xCC, 0xDD] farApart) = none :=
  ⟨bit_errors_detected encodePacket_reqAreas rfl (.inl (by decide +kernel)),
    bit_errors_detected encodePacket_reqAreas rfl (.inr ⟨17, 94, farApart_twoBits, by decide⟩)⟩

end HaBluetooth.Protocol
