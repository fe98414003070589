import HaBluetooth.Support.BigEndian
import Mathlib.Data.List.GetD

/-! Padded base64 text and the bytes that it stands for. -/

namespace HaBluetooth.Support.Base64

def alphabet : List Char := "ABCDEFGHIJKLMNOPQRSTUVWXYZabcdefghijklmnopqrstuvwxyz0123456789+/".toList

def pad : Char := '='

def digit (n : ℕ) : Char := alphabet.getD n pad

def digitValue (c : Char) : Option ℕ := alphabet.idxOf? c

def value (ds : List ℕ) : ℕ := Nat.ofDigits 64 ds.reverse

def sextets : List UInt8 → List ℕ
  | a :: b :: c :: bs =>
    a.toNat / 4 :: (a.toNat % 4 * 16 + b.toNat / 16) :: (b.toNat % 16 * 4 + c.toNat / 64) :: c.toNat % 64 :: sextets bs
  | [a, b] => [a.toNat / 4, a.toNat % 4 * 16 + b.toNat / 16, b.toNat % 16 * 4]
  | [a] => [a.toNat / 4, a.toNat % 4 * 16]
  | [] => []

-- bits that do not fill a byte are dropped
def bytes : List ℕ → List UInt8
  | p :: q :: r :: s :: ds =>
    .ofNat (p * 4 + q / 16) :: .ofNat (q % 16 * 16 + r / 4) :: .ofNat (r % 4 * 64 + s) :: bytes ds
  | [p, q, r] => [.ofNat (p * 4 + q / 16), .ofNat (q % 16 * 16 + r / 4)]
  | [p, q] => [.ofNat (p * 4 + q / 16)]
  | [_] | [] => []

def padding (digits : ℕ) : List Char := List.replicate ((4 - digits % 4) % 4) pad

def encode (bs : List UInt8) : List Char := (sextets bs).map digit ++ padding (sextets bs).length

/-- Only whole quads of digits and padding are decoded; no padding makes up for a single digit. -/
def decode (cs : List Char) : Option (List UInt8) :=
  let digits := cs.takeWhile (· ≠ pad)
  if digits.length % 4 ≠ 1 ∧ cs = digits ++ padding digits.length then (digits.mapM digitValue).map bytes else none

/-! ### Digits -/

lemma digitValue_digit {n : ℕ} (h : n < 64) : digitValue (digit n) = some n := by
  have hall : ∀ n < 64, digitValue (digit n) = some n := by decide +kernel
  exact hall n h

lemma digitValue_eq_some {c : Char} {n : ℕ} (h : digitValue c = some n) : n < 64 ∧ digit n = c := by
  obtain ⟨hn, hc, -⟩ := List.idxOf?_eq_some_iff.mp h
  refine ⟨hn, ?_⟩
  rw [digit, List.getD_eq_getElem _ _ hn]
  simpa using hc

lemma digit_ne_pad {n : ℕ} (h : n < 64) : digit n ≠ pad := by
  intro hpad
  have hvalue := digitValue_digit h
  rw [hpad] at hvalue
  cases hvalue

lemma mapM_digitValue {cs : List Char} {ds : List ℕ} :
    cs.mapM digitValue = some ds ↔ cs = ds.map digit ∧ ∀ d ∈ ds, d < 64 := by
  induction cs generalizing ds with
  | nil =>
    rw [List.mapM_nil]
    constructor
    · intro h
      obtain rfl := Option.some.inj h
      exact ⟨rfl, by simp⟩
    · rintro ⟨h, -⟩
      rw [List.map_eq_nil_iff.mp h.symm]
      rfl
  | cons c cs ih =>
    rw [List.mapM_cons]
    constructor
    · intro h
      obtain ⟨d, hd, h⟩ := Option.bind_eq_some_iff.mp h
      obtain ⟨rest, hrest, h⟩ := Option.bind_eq_some_iff.mp h
      obtain rfl := Option.some.inj h
      obtain ⟨hlt, rfl⟩ := digitValue_eq_some hd
      obtain ⟨rfl, hall⟩ := ih.mp hrest
      exact ⟨rfl, List.forall_mem_cons.mpr ⟨hlt, hall⟩⟩
    · rintro ⟨h, hall⟩
      cases ds with
      | nil => cases h
      | cons d ds =>
        obtain ⟨rfl, rfl⟩ := List.cons.inj h
        obtain ⟨hlt, hall⟩ := List.forall_mem_cons.mp hall
        rw [digitValue_digit hlt, ih.mpr ⟨rfl, hall⟩]
        rfl

/-! ### Sextets and bytes -/

lemma length_bytes (ds : List ℕ) : (bytes ds).length = 6 * ds.length / 8 := by
  fun_induction bytes ds with
  | case1 p q r s ds ih =>
    simp only [List.length_cons, ih]
    omega
  | case2 | case3 | case4 | case5 => simp

lemma sextets_lt (bs : List UInt8) : ∀ d ∈ sextets bs, d < 64 := by
  have hlt (b : UInt8) : b.toNat < 256 := b.toNat_lt
  fun_induction sextets bs with
  | case1 a b c bs ih =>
    have ha := hlt a
    have hb := hlt b
    have hc := hlt c
    simp only [List.forall_mem_cons]
    exact ⟨by omega, by omega, by omega, by omega, ih⟩
  | case2 a b =>
    have ha := hlt a
    have hb := hlt b
    simp only [List.forall_mem_cons]
    exact ⟨by omega, by omega, by omega, by simp⟩
  | case3 a =>
    have ha := hlt a
    simp only [List.forall_mem_cons]
    exact ⟨by omega, by omega, by simp⟩
  | case4 => simp

lemma length_sextets (bs : List UInt8) : (sextets bs).length % 4 ≠ 1 := by
  fun_induction sextets bs with
  | case1 a b c bs ih =>
    simp only [List.length_cons]
    omega
  | case2 | case3 | case4 => simp

lemma ofNat_eq {b : UInt8} {n : ℕ} (h : n = b.toNat) : UInt8.ofNat n = b := by
  rw [h, UInt8.ofNat_toNat]

lemma bytes_sextets (bs : List UInt8) : bytes (sextets bs) = bs := by
  have hlt (b : UInt8) : b.toNat < 256 := b.toNat_lt
  fun_induction sextets bs with
  | case1 a b c bs ih =>
    have hb := hlt b
    have hc := hlt c
    rw [bytes, ih, ofNat_eq (b := a) (by omega), ofNat_eq (b := b) (by omega), ofNat_eq (b := c) (by omega)]
  | case2 a b =>
    have hb := hlt b
    rw [bytes, ofNat_eq (b := a) (by omega), ofNat_eq (b := b) (by omega)]
  | case3 a => rw [bytes, ofNat_eq (b := a) (by omega)]
  | case4 => rfl

lemma value_cons (d : ℕ) (ds : List ℕ) : value (d :: ds) = d * 64 ^ ds.length + value ds := by
  rw [value, List.reverse_cons, Nat.ofDigits_append, Nat.ofDigits_singleton, List.length_reverse]
  rw [value]
  ring

lemma value_bytes {ds : List ℕ} (h : ∀ d ∈ ds, d < 64) :
    BigEndian.value (bytes ds) = value ds / 2 ^ (6 * ds.length % 8) := by
  fun_induction bytes ds with
  | case1 p q r s ds ih =>
    simp only [List.forall_mem_cons] at h
    obtain ⟨hp, hq, hr, hs, hds⟩ := h
    have hbits : 64 ^ ds.length = 256 ^ (bytes ds).length * 2 ^ (6 * ds.length % 8) := by
      rw [length_bytes, show 64 = 2 ^ 6 by rfl, show 256 = 2 ^ 8 by rfl, ← pow_mul, ← pow_mul, ← pow_add,
        Nat.div_add_mod]
    have hlength : 6 * (p :: q :: r :: s :: ds).length % 8 = 6 * ds.length % 8 := by
      simp only [List.length_cons]
      omega
    have hquad : value (p :: q :: r :: s :: ds) =
        value ds + (((p * 64 + q) * 64 + r) * 64 + s) * 256 ^ (bytes ds).length * 2 ^ (6 * ds.length % 8) := by
      rw [mul_assoc, ← hbits]
      simp only [value_cons, List.length_cons, pow_succ]
      ring
    have hbyte : ((p * 64 + q) * 64 + r) * 64 + s =
        ((p * 4 + q / 16) * 256 + (q % 16 * 16 + r / 4)) * 256 + (r % 4 * 64 + s) := by omega
    rw [hlength, hquad, Nat.add_mul_div_right _ _ (by positivity), ← ih hds, hbyte]
    rw [BigEndian.value_cons, BigEndian.value_cons, BigEndian.value_cons,
      UInt8.toNat_ofNat_of_lt' (show p * 4 + q / 16 < 256 by omega),
      UInt8.toNat_ofNat_of_lt' (show q % 16 * 16 + r / 4 < 256 by omega),
      UInt8.toNat_ofNat_of_lt' (show r % 4 * 64 + s < 256 by omega)]
    simp only [List.length_cons, pow_succ]
    ring
  | case2 p q r =>
    simp only [List.forall_mem_cons] at h
    obtain ⟨hp, hq, hr, -⟩ := h
    simp only [BigEndian.value_cons, value_cons, UInt8.toNat_ofNat', List.length_cons, List.length_nil]
    simp [value]
    omega
  | case3 p q =>
    simp only [List.forall_mem_cons] at h
    obtain ⟨hp, hq, -⟩ := h
    simp only [BigEndian.value_cons, value_cons, UInt8.toNat_ofNat', List.length_cons, List.length_nil]
    simp [value]
    omega
  | case4 p =>
    have hp : p < 64 := h p List.mem_cons_self
    exact (Nat.div_eq_of_lt (by simpa [value] using hp)).symm
  | case5 => rfl

/-! ### Text -/

lemma takeWhile_digits {ds : List ℕ} (h : ∀ d ∈ ds, d < 64) (n : ℕ) :
    (ds.map digit ++ padding n).takeWhile (· ≠ pad) = ds.map digit := by
  have hdigits : ∀ c ∈ ds.map digit, decide (c ≠ pad) = true := by
    intro c hc
    obtain ⟨d, hd, rfl⟩ := List.mem_map.mp hc
    exact decide_eq_true (digit_ne_pad (h d hd))
  rw [List.takeWhile_append_of_pos hdigits, padding]
  cases (4 - n % 4) % 4 with
  | zero => exact List.append_nil _
  | succ k =>
    rw [List.replicate_succ, List.takeWhile_cons_of_neg (by simp)]
    exact List.append_nil _

lemma decode_eq_some {cs : List Char} {bs : List UInt8} : decode cs = some bs ↔
    ∃ ds, (∀ d ∈ ds, d < 64) ∧ ds.length % 4 ≠ 1 ∧ cs = ds.map digit ++ padding ds.length ∧ bytes ds = bs := by
  rw [decode]
  constructor
  · intro h
    split at h
    · next hquads =>
      obtain ⟨ds, hds, hbytes⟩ := Option.map_eq_some_iff.mp h
      obtain ⟨hdigits, hlt⟩ := mapM_digitValue.mp hds
      obtain ⟨hone, hcs⟩ := hquads
      rw [hdigits, List.length_map] at hone hcs
      exact ⟨ds, hlt, hone, hcs, hbytes⟩
    · cases h
  · rintro ⟨ds, hlt, hone, rfl, rfl⟩
    rw [takeWhile_digits hlt, List.length_map, if_pos ⟨hone, rfl⟩, mapM_digitValue.mpr ⟨rfl, hlt⟩]
    rfl

lemma decode_encoded (bs : List UInt8) : decode (encode bs) = some bs :=
  decode_eq_some.mpr ⟨sextets bs, sextets_lt bs, length_sextets bs, rfl, bytes_sextets bs⟩

end HaBluetooth.Support.Base64
