import Mathlib.Tactic

/-! Fixed-width big-endian numbers over bytes. -/

namespace HaBluetooth.Support.BigEndian

def toBytes : ℕ → ℕ → List UInt8
  | 0, _ => []
  | n + 1, v => toBytes n (v / 256) ++ [UInt8.ofNat v]

def value (bs : List UInt8) : ℕ := bs.foldl (fun v b => v * 256 + b.toNat) 0

@[simp] lemma length_toBytes (n v : ℕ) : (toBytes n v).length = n := by
  induction n generalizing v with
  | zero => rfl
  | succ n ih => simp [toBytes, ih]

@[simp] lemma value_nil : value [] = 0 := rfl

@[simp] lemma value_snoc (bs : List UInt8) (b : UInt8) : value (bs ++ [b]) = value bs * 256 + b.toNat := by
  simp [value]

@[simp] lemma value_singleton (b : UInt8) : value [b] = b.toNat := by simp [value]

lemma value_append (as bs : List UInt8) : value (as ++ bs) = value as * 256 ^ bs.length + value bs := by
  induction bs using List.reverseRecOn with
  | nil => simp
  | append_singleton bs b ih =>
    rw [← List.append_assoc, value_snoc, value_snoc, ih, List.length_append, List.length_singleton, pow_succ]
    ring

lemma value_cons (b : UInt8) (bs : List UInt8) : value (b :: bs) = b.toNat * 256 ^ bs.length + value bs := by
  rw [← List.singleton_append, value_append, value_singleton]

lemma take_toBytes (m n v : ℕ) : (toBytes (m + n) v).take m = toBytes m (v / 256 ^ n) := by
  induction n generalizing v with
  | zero => simp [List.take_of_length_le]
  | succ n ih =>
    rw [← Nat.add_assoc, toBytes, List.take_append_of_le_length (by simp), ih, Nat.div_div_eq_div_mul, pow_succ']

lemma toBytes_one (b : UInt8) : toBytes 1 b.toNat = [b] := by simp [toBytes]

lemma value_lt (bs : List UInt8) : value bs < 256 ^ bs.length := by
  induction bs using List.reverseRecOn with
  | nil => simp
  | append_singleton bs b ih =>
    have hb : b.toNat < 256 := b.toNat_lt
    simp only [value_snoc, List.length_append, List.length_singleton, pow_succ]
    omega

lemma value_toBytes {n v : ℕ} (h : v < 256 ^ n) : value (toBytes n v) = v := by
  induction n generalizing v with
  | zero => simp at h; simp [toBytes, h]
  | succ n ih =>
    have hd : v / 256 < 256 ^ n := by
      rw [pow_succ] at h
      exact Nat.div_lt_of_lt_mul (by omega)
    simp only [toBytes, value_snoc, ih hd, UInt8.toNat_ofNat']
    omega

lemma toBytes_value {n : ℕ} {bs : List UInt8} (h : bs.length = n) : toBytes n (value bs) = bs := by
  subst h
  induction bs using List.reverseRecOn with
  | nil => rfl
  | append_singleton bs b ih =>
    have hb : b.toNat < 256 := b.toNat_lt
    have hd : (value bs * 256 + b.toNat) / 256 = value bs := by omega
    have hm : UInt8.ofNat (value bs * 256 + b.toNat) = b := by
      apply UInt8.toNat_inj.mp
      rw [UInt8.toNat_ofNat']
      omega
    simp only [List.length_append, List.length_singleton, value_snoc, toBytes, hd, ih, hm]

end HaBluetooth.Support.BigEndian
