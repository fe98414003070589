import Mathlib.Data.Nat.Digits.Defs
import Mathlib.Tactic.IntervalCases

/-! Hexadecimal text with capital letters and leading zeros, and the number that it stands for. -/

namespace HaBluetooth.Support.Hexadecimal

def digitValue (c : Char) : ℕ := if c.isDigit then c.toNat - '0'.toNat else c.toNat - 'A'.toNat + 10

def value (ds : List Char) : ℕ := ds.foldl (fun n c => 16 * n + digitValue c) 0

def digits (n : ℕ) : List Char := (Nat.toDigits 16 n).map Char.toUpper

def padded (width n : ℕ) : List Char := List.replicate (width - (digits n).length) '0' ++ digits n

lemma value_snoc (ds : List Char) (c : Char) : value (ds ++ [c]) = 16 * value ds + digitValue c := by
  rw [value, List.foldl_append]
  rfl

lemma digitValue_digitChar {d : ℕ} (h : d < 16) : digitValue (Nat.digitChar d).toUpper = d := by
  interval_cases d <;> rfl

lemma digits_small {n : ℕ} (h : n < 16) : digits n = [(Nat.digitChar n).toUpper] := by
  rw [digits, Nat.toDigits_of_lt_base h]
  rfl

lemma digits_large {n : ℕ} (h : 16 ≤ n) : digits n = digits (n / 16) ++ [(Nat.digitChar (n % 16)).toUpper] := by
  rw [digits, Nat.toDigits_of_base_le (by decide) h, List.map_append]
  rfl

lemma value_digits (n : ℕ) : value (digits n) = n := by
  induction n using Nat.strong_induction_on with
  | _ n ih =>
    rcases lt_or_ge n 16 with h | h
    · rw [digits_small h]
      exact (Nat.zero_add _).trans (digitValue_digitChar h)
    · rw [digits_large h, value_snoc, ih _ (by omega), digitValue_digitChar (Nat.mod_lt _ (by decide))]
      omega

lemma value_zeros (k : ℕ) (ds : List Char) : value (List.replicate k '0' ++ ds) = value ds := by
  induction k with
  | zero => rfl
  | succ k ih =>
    rw [List.replicate_succ, List.cons_append, ← ih]
    rfl

lemma value_padded (width n : ℕ) : value (padded width n) = n := (value_zeros _ _).trans (value_digits n)

lemma length_padded {width n : ℕ} (hw : 0 < width) (h : n < 16 ^ width) : (padded width n).length = width := by
  have hlen : (digits n).length ≤ width := by
    rw [digits, List.length_map]
    exact Nat.toDigits_length 16 n width hw h
  rw [padded, List.length_append, List.length_replicate]
  omega

end HaBluetooth.Support.Hexadecimal
