import HaBluetooth.Support.BigEndian

/-! The parts of the Python runtime that the integration's byte-level code relies on. -/

namespace HaBluetooth.Python

open Support

abbrev Bytes := List UInt8

inductive ErrorKind
  | valueError
  | structError
  | typeError
  | attributeError
  | overflowError
  | runtimeError
  | incompleteReadError
  | timeoutError
  | other (name : String)
  deriving DecidableEq, Repr

structure PyError where
  kind : ErrorKind
  text : String
  deriving DecidableEq, Repr

abbrev Result := Except PyError

def structPack (n v : ℕ) : Result Bytes :=
  if v < 256 ^ n then .ok (BigEndian.toBytes n v)
  else .error ⟨.structError, s!"format requires 0 <= number <= {256 ^ n - 1}"⟩

def intToBytes (n v : ℕ) : Result Bytes :=
  if v < 256 ^ n then .ok (BigEndian.toBytes n v)
  else .error ⟨.overflowError, "int too big to convert"⟩

lemma bind_eq_ok {α β : Type} {x : Result α} {f : α → Result β} {b : β} :
    x >>= f = .ok b ↔ ∃ a, x = .ok a ∧ f a = .ok b := by
  constructor
  · intro h
    cases x with
    | error e => cases h
    | ok a => exact ⟨a, rfl, h⟩
  · rintro ⟨a, rfl, hf⟩
    exact hf

lemma structPack_ok {n v : ℕ} (h : v < 256 ^ n) : structPack n v = .ok (BigEndian.toBytes n v) := if_pos h

lemma structPack_eq_ok {n v : ℕ} {bs : Bytes} :
    structPack n v = .ok bs ↔ v < 256 ^ n ∧ BigEndian.toBytes n v = bs := by
  rw [structPack]
  split <;> simp_all

end HaBluetooth.Python
