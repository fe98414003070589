import Mathlib.Data.Nat.Digits.Lemmas
import Mathlib.Tactic

/-! Little-endian base-128 numerals over bytes: seven bits a byte, and a byte of 128 or more is followed by another. -/

namespace HaBluetooth.Support.Base128

abbrev Continues (b : UInt8) : Prop := 128 ≤ b.toNat

def value (bs : List UInt8) : ℕ := Nat.ofDigits 128 (bs.map fun b => b.toNat % 128)

inductive Numeral : List UInt8 → Prop
  | last {b : UInt8} (hb : ¬ Continues b) : Numeral [b]
  | more {b : UInt8} {bs : List UInt8} (hb : Continues b) (hbs : Numeral bs) : Numeral (b :: bs)

@[simp] lemma value_singleton (b : UInt8) : value [b] = b.toNat % 128 := by simp [value]

@[simp] lemma value_cons (b : UInt8) (bs : List UInt8) : value (b :: bs) = b.toNat % 128 + 128 * value bs := by
  simp [value, Nat.ofDigits_cons]

@[simp] lemma value_append (as bs : List UInt8) : value (as ++ bs) = value as + 128 ^ as.length * value bs := by
  simp [value, Nat.ofDigits_append]

lemma value_lt (bs : List UInt8) : value bs < 128 ^ bs.length := by
  have hdigits : ∀ d ∈ bs.map fun b => b.toNat % 128, d < 128 := by
    intro d hd
    obtain ⟨b, -, rfl⟩ := List.mem_map.mp hd
    exact Nat.mod_lt _ (by norm_num)
  simpa [value] using Nat.ofDigits_lt_base_pow_length (by norm_num) hdigits

lemma value_snoc_lt_iff (init : List UInt8) (last : UInt8) (m : ℕ) :
    value (init ++ [last]) < 128 ^ init.length * m ↔ last.toNat % 128 < m := by
  have hinit := value_lt init
  rw [value_append, value_singleton]
  constructor
  · intro h
    exact Nat.lt_of_mul_lt_mul_left (lt_of_le_of_lt (Nat.le_add_left _ _) h)
  · intro hlast
    calc value init + 128 ^ init.length * (last.toNat % 128)
        < 128 ^ init.length + 128 ^ init.length * (last.toNat % 128) := Nat.add_lt_add_right hinit _
      _ = 128 ^ init.length * (last.toNat % 128 + 1) := by ring
      _ ≤ 128 ^ init.length * m := Nat.mul_le_mul_left _ hlast

namespace Numeral

lemma length_pos {bs : List UInt8} (h : Numeral bs) : 0 < bs.length := by
  cases h <;> simp

lemma snoc {init : List UInt8} {last : UInt8} (hinit : ∀ b ∈ init, Continues b) (hlast : ¬ Continues last) :
    Numeral (init ++ [last]) := by
  induction init with
  | nil => exact .last hlast
  | cons b init ih => exact .more (hinit b (.head _)) (ih fun b' hb => hinit b' (.tail _ hb))

lemma exists_snoc {bs : List UInt8} (h : Numeral bs) :
    ∃ init last, bs = init ++ [last] ∧ (∀ b ∈ init, Continues b) ∧ ¬ Continues last := by
  induction h with
  | @last b hb => exact ⟨[], b, rfl, by simp, hb⟩
  | @more b bs hb _ ih =>
    obtain ⟨init, last, rfl, hinit, hlast⟩ := ih
    exact ⟨b :: init, last, rfl, List.forall_mem_cons.mpr ⟨hb, hinit⟩, hlast⟩

lemma exists_more {bs : List UInt8} (h : Numeral bs) {n : ℕ} (hn : n < bs.length) :
    ∃ more rest, bs = more ++ rest ∧ more.length = n ∧ ∀ b ∈ more, Continues b := by
  obtain ⟨init, last, rfl, hinit, -⟩ := h.exists_snoc
  rw [List.length_append, List.length_singleton] at hn
  refine ⟨init.take n, init.drop n ++ [last], ?_, List.length_take_of_le (by omega), ?_⟩
  · rw [← List.append_assoc, List.take_append_drop]
  · intro b hb
    exact hinit b (List.mem_of_mem_take hb)

end Numeral

lemma numeral_within (n : ℕ) (s : List UInt8) :
    (∃ bs rest, s = bs ++ rest ∧ Numeral bs ∧ bs.length ≤ n) ∨
      (∃ more rest, s = more ++ rest ∧ more.length = n ∧ ∀ b ∈ more, Continues b) ∨
      (s.length < n ∧ ∀ b ∈ s, Continues b) := by
  induction n generalizing s with
  | zero => exact .inr (.inl ⟨[], s, rfl, rfl, by simp⟩)
  | succ n ih =>
    cases s with
    | nil => exact .inr (.inr ⟨Nat.succ_pos n, by simp⟩)
    | cons b s =>
      by_cases hb : Continues b
      · obtain ⟨bs, rest, rfl, hbs, hlen⟩ | ⟨more, rest, rfl, hlen, hmore⟩ | ⟨hlen, hs⟩ := ih s
        · exact .inl ⟨b :: bs, rest, rfl, .more hb hbs, Nat.succ_le_succ hlen⟩
        · exact .inr (.inl ⟨b :: more, rest, rfl, congrArg Nat.succ hlen, List.forall_mem_cons.mpr ⟨hb, hmore⟩⟩)
        · exact .inr (.inr ⟨Nat.succ_lt_succ hlen, List.forall_mem_cons.mpr ⟨hb, hs⟩⟩)
      · exact .inl ⟨[b], s, rfl, .last hb, by simp⟩

end HaBluetooth.Support.Base128
