import Mathlib.Data.List.Nodup

/-! Collections in a fixed order whose items have keys of their own. -/

namespace HaBluetooth.Support

structure Registry {α κ : Type} (key : α → κ) where
  items : List α
  nodup : (items.map key).Nodup

namespace Registry

variable {α κ : Type} {key : α → κ} (r : Registry key)

def get? [DecidableEq κ] (k : κ) : Option α := r.items.find? fun a => decide (key a = k)

lemma eq_of_key {a b : α} (ha : a ∈ r.items) (hb : b ∈ r.items) (h : key a = key b) : a = b :=
  List.inj_on_of_nodup_map r.nodup ha hb h

def empty : Registry key := ⟨[], List.nodup_nil⟩

variable [DecidableEq κ]

lemma get?_eq_some {k : κ} {a : α} : r.get? k = some a ↔ a ∈ r.items ∧ key a = k := by
  constructor
  · intro h
    exact ⟨List.mem_of_find?_eq_some h, by simpa using List.find?_some h⟩
  · rintro ⟨ha, rfl⟩
    have hs : (r.items.find? fun b => decide (key b = key a)).isSome :=
      List.find?_isSome.mpr ⟨a, ha, by simp⟩
    obtain ⟨b, hb⟩ := Option.isSome_iff_exists.mp hs
    have hk : key b = key a := by simpa using List.find?_some hb
    rw [get?, hb, r.eq_of_key (List.mem_of_find?_eq_some hb) ha hk]

def insert (a : α) : Registry key :=
  if h : key a ∈ r.items.map key then
    ⟨r.items.map fun b => if key b = key a then a else b, by
      rw [List.map_map, List.map_congr_left (g := key)]
      · exact r.nodup
      · intro b _
        by_cases hb : key b = key a <;> simp [hb]⟩
  else ⟨r.items ++ [a], by simpa [List.nodup_append] using ⟨r.nodup, by simpa using h⟩⟩

def erase (k : κ) : Registry key :=
  ⟨r.items.filter fun a => decide (key a ≠ k), r.nodup.sublist (List.filter_sublist.map key)⟩

lemma get?_key {a : α} (h : a ∈ r.items) : r.get? (key a) = some a := r.get?_eq_some.mpr ⟨h, rfl⟩

lemma mem_insert {a b : α} : b ∈ (r.insert a).items ↔ b = a ∨ b ∈ r.items ∧ key b ≠ key a := by
  rw [insert]
  split
  · next h =>
    obtain ⟨old, hold, hkey⟩ := List.mem_map.mp h
    simp only [List.mem_map]
    constructor
    · rintro ⟨c, hc, rfl⟩
      by_cases hk : key c = key a
      · exact .inl (if_pos hk)
      · rw [if_neg hk]
        exact .inr ⟨hc, hk⟩
    · rintro (rfl | ⟨hb, hk⟩)
      · exact ⟨old, hold, if_pos hkey⟩
      · exact ⟨b, hb, if_neg hk⟩
  · next h =>
    rw [List.mem_append, List.mem_singleton]
    constructor
    · rintro (hb | rfl)
      · exact .inr ⟨hb, fun hk => h (hk ▸ List.mem_map_of_mem hb)⟩
      · exact .inl rfl
    · rintro (rfl | ⟨hb, -⟩)
      · exact .inr rfl
      · exact .inl hb

lemma get?_insert_self (a : α) : (r.insert a).get? (key a) = some a :=
  (r.insert a).get?_eq_some.mpr ⟨(r.mem_insert).mpr (.inl rfl), rfl⟩

lemma get?_insert_ne {a b : α} {k : κ} (h : k ≠ key a) : (r.insert a).get? k = some b ↔ r.get? k = some b := by
  rw [get?_eq_some, get?_eq_some, mem_insert]
  constructor
  · rintro ⟨rfl | ⟨hb, -⟩, rfl⟩
    · exact absurd rfl h
    · exact ⟨hb, rfl⟩
  · rintro ⟨hb, rfl⟩
    exact ⟨.inr ⟨hb, h⟩, rfl⟩

lemma get?_erase {a : α} {k k' : κ} (h : (r.erase k').get? k = some a) : r.get? k = some a := by
  obtain ⟨ha, rfl⟩ := (r.erase k').get?_eq_some.mp h
  exact r.get?_key (List.mem_of_mem_filter ha)

lemma get?_erase_self (k : κ) : (r.erase k).get? k = none := by
  cases h : (r.erase k).get? k with
  | none => rfl
  | some a =>
    obtain ⟨ha, hk⟩ := (r.erase k).get?_eq_some.mp h
    obtain ⟨-, hne⟩ := List.mem_filter.mp ha
    exact absurd hk (of_decide_eq_true hne)

lemma get?_erase_ne {k k' : κ} (h : k ≠ k') : (r.erase k').get? k = r.get? k := by
  apply Option.ext
  intro a
  refine ⟨r.get?_erase, fun ha => ?_⟩
  obtain ⟨hmem, rfl⟩ := r.get?_eq_some.mp ha
  exact (r.erase k').get?_key (List.mem_filter.mpr ⟨hmem, decide_eq_true h⟩)

end Registry

end HaBluetooth.Support
