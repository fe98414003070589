import Mathlib.Tactic

/-! First-in first-out queues with a fixed number of slots. -/

namespace HaBluetooth.Support

structure BoundedQueue (α : Type) (slots : ℕ) where
  items : List α
  bounded : items.length ≤ slots
  deriving Repr

namespace BoundedQueue

variable {α : Type} {slots : ℕ}

@[ext] lemma ext {q r : BoundedQueue α slots} (h : q.items = r.items) : q = r := by
  cases q
  cases r
  simpa using h

def empty (α : Type) (slots : ℕ) : BoundedQueue α slots := ⟨[], Nat.zero_le _⟩

def put (q : BoundedQueue α slots) (x : α) : Option (BoundedQueue α slots) :=
  if h : q.items.length < slots then some ⟨q.items ++ [x], by simpa using h⟩ else none

def get (q : BoundedQueue α slots) : Option (α × BoundedQueue α slots) :=
  match q with
  | ⟨[], _⟩ => none
  | ⟨x :: xs, h⟩ => some (x, ⟨xs, by simp only [List.length_cons] at h; omega⟩)

def putAll (q : BoundedQueue α slots) : List α → BoundedQueue α slots × Bool
  | [] => (q, true)
  | x :: xs =>
    match q.put x with
    | some r => r.putAll xs
    | none => (q, false)

lemma get_eq_some {q r : BoundedQueue α slots} {x : α} : q.get = some (x, r) ↔ q.items = x :: r.items := by
  obtain ⟨items, hb⟩ := q
  cases items with
  | nil => exact ⟨nofun, nofun⟩
  | cons y ys =>
    constructor
    · intro h
      obtain ⟨rfl, rfl⟩ := Prod.mk.inj (Option.some.inj h)
      rfl
    · intro h
      obtain ⟨rfl, hr⟩ := List.cons.inj h
      exact congrArg some (Prod.ext rfl (ext hr))

lemma get_eq_none {q : BoundedQueue α slots} : q.get = none ↔ q.items = [] := by
  obtain ⟨items, hb⟩ := q
  cases items with
  | nil => exact ⟨fun _ => rfl, fun _ => rfl⟩
  | cons x xs => exact ⟨nofun, nofun⟩

lemma get_length {q r : BoundedQueue α slots} {x : α} (h : q.get = some (x, r)) :
    r.items.length < q.items.length := by
  simp [get_eq_some.mp h]

def drain (q : BoundedQueue α slots) : BoundedQueue α slots :=
  match _h : q.get with
  | none => q
  | some (_, r) => r.drain
termination_by q.items.length
decreasing_by exact get_length (by assumption)

@[simp] lemma drain_eq_empty (q : BoundedQueue α slots) : q.drain = empty α slots := by
  fun_induction drain q with
  | case1 q h =>
    obtain ⟨items, hb⟩ := q
    cases items with
    | nil => rfl
    | cons x xs => cases h
  | case2 q x r h ih => exact ih

lemma put_eq_some {q r : BoundedQueue α slots} {x : α} :
    q.put x = some r ↔ q.items.length < slots ∧ r.items = q.items ++ [x] := by
  by_cases h : q.items.length < slots
  · rw [put, dif_pos h]
    exact ⟨fun he => ⟨h, by rw [← Option.some.inj he]⟩, fun he => congrArg some (ext he.2.symm)⟩
  · simp [put, h]

lemma put_eq_none {q : BoundedQueue α slots} {x : α} : q.put x = none ↔ q.items.length = slots := by
  have hb := q.bounded
  by_cases h : q.items.length < slots
  · simp [put, h, h.ne]
  · simp [put, h]
    omega

lemma putAll_items (q : BoundedQueue α slots) (xs : List α) :
    (q.putAll xs).1.items = q.items ++ xs.take (slots - q.items.length) := by
  induction xs generalizing q with
  | nil => simp [putAll]
  | cons x xs ih =>
    rw [putAll]
    cases hp : q.put x with
    | none =>
      rw [put_eq_none] at hp
      simp [hp]
    | some r =>
      obtain ⟨hlt, hr⟩ := put_eq_some.mp hp
      have hs : slots - q.items.length = slots - r.items.length + 1 := by
        rw [hr]
        simp
        omega
      simp only [ih, hr, hs, List.take_succ_cons, List.append_assoc, List.singleton_append]

lemma putAll_accepts (q : BoundedQueue α slots) (xs : List α) :
    (q.putAll xs).2 = true ↔ q.items.length + xs.length ≤ slots := by
  induction xs generalizing q with
  | nil => simpa [putAll] using q.bounded
  | cons x xs ih =>
    rw [putAll]
    cases hp : q.put x with
    | none =>
      rw [put_eq_none] at hp
      simp [hp]
    | some r =>
      obtain ⟨-, hr⟩ := put_eq_some.mp hp
      simp only [ih, hr, List.length_append, List.length_cons, List.length_nil]
      omega

lemma putAll_unchanged (q : BoundedQueue α slots) {xs : List α} (h : (q.putAll xs).2 = false) :
    (q.putAll xs).1 = q ↔ q.items.length = slots := by
  have hb := q.bounded
  have hn : slots < q.items.length + xs.length := by
    have hh := (putAll_accepts q xs).not.mp (by simp [h])
    omega
  constructor
  · intro he
    have hl := congrArg (fun r => r.items.length) he
    simp only [putAll_items, List.length_append, List.length_take] at hl
    omega
  · intro he
    apply ext
    simp [putAll_items, he]

end BoundedQueue

end HaBluetooth.Support
