import HaBluetooth.Python.StreamReader

/-! Readers on a stream that arrives piece by piece. What a reader makes of the bytes so far is final, or
it is waiting for more. -/

namespace HaBluetooth.Python

/-- A read of one message from the bytes that have arrived, or `none` while it waits. -/
def arrived {α : Type} (x : Reader α) (eof : Bool) (buffer : Bytes) : Option (Result (α × Bytes)) :=
  match x buffer with
  | .ok a rest => some (.ok (a, rest))
  | .error e _ => if e.kind = .incompleteReadError ∧ eof = false then none else some (.error e)

namespace Reader

variable {α β : Type}

/-- More bytes only matter to a reader that has come to the end of those it had. -/
def Incremental (x : Reader α) : Prop := ∀ buffer more,
  (∃ a rest, x buffer = .ok a rest ∧ x (buffer ++ more) = .ok a (rest ++ more)) ∨
    (∃ e rest rest', x buffer = .error e rest ∧ x (buffer ++ more) = .error e rest') ∨
    ∃ e rest, x buffer = .error e rest ∧ e.kind = .incompleteReadError

def Delimits (x : Reader α) (frame : Bytes) (a : α) : Prop := ∀ rest, x (frame ++ rest) = .ok a rest

lemma pure_incremental (a : α) : Incremental (pure a) := fun buffer _ => .inl ⟨a, buffer, rfl, rfl⟩

lemma throw_incremental (e : PyError) : Incremental (throw e : Reader α) :=
  fun buffer more => .inr (.inl ⟨e, buffer, buffer ++ more, rfl, rfl⟩)

lemma lift_incremental (r : Result α) : Incremental (lift r) := by
  cases r with
  | ok a => exact pure_incremental a
  | error e => exact throw_incremental e

lemma readexactly_incremental (n : ℕ) : Incremental (readexactly n) := by
  intro buffer more
  by_cases hn : buffer.length < n
  · exact .inr (.inr ⟨_, _, if_pos hn, rfl⟩)
  · have hmore : ¬ (buffer ++ more).length < n := by
      rw [List.length_append]
      omega
    refine .inl ⟨buffer.take n, buffer.drop n, if_neg hn, ?_⟩
    rw [readexactly, if_neg hmore, List.take_append_of_le_length (by omega), List.drop_append_of_le_length (by omega)]

lemma Incremental.bind {x : Reader α} {f : α → Reader β} (hx : x.Incremental) (hf : ∀ a, (f a).Incremental) :
    (x >>= f).Incremental := by
  intro buffer more
  rcases hx buffer more with ⟨a, rest, hnow, hlater⟩ | ⟨e, rest, rest', hnow, hlater⟩ | ⟨e, rest, hnow, hkind⟩
  · rw [bind_ok f hnow, bind_ok f hlater]
    exact hf a rest more
  · exact .inr (.inl ⟨e, rest, rest', bind_error f hnow, bind_error f hlater⟩)
  · exact .inr (.inr ⟨e, rest, bind_error f hnow, hkind⟩)

lemma Incremental.ite {p : Prop} [Decidable p] {x y : Reader α} (hx : x.Incremental) (hy : y.Incremental) :
    (if p then x else y).Incremental := by
  split
  · exact hx
  · exact hy

variable {x : Reader α} {frame : Bytes} {a : α}

lemma Delimits.arrived (h : x.Delimits frame a) (eof : Bool) (rest : Bytes) :
    arrived x eof (frame ++ rest) = some (.ok (a, rest)) := by
  rw [Python.arrived, h rest]

lemma short_waits {buffer rest : Bytes} {e : PyError} (h : x buffer = .error e rest)
    (hkind : e.kind = .incompleteReadError) (eof : Bool) :
    Python.arrived x eof buffer = if eof then some (.error e) else none := by
  rw [Python.arrived, h]
  cases eof with
  | true => exact if_neg fun hh => Bool.noConfusion hh.2
  | false => exact if_pos ⟨hkind, rfl⟩

lemma Delimits.short (hx : x.Incremental) {buffer more : Bytes} (h : x.Delimits (buffer ++ more) a) (hm : more ≠ []) :
    ∃ e rest, x buffer = .error e rest ∧ e.kind = .incompleteReadError := by
  have hall := h []
  rw [List.append_nil] at hall
  rcases hx buffer more with ⟨b, rest, -, hlater⟩ | ⟨e, rest, rest', -, hlater⟩ | hshort
  · rw [hall] at hlater
    injection hlater with _ hrest
    exact absurd (List.append_eq_nil_iff.mp hrest.symm).2 hm
  · rw [hall] at hlater
    cases hlater
  · exact hshort

lemma Delimits.cases (hx : x.Incremental) (h : x.Delimits frame a) {buffer later rest : Bytes}
    (hs : buffer ++ later = frame ++ rest) : (∃ e rest, x buffer = .error e rest ∧ e.kind = .incompleteReadError) ∨
      ∃ left, buffer = frame ++ left ∧ left ++ later = rest := by
  rcases List.append_eq_append_iff.mp hs with ⟨more, rfl, rfl⟩ | ⟨left, rfl, hrest⟩
  · by_cases hm : more = []
    · subst hm
      exact .inr ⟨[], by simp, rfl⟩
    · exact .inl (h.short hx hm)
  · exact .inr ⟨left, rfl, hrest.symm⟩

end Reader

end HaBluetooth.Python
