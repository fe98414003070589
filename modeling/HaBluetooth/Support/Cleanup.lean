import HaBluetooth.Support.Traced

/-! Handlers that let some errors through, and code that runs on every way out. -/

namespace HaBluetooth.Support.Traced

variable {ε ω α β : Type}

/-- `try` whose handler takes the caught errors only. -/
def catching (caught : ε → Bool) (x : Traced ε ω α) (h : ε → Traced ε ω α) : Traced ε ω α :=
  x.handle fun e => if caught e then h e else .lift (.error e)

/-- `try`/`finally`. -/
def ensuring (x : Traced ε ω α) (y : Traced ε ω Unit) : Traced ε ω α :=
  match y.result with
  | .ok () => ⟨x.events ++ y.events, x.result⟩
  | .error e => ⟨x.events ++ y.events, .error e⟩

variable {caught : ε → Bool}

lemma bind_result_eq_ok {x : Traced ε ω α} {f : α → Traced ε ω β} {b : β} :
    (x >>= f).result = .ok b ↔ ∃ a, x.result = .ok a ∧ (f a).result = .ok b := by
  constructor
  · exact bind_result_ok
  · rintro ⟨a, ha, hb⟩
    rw [bind_ok f ha]
    exact hb

@[simp] lemma ensuring_events (x : Traced ε ω α) (y : Traced ε ω Unit) :
    (x.ensuring y).events = x.events ++ y.events := by
  rw [ensuring]
  split <;> rfl

lemma ensuring_result {x : Traced ε ω α} {y : Traced ε ω Unit} (h : y.result = .ok ()) :
    (x.ensuring y).result = x.result := by
  rw [ensuring, h]

lemma catching_events {x : Traced ε ω α} {f : ε → α} : (x.catching caught fun e => pure (f e)).events = x.events := by
  cases hx : x.result with
  | ok a => rw [catching, handle_ok _ hx]
  | error e =>
    rw [catching, handle_error _ hx]
    cases hc : caught e with
    | true => exact List.append_nil _
    | false => exact List.append_nil _

lemma catching_error {x : Traced ε ω α} {f : ε → α} {e : ε} :
    (x.catching caught fun e => pure (f e)).result = .error e ↔ x.result = .error e ∧ caught e = false := by
  cases hx : x.result with
  | ok a => simp [catching, handle_ok _ hx, hx]
  | error e' =>
    rw [catching, handle_error _ hx]
    cases hc : caught e' with
    | true =>
      simp only [if_true, pure_result, reduceCtorEq, Except.error.injEq, false_iff, not_and]
      rintro rfl
      simp [hc]
    | false =>
      simp only [Bool.false_eq_true, if_false, lift_result, Except.error.injEq, iff_self_and]
      rintro rfl
      exact hc

end HaBluetooth.Support.Traced
