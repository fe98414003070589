import Mathlib.Data.List.Induction

/-! Runs of a step function: what each step preserves, a run preserves. -/

namespace HaBluetooth.Support.Runs

variable {σ ι : Type} {step : σ → ι → σ} {s : σ}

lemma guarded (P : σ → Prop) {admitted : σ → ι → Prop} (hstep : ∀ s i, P s → admitted s i → P (step s i)) (h : P s)
    {inputs : List ι} (hi : ∀ before i after, inputs = before ++ i :: after → admitted (before.foldl step s) i) :
    P (inputs.foldl step s) := by
  induction inputs generalizing s with
  | nil => exact h
  | cons i inputs ih =>
    refine ih (hstep s i h (hi [] i inputs rfl)) fun before j after hj => ?_
    exact hi (i :: before) j after (congrArg (i :: ·) hj)

lemma invariant (P : σ → Prop) {admitted : ι → Prop} (hstep : ∀ s i, P s → admitted i → P (step s i)) (h : P s)
    {inputs : List ι} (hi : ∀ i ∈ inputs, admitted i) : P (inputs.foldl step s) :=
  guarded P hstep h fun before i after hj => hi i (by simp [hj])

lemma preserved (P : σ → Prop) (hstep : ∀ s i, P s → P (step s i)) (h : P s) (inputs : List ι) :
    P (inputs.foldl step s) :=
  @invariant _ _ _ _ P (fun _ => True) (fun s i hs _ => hstep s i hs) h _ fun _ _ => trivial

lemma history (P : σ → List ι → Prop) (hstep : ∀ s inputs i, P s inputs → P (step s i) (inputs ++ [i])) (h : P s [])
    (inputs : List ι) : P (inputs.foldl step s) inputs := by
  induction inputs using List.reverseRecOn with
  | nil => exact h
  | append_singleton inputs i ih =>
    rw [List.foldl_append]
    exact hstep _ _ i ih

end HaBluetooth.Support.Runs
