import HaBluetooth.Support.Runs

/-! A loop in a task of its own, and an owner whose stop() cancels the task and waits for it. The
cancellation is delivered in place of whatever the task was waiting for. -/

namespace HaBluetooth.Support

structure StoppableTask (σ ω : Type) where
  resume : σ → ω → σ
  cancelled : σ → σ
  -- what stop() does before it cancels the task, and after the task has ended
  halt : σ → σ
  release : σ → σ
  ended : σ → Bool

namespace StoppableTask

inductive Stage
  | running
  | cancelling
  | awaiting
  | returned
  deriving DecidableEq, Repr

structure Owned (σ : Type) where
  body : σ
  stage : Stage

/-- What the task hears of what it was waiting for; `met` leaves it waiting in the same place. -/
inductive Outcome (ε μ : Type)
  | returned
  | raised (e : ε)
  | met (m : μ)

inductive Event (ω : Type)
  | wake (outcome : ω)
  | stop
  | stopResumed

variable {σ ω : Type} (T : StoppableTask σ ω)

def step (s : Owned σ) : Event ω → Owned σ
  | .wake outcome =>
    match s.stage with
    | .cancelling => ⟨T.cancelled s.body, .awaiting⟩
    | stage => ⟨T.resume s.body outcome, stage⟩
  | .stop =>
    match s.stage with
    | .running => ⟨T.halt s.body, .cancelling⟩
    | _ => s
  | .stopResumed =>
    match s.stage with
    | .cancelling | .awaiting => if T.ended s.body then ⟨T.release s.body, .returned⟩ else s
    | _ => s

def run (s : Owned σ) (events : List (Event ω)) : Owned σ := events.foldl T.step s

/-- What holds before stop(), until the cancellation is delivered, until the task has ended, and from then on. -/
structure Phased (before cancelling awaiting after : σ → Prop) : Prop where
  resume_before : ∀ s o, before s → before (T.resume s o)
  halt : ∀ s, before s → cancelling (T.halt s)
  cancelled : ∀ s, cancelling s → awaiting (T.cancelled s)
  resume_awaiting : ∀ s o, awaiting s → awaiting (T.resume s o)
  release_cancelling : ∀ s, cancelling s → T.ended s = true → after (T.release s)
  release : ∀ s, awaiting s → T.ended s = true → after (T.release s)
  resume_after : ∀ s o, after s → after (T.resume s o)

def InPhase (before cancelling awaiting after : σ → Prop) (s : Owned σ) : Prop :=
  match s.stage with
  | .running => before s.body
  | .cancelling => cancelling s.body
  | .awaiting => awaiting s.body
  | .returned => after s.body

variable {T} {before cancelling awaiting after : σ → Prop}

lemma step_inPhase (h : T.Phased before cancelling awaiting after) (s : Owned σ) (e : Event ω)
    (hs : InPhase before cancelling awaiting after s) : InPhase before cancelling awaiting after (T.step s e) := by
  obtain ⟨body, stage⟩ := s
  cases e with
  | wake outcome =>
    cases stage with
    | running => exact h.resume_before _ _ hs
    | cancelling => exact h.cancelled _ hs
    | awaiting => exact h.resume_awaiting _ _ hs
    | returned => exact h.resume_after _ _ hs
  | stop =>
    cases stage with
    | running => exact h.halt _ hs
    | cancelling | awaiting | returned => exact hs
  | stopResumed =>
    cases stage with
    | running | returned => exact hs
    | cancelling =>
      change InPhase _ _ _ _ (if T.ended body then ⟨T.release body, .returned⟩ else ⟨body, .cancelling⟩)
      split
      · next hend => exact h.release_cancelling _ hs hend
      · exact hs
    | awaiting =>
      change InPhase _ _ _ _ (if T.ended body then ⟨T.release body, .returned⟩ else ⟨body, .awaiting⟩)
      split
      · next hend => exact h.release _ hs hend
      · exact hs

lemma run_inPhase (h : T.Phased before cancelling awaiting after) {body : σ} (hs : before body)
    (events : List (Event ω)) : InPhase before cancelling awaiting after (T.run ⟨body, .running⟩ events) := by
  have hstart : InPhase before cancelling awaiting after ⟨body, .running⟩ := hs
  exact Runs.preserved _ (step_inPhase h) hstart events

lemma run_always {P : σ → Prop} (h : T.Phased P P P P) {body : σ} (hs : P body) (events : List (Event ω)) :
    P (T.run ⟨body, .running⟩ events).body := by
  have hphase := run_inPhase h hs events
  rw [InPhase.eq_def] at hphase
  split at hphase <;> exact hphase

lemma returned_after (h : T.Phased before cancelling awaiting after) {body : σ} (hs : before body)
    {events : List (Event ω)} (hstage : (T.run ⟨body, .running⟩ events).stage = .returned) :
    after (T.run ⟨body, .running⟩ events).body := by
  have hphase := run_inPhase h hs events
  generalize T.run ⟨body, .running⟩ events = s at hstage hphase
  obtain ⟨body, stage⟩ := s
  obtain rfl : stage = .returned := hstage
  exact hphase

end StoppableTask

end HaBluetooth.Support
