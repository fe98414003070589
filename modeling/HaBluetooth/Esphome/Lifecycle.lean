import HaBluetooth.Dispatcher.Subscription
import HaBluetooth.Support.Handles
import HaBluetooth.Support.StoppableTask

/-! The loop that connects to the device again and again, stopped at any await: one connection at a
time, a client only while it is up, and nothing left behind. -/

namespace HaBluetooth.Esphome

open Python Support Dispatcher StoppableTask

/-- Where `_run` is suspended. -/
inductive Phase
  | starting
  | opening
  -- in `perform_handshake` or `_handshake`
  | handshaking (connection : ℕ)
  -- the subscription to frames is being sent
  | subscribing (connection : ℕ)
  | pumping (connection : ℕ)
  -- in the inner `finally`, until the ping task has ended
  | awaitingPing (connection : ℕ) (cancelled : Bool)
  | delaying
  | ended
  deriving DecidableEq, Repr

def Phase.connection : Phase → Option ℕ
  | .handshaking n | .subscribing n | .pumping n | .awaitingPing n _ => some n
  | .starting | .opening | .delaying | .ended => none

/-- In the reconnect delay, or on the way to a connection that is up. -/
def Phase.Between : Phase → Prop
  | .delaying | .opening | .handshaking _ | .subscribing _ => True
  | .starting | .pumping _ | .awaitingPing _ _ | .ended => False

structure ApiLoop where
  running : Bool
  phase : Phase
  handles : Handles
  writer : Option ℕ
  link : ClientLink

namespace ApiLoop

def init : ApiLoop := ⟨true, .starting, .empty, none, .init⟩

def endRound (s : ApiLoop) : ApiLoop :=
  { s with
    link := s.link.onBleClientDisconnected
    writer := none
    phase := if s.running then .delaying else .ended }

def closeConnection (s : ApiLoop) (n : ℕ) : ApiLoop := { s with handles := s.handles.close n }

def leave (s : ApiLoop) (n : ℕ) (cancelled : Bool) : ApiLoop :=
  let s := s.closeConnection n
  if cancelled then { s with phase := .ended } else s.endRound

section

variable (transport : Result Unit)

def nextRound (s : ApiLoop) : ApiLoop :=
  if s.running then
    match transport with
    | .ok () => { s with phase := .opening }
    | .error _ => s.endRound
  else { s with phase := .ended }

def resume (s : ApiLoop) (outcome : Outcome PyError Unit) : ApiLoop :=
  match s.phase, outcome with
  | .starting, _ => s.nextRound transport
  | .opening, .returned =>
    { s with phase := .handshaking s.handles.issued, handles := s.handles.issue, writer := some s.handles.issued }
  | .opening, .raised _ => s.endRound
  | .handshaking n, .returned => { s with phase := .subscribing n }
  | .handshaking n, .raised _ | .subscribing n, .raised _ => s.leave n false
  | .subscribing n, .returned => { s with phase := .pumping n, link := s.link.onBleClientConnected }
  | .pumping n, .returned | .pumping n, .raised _ => { s with phase := .awaitingPing n false }
  | .awaitingPing n cancelled, .returned | .awaitingPing n cancelled, .raised _ => s.leave n cancelled
  | .delaying, .returned => s.nextRound transport
  | _, _ => s

end

/-- `CancelledError` in place of the outcome. -/
def cancelled (s : ApiLoop) : ApiLoop :=
  match s.phase with
  | .starting | .opening | .delaying => { s with phase := .ended }
  | .handshaking n | .subscribing n => s.leave n true
  | .pumping n => { s with phase := .awaitingPing n true }
  | .awaitingPing n cancelled => s.leave n cancelled
  | .ended => s

def halt (s : ApiLoop) : ApiLoop := { s with running := false, link := s.link.onBleClientDisconnected }

def release (s : ApiLoop) : ApiLoop :=
  match s.writer with
  | none => s
  | some n => { s with handles := s.handles.close n, writer := none }

def task (transport : Result Unit) : StoppableTask ApiLoop (Outcome PyError Unit) where
  resume := resume transport
  cancelled := cancelled
  halt := halt
  release := release
  ended := fun s => s.phase == .ended

def start : Owned ApiLoop := ⟨.init, .running⟩

def Idle (s : ApiLoop) : Prop := s.link.bleClientConnected = false ∧ s.link.listeners = 0

structure Orderly (s : Owned ApiLoop) : Prop where
  one_connection : s.body.handles.live.card ≤ 1
  idle_between : s.body.phase.Between → s.body.Idle
  released : s.stage = .returned → s.body.handles.live = ∅ ∧ s.body.Idle

def holding (s : ApiLoop) : Holding := ⟨s.handles, s.phase.connection⟩

/-! ### The connection -/

section

variable {s : ApiLoop} {transport : Result Unit} {n : ℕ}

lemma endRound_tended (h : s.phase.connection = none) : s.holding.Tended s.endRound.holding := by
  rw [endRound, holding, h]
  cases s.running <;> exact .kept _

lemma leave_tended (h : s.phase.connection = some n) (cancelled : Bool) :
    s.holding.Tended (s.leave n cancelled).holding := by
  rw [leave, holding, h, endRound, closeConnection]
  cases cancelled <;> cases s.running <;> exact .closed _ _

lemma nextRound_tended (h : s.phase.connection = none) : s.holding.Tended (s.nextRound transport).holding := by
  rw [nextRound.eq_def]
  cases s.running with
  | false =>
    rw [holding, h]
    exact .kept _
  | true =>
    cases transport with
    | ok =>
      rw [holding, h]
      exact .kept _
    | error e => exact endRound_tended h

end

lemma resume_tended (transport : Result Unit) (s : ApiLoop) (outcome : Outcome PyError Unit) :
    s.holding.Tended (s.resume transport outcome).holding := by
  obtain ⟨running, phase, handles, writer, link⟩ := s
  cases phase with
  | starting => exact nextRound_tended rfl
  | opening =>
    cases outcome with
    | returned => exact .issued handles
    | raised e => exact endRound_tended rfl
    | met => exact .kept _
  | handshaking n | subscribing n =>
    cases outcome with
    | raised e => exact leave_tended rfl false
    | returned | met => exact .kept _
  | pumping n => cases outcome <;> exact .kept _
  | awaitingPing n cancelled =>
    cases outcome with
    | returned | raised e => exact leave_tended rfl cancelled
    | met => exact .kept _
  | delaying =>
    cases outcome with
    | returned => exact nextRound_tended rfl
    | raised e | met => exact .kept _
  | ended => exact .kept _

lemma cancelled_tended (s : ApiLoop) : s.holding.Tended s.cancelled.holding := by
  obtain ⟨running, phase, handles, writer, link⟩ := s
  cases phase with
  | starting | opening | pumping | delaying | ended => exact .kept _
  | handshaking n | subscribing n => exact leave_tended rfl true
  | awaitingPing n cancelled => exact leave_tended rfl cancelled

lemma release_exact {s : ApiLoop} (hs : s.holding.Exact) (h : s.phase = .ended) : s.release.holding.Exact := by
  have hholder : s.holding.holder = none := congrArg Phase.connection h
  rw [release]
  cases s.writer with
  | none => exact hs
  | some n =>
    have hclosed := hs.close hholder n
    rw [← hholder] at hclosed
    exact hclosed

lemma task_exact (transport : Result Unit) : (task transport).Phased (·.holding.Exact) (·.holding.Exact)
    (·.holding.Exact) (·.holding.Exact) where
  resume_before := fun s outcome => (resume_tended transport s outcome).exact
  halt := fun _ hs => hs
  cancelled := fun s => (cancelled_tended s).exact
  resume_awaiting := fun s outcome => (resume_tended transport s outcome).exact
  release_cancelling := fun _ hs hend => release_exact hs (of_decide_eq_true hend)
  release := fun _ hs hend => release_exact hs (of_decide_eq_true hend)
  resume_after := fun s outcome => (resume_tended transport s outcome).exact

/-! ### The client -/

def Watched (s : ApiLoop) : Prop :=
  s.link = .init ∨ (∃ n, s.phase = .pumping n ∨ s.phase = .awaitingPing n false) ∧ s.link = ⟨true, true, 1⟩

def Halted (s : ApiLoop) : Prop := s.running = false ∧ s.link = .init

def Leaving (s : ApiLoop) : Prop := s.Halted ∧ (s.phase = .ended ∨ ∃ n cancelled, s.phase = .awaitingPing n cancelled)

def Left (s : ApiLoop) : Prop := s.phase = .ended ∧ s.link = .init

section

variable {s : ApiLoop} {transport : Result Unit}

lemma leave_link (h : s.link = .init) (n : ℕ) (cancelled : Bool) : (s.leave n cancelled).link = .init := by
  obtain ⟨running, phase, handles, writer, link⟩ := s
  obtain rfl : link = .init := h
  cases cancelled <;> rfl

lemma nextRound_link (h : s.link = .init) : (s.nextRound transport).link = .init := by
  obtain ⟨running, phase, handles, writer, link⟩ := s
  obtain rfl : link = .init := h
  cases running <;> cases transport <;> rfl

lemma resume_idle (h : s.link = .init) (outcome : Outcome PyError Unit) : Watched (s.resume transport outcome) := by
  obtain ⟨running, phase, handles, writer, link⟩ := s
  obtain rfl : link = .init := h
  cases phase with
  | starting => exact .inl (nextRound_link rfl)
  | opening | handshaking | pumping | ended => cases outcome <;> exact .inl rfl
  | subscribing n =>
    cases outcome with
    | returned => exact .inr ⟨⟨n, .inl rfl⟩, rfl⟩
    | raised e | met => exact .inl rfl
  | awaitingPing n cancelled =>
    cases outcome with
    | returned | raised e => exact .inl (leave_link rfl n cancelled)
    | met => exact .inl rfl
  | delaying =>
    cases outcome with
    | returned => exact .inl (nextRound_link rfl)
    | raised e | met => exact .inl rfl

lemma resume_watched (hs : Watched s) (outcome : Outcome PyError Unit) : Watched (s.resume transport outcome) := by
  rcases hs with hlink | ⟨⟨n, hphase | hphase⟩, hlink⟩
  · exact resume_idle hlink outcome
  all_goals
    obtain ⟨running, phase, handles, writer, link⟩ := s
    obtain rfl : phase = _ := hphase
    obtain rfl : link = _ := hlink
  · cases outcome with
    | returned | raised e => exact .inr ⟨⟨n, .inr rfl⟩, rfl⟩
    | met => exact .inr ⟨⟨n, .inl rfl⟩, rfl⟩
  · cases outcome with
    | returned | raised e => exact .inl rfl
    | met => exact .inr ⟨⟨n, .inr rfl⟩, rfl⟩

lemma halt_halted (hs : Watched s) : s.halt.Halted := by
  obtain ⟨running, phase, handles, writer, link⟩ := s
  refine ⟨rfl, ?_⟩
  rcases hs with hlink | ⟨-, hlink⟩
  · obtain rfl : link = _ := hlink
    rfl
  · obtain rfl : link = _ := hlink
    rfl

lemma leave_leaving (hs : s.Halted) (n : ℕ) (cancelled : Bool) : Leaving (s.leave n cancelled) := by
  obtain ⟨running, phase, handles, writer, link⟩ := s
  obtain ⟨rfl, rfl⟩ : running = false ∧ link = .init := hs
  cases cancelled <;> exact ⟨⟨rfl, rfl⟩, .inl rfl⟩

lemma cancelled_leaving (hs : s.Halted) : Leaving s.cancelled := by
  obtain ⟨running, phase, handles, writer, link⟩ := s
  cases phase with
  | starting | opening | delaying | ended => exact ⟨hs, .inl rfl⟩
  | handshaking n | subscribing n => exact leave_leaving hs n true
  | pumping n => exact ⟨hs, .inr ⟨n, true, rfl⟩⟩
  | awaitingPing n cancelled => exact leave_leaving hs n cancelled

lemma resume_leaving (hs : Leaving s) (outcome : Outcome PyError Unit) : Leaving (s.resume transport outcome) := by
  obtain ⟨running, phase, handles, writer, link⟩ := s
  obtain ⟨hhalted, rfl | ⟨n, cancelled, rfl⟩⟩ := hs
  · exact ⟨hhalted, .inl rfl⟩
  · cases outcome with
    | returned | raised e => exact leave_leaving hhalted n cancelled
    | met => exact ⟨hhalted, .inr ⟨n, cancelled, rfl⟩⟩

lemma release_left (hlink : s.link = .init) (hend : s.phase = .ended) : Left s.release := by
  obtain ⟨running, phase, handles, writer, link⟩ := s
  cases writer <;> exact ⟨hend, hlink⟩

lemma resume_left (hs : Left s) (outcome : Outcome PyError Unit) : Left (s.resume transport outcome) := by
  obtain ⟨running, phase, handles, writer, link⟩ := s
  obtain ⟨rfl, hlink⟩ := hs
  exact ⟨rfl, hlink⟩

end

lemma task_watched (transport : Result Unit) : (task transport).Phased Watched Halted Leaving Left where
  resume_before := fun _ outcome hs => resume_watched hs outcome
  halt := fun _ => halt_halted
  cancelled := fun _ => cancelled_leaving
  resume_awaiting := fun _ outcome hs => resume_leaving hs outcome
  release_cancelling := fun _ hs hend => release_left hs.2 (of_decide_eq_true hend)
  release := fun _ hs hend => release_left hs.1.2 (of_decide_eq_true hend)
  resume_after := fun _ outcome hs => resume_left hs outcome

lemma idle_of_link {s : ApiLoop} (h : s.link = .init) : s.Idle := by
  rw [Idle, h]
  exact ⟨rfl, rfl⟩

lemma inPhase_idle {s : Owned ApiLoop} (hs : InPhase Watched Halted Leaving Left s) (hbetween : s.body.phase.Between) :
    s.body.Idle := by
  obtain ⟨body, stage⟩ := s
  cases stage with
  | running =>
    rcases hs with hlink | ⟨⟨n, hphase | hphase⟩, -⟩
    · exact idle_of_link hlink
    all_goals
      change body.phase.Between at hbetween
      rw [hphase] at hbetween
      exact hbetween.elim
  | cancelling => exact idle_of_link hs.2
  | awaiting => exact idle_of_link hs.1.2
  | returned => exact idle_of_link hs.2

theorem bridge_orderly (transport : Result Unit) (events : List (Event (Outcome PyError Unit))) :
    Orderly ((task transport).run start events) := by
  have hstart : init.holding.Exact := rfl
  have hexact := run_always (task_exact transport) hstart events
  refine ⟨hexact.card_le_one, inPhase_idle (run_inPhase (task_watched transport) (.inl rfl) events), fun hstage => ?_⟩
  obtain ⟨hended, hlink⟩ : Left ((task transport).run start events).body :=
    returned_after (task_watched transport) (.inl rfl) hstage
  exact ⟨hexact.nothing_live (congrArg Phase.connection hended), idle_of_link hlink⟩

example : ((task (.ok ())).run start
    (List.replicate 4 (.wake .returned) ++ [.wake (.raised ⟨.runtimeError, "read failed"⟩), .stop, .wake .returned,
      .stopResumed])).stage = .returned := rfl

end ApiLoop

end HaBluetooth.Esphome
