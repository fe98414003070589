import HaBluetooth.Support.Handles
import HaBluetooth.Support.StoppableTask
import HaBluetooth.Usb.ReaderLoop
import HaBluetooth.Usb.Server

/-! The loop that opens the serial port again and again, stopped at any await: what it still holds. -/

namespace HaBluetooth.Usb

open Python Support Dispatcher StoppableTask

/-- Where `_run` is suspended. -/
inductive Phase
  | starting
  | opening
  | draining (writer : ℕ)
  | bridging (writer : ℕ)
  -- in the `finally` of `_bridge`, until the write worker has ended
  | closing (writer : ℕ) (cancelled : Bool)
  | delaying
  | ended
  deriving DecidableEq, Repr

def Phase.writer : Phase → Option ℕ
  | .draining writer | .bridging writer | .closing writer _ => some writer
  | .starting | .opening | .delaying | .ended => none

structure PortLoop where
  running : Bool
  phase : Phase
  handles : Handles
  link : ClientLink

def unsubscribe (link : ClientLink) : ClientLink :=
  if link.stateUnsub then { link with stateUnsub := false, listeners := link.listeners - 1 } else link

def BridgeEffect.move (link : ClientLink) : BridgeEffect → ClientLink
  | .clientConnected => link.onBleClientConnected
  | .clientDisconnected => link.onBleClientDisconnected
  | .received _ | .dispatcher _ | .notification _ => link

namespace PortLoop

def init : PortLoop := ⟨true, .starting, .empty, .init⟩

def nextRound (s : PortLoop) : PortLoop := { s with phase := if s.running then .opening else .ended }

def afterRound (s : PortLoop) : PortLoop := { s with phase := if s.running then .delaying else .ended }

def startBridge (s : PortLoop) (writer : ℕ) : PortLoop :=
  match UsbServer.sendRaw ⟨some (.empty (Option Bytes) 64)⟩ restartAdv with
  | .ok _ => { s with phase := .bridging writer }
  | .error _ => s.afterRound

def endBridge (s : PortLoop) (writer : ℕ) (cancelled : Bool) : PortLoop :=
  { s with phase := .closing writer cancelled, link := s.link.onBleClientDisconnected }

def closeWriter (s : PortLoop) (writer : ℕ) (cancelled : Bool) : PortLoop :=
  let s := { s with handles := s.handles.close writer }
  if cancelled then { s with phase := .ended } else s.afterRound

def resume (s : PortLoop) (outcome : Outcome PyError BridgeEffect) : PortLoop :=
  match s.phase, outcome with
  | .starting, _ => s.nextRound
  | .opening, .returned => { s with phase := .draining s.handles.issued, handles := s.handles.issue }
  | .opening, .raised _ => s.afterRound
  | .draining writer, .returned => s.startBridge writer
  | .draining writer, .raised e => if e.kind = .timeoutError then s.startBridge writer else s.afterRound
  | .bridging _, .met effect => { s with link := effect.move s.link }
  | .bridging writer, .returned | .bridging writer, .raised _ => s.endBridge writer false
  | .closing writer cancelled, .returned | .closing writer cancelled, .raised _ => s.closeWriter writer cancelled
  | .delaying, .returned => s.nextRound
  | _, _ => s

/-- `CancelledError` in place of the outcome. -/
def cancelled (s : PortLoop) : PortLoop :=
  match s.phase with
  | .starting | .opening | .draining _ | .delaying => { s with phase := .ended }
  | .bridging writer => s.endBridge writer true
  | .closing writer cancelled => s.closeWriter writer cancelled
  | .ended => s

def halt (s : PortLoop) : PortLoop := { s with running := false, link := unsubscribe s.link }

def task : StoppableTask PortLoop (Outcome PyError BridgeEffect) where
  resume := resume
  cancelled := cancelled
  halt := halt
  release := id
  ended := fun s => s.phase == .ended

def start : Owned PortLoop := ⟨.init, .running⟩

def Released (s : PortLoop) : Prop :=
  s.handles.live = ∅ ∧ s.link.bleClientConnected = false ∧ s.link.listeners = 0

def holding (s : PortLoop) : Holding := ⟨s.handles, s.phase.writer⟩

/-- The drain ends neither by itself nor by its timeout. -/
def CutsDrain (s : Owned PortLoop) : Event (Outcome PyError BridgeEffect) → Prop
  | .wake outcome =>
    (∃ writer, s.body.phase = .draining writer) ∧
      (s.stage = .cancelling ∨ ∃ e, outcome = .raised e ∧ e.kind ≠ .timeoutError)
  | .stop | .stopResumed => False

/-! ### The writer -/

lemma startBridge_eq (s : PortLoop) (writer : ℕ) : s.startBridge writer = { s with phase := .bridging writer } := by
  have hframe := Protocol.frameForUsb_ok (show restartAdv.length < 256 ^ 4 by decide +kernel)
  rw [startBridge, UsbServer.sendRaw]
  simp only [hframe]
  rfl

section

variable {s : PortLoop} {writer : ℕ}

lemma nextRound_tended (h : s.phase.writer = none) : s.holding.Tended s.nextRound.holding := by
  rw [nextRound, holding, h]
  cases s.running <;> exact .kept _

lemma afterRound_tended (h : s.phase.writer = none) : s.holding.Tended s.afterRound.holding := by
  rw [afterRound, holding, h]
  cases s.running <;> exact .kept _

lemma startBridge_tended (h : s.phase.writer = some writer) : s.holding.Tended (s.startBridge writer).holding := by
  rw [startBridge_eq, holding, h]
  exact .kept _

lemma closeWriter_tended (h : s.phase.writer = some writer) (cancelled : Bool) :
    s.holding.Tended (s.closeWriter writer cancelled).holding := by
  rw [closeWriter, holding, h, afterRound]
  cases cancelled <;> cases s.running <;> exact .closed _ _

end

lemma resume_tended (s : PortLoop) (outcome : Outcome PyError BridgeEffect)
    (h : ∀ writer e, s.phase = .draining writer → outcome = .raised e → e.kind = .timeoutError) :
    s.holding.Tended (s.resume outcome).holding := by
  obtain ⟨running, phase, handles, link⟩ := s
  cases phase with
  | starting => exact nextRound_tended rfl
  | opening =>
    cases outcome with
    | returned => exact .issued handles
    | raised e => exact afterRound_tended rfl
    | met effect => exact .kept _
  | draining writer =>
    cases outcome with
    | returned => exact startBridge_tended rfl
    | raised e =>
      have hresume : resume ⟨running, .draining writer, handles, link⟩ (.raised e) = startBridge _ writer :=
        if_pos (h writer e rfl rfl)
      rw [hresume]
      exact startBridge_tended rfl
    | met effect => exact .kept _
  | bridging writer => cases outcome <;> exact .kept _
  | closing writer cancelled =>
    cases outcome with
    | returned | raised e => exact closeWriter_tended rfl cancelled
    | met effect => exact .kept _
  | delaying =>
    cases outcome with
    | returned => exact nextRound_tended rfl
    | raised e | met effect => exact .kept _
  | ended => exact .kept _

lemma cancelled_tended (s : PortLoop) (h : ∀ writer, s.phase ≠ .draining writer) :
    s.holding.Tended s.cancelled.holding := by
  obtain ⟨running, phase, handles, link⟩ := s
  cases phase with
  | starting | opening | bridging | delaying | ended => exact .kept _
  | draining writer => exact absurd rfl (h writer)
  | closing writer cancelled => exact closeWriter_tended rfl cancelled

lemma step_tended {s : Owned PortLoop} {event : Event (Outcome PyError BridgeEffect)} (h : ¬ CutsDrain s event) :
    s.body.holding.Tended (task.step s event).body.holding := by
  obtain ⟨body, stage⟩ := s
  cases event with
  | wake outcome =>
    cases stage with
    | cancelling => exact cancelled_tended body fun writer hw => h ⟨⟨writer, hw⟩, .inl rfl⟩
    | running | awaiting | returned =>
      refine resume_tended body outcome fun writer e hw ho => ?_
      by_contra hkind
      exact h ⟨⟨writer, hw⟩, .inr ⟨e, ho, hkind⟩⟩
  | stop => cases stage <;> exact .kept _
  | stopResumed =>
    cases stage with
    | running | returned => exact .kept _
    | cancelling | awaiting =>
      change body.holding.Tended (if body.phase == .ended then _ else _ : Owned PortLoop).body.holding
      split <;> exact .kept _

lemma step_dropped {s : Owned PortLoop} {event : Event (Outcome PyError BridgeEffect)} (h : CutsDrain s event) :
    ∃ writer, s.body.holding.holder = some writer ∧ (task.step s event).body.holding = s.body.holding.dropped := by
  obtain ⟨⟨running, phase, handles, link⟩, stage⟩ := s
  cases event with
  | wake outcome =>
    obtain ⟨⟨writer, hw⟩, hcut⟩ := h
    obtain rfl : phase = .draining writer := hw
    refine ⟨writer, rfl, ?_⟩
    cases stage with
    | cancelling => rfl
    | running | awaiting | returned =>
      obtain ⟨e, rfl, hkind⟩ := hcut.resolve_left nofun
      change (if e.kind = .timeoutError then _ else _ : PortLoop).holding = _
      rw [if_neg hkind, afterRound]
      cases running <;> rfl
  | stop | stopResumed => exact h.elim

lemma run_sound (events : List (Event (Outcome PyError BridgeEffect))) :
    (task.run start events).body.holding.Sound := by
  refine Runs.preserved (fun s : Owned PortLoop => s.body.holding.Sound) (fun s event hs => ?_) (by rintro n ⟨⟩) events
  by_cases hcut : CutsDrain s event
  · obtain ⟨_, _, hdrop⟩ := step_dropped hcut
    rw [hdrop]
    exact Holding.sound_dropped
  · exact (step_tended hcut).sound hs

lemma run_leaked {s : Owned PortLoop} {n : ℕ} (h : s.body.holding.Leaked n)
    (events : List (Event (Outcome PyError BridgeEffect))) : (task.run s events).body.holding.Leaked n := by
  refine Runs.preserved (fun s : Owned PortLoop => s.body.holding.Leaked n) (fun s event hs => ?_) h events
  by_cases hcut : CutsDrain s event
  · obtain ⟨_, _, hdrop⟩ := step_dropped hcut
    rw [hdrop]
    exact hs.dropped
  · exact (step_tended hcut).leaked hs

/-! ### The client -/

def Watched (listener : ClientLink) (s : PortLoop) : Prop :=
  s.link = .init ∨ (∃ writer, s.phase = .bridging writer) ∧ s.link = listener

def Leaving (s : PortLoop) : Prop :=
  s.running = false ∧ s.link = .init ∧ (s.phase = .ended ∨ ∃ writer cancelled, s.phase = .closing writer cancelled)

def Left (s : PortLoop) : Prop := s.phase = .ended ∧ s.link = .init

lemma resume_link (s : PortLoop) (outcome : Outcome PyError BridgeEffect) (h : ∀ writer, s.phase ≠ .bridging writer) :
    (s.resume outcome).link = s.link := by
  obtain ⟨running, phase, handles, link⟩ := s
  cases phase with
  | starting | opening | delaying | ended => cases outcome <;> rfl
  | draining writer =>
    cases outcome with
    | returned =>
      change (startBridge _ writer).link = link
      rw [startBridge_eq]
    | raised e =>
      change (if e.kind = .timeoutError then startBridge _ writer else _ : PortLoop).link = link
      rw [startBridge_eq]
      split <;> rfl
    | met effect => rfl
  | bridging writer => exact absurd rfl (h writer)
  | closing writer cancelled => cases outcome <;> cases cancelled <;> rfl

lemma resume_bridging {s : PortLoop} {writer : ℕ} (outcome : Outcome PyError BridgeEffect)
    (h : s.phase = .bridging writer) (hs : Watched ⟨true, true, 1⟩ s) : Watched ⟨true, true, 1⟩ (s.resume outcome) := by
  obtain ⟨running, phase, handles, link⟩ := s
  obtain rfl : phase = .bridging writer := h
  have hdisconnected : link.onBleClientDisconnected = .init := by
    rcases hs with rfl | ⟨-, rfl⟩ <;> rfl
  cases outcome with
  | returned | raised e => exact .inl hdisconnected
  | met effect =>
    cases effect with
    | clientConnected =>
      refine .inr ⟨⟨writer, rfl⟩, ?_⟩
      rcases hs with rfl | ⟨-, rfl⟩ <;> rfl
    | clientDisconnected => exact .inl hdisconnected
    | received | dispatcher | notification => exact hs

lemma resume_watched (s : PortLoop) (outcome : Outcome PyError BridgeEffect) (hs : Watched ⟨true, true, 1⟩ s) :
    Watched ⟨true, true, 1⟩ (s.resume outcome) := by
  by_cases hphase : ∃ writer, s.phase = .bridging writer
  · obtain ⟨writer, hwriter⟩ := hphase
    exact resume_bridging outcome hwriter hs
  · have hlink : s.link = .init := hs.resolve_right fun h => hphase h.1
    exact .inl ((resume_link s outcome fun writer hwriter => hphase ⟨writer, hwriter⟩).trans hlink)

/-! ### The bridge as a program -/

lemma run_met (s : PortLoop) {writer : ℕ} (h : s.phase = .bridging writer) (effects : List BridgeEffect) :
    task.run ⟨s, .running⟩ (effects.map fun effect => .wake (.met effect)) =
      ⟨{ s with link := effects.foldl BridgeEffect.move s.link }, .running⟩ := by
  induction effects generalizing s with
  | nil => rfl
  | cons effect effects ih =>
    have hstep : task.step ⟨s, .running⟩ (.wake (.met effect)) = ⟨{ s with link := effect.move s.link }, .running⟩ := by
      change (⟨s.resume (.met effect), .running⟩ : Owned PortLoop) = _
      rw [resume.eq_def, h]
    rw [List.map_cons, StoppableTask.run, List.foldl_cons, hstep]
    exact ih _ h

lemma bridge_events (py : Library) (passcode : UInt32) {around : ℕ → Surroundings} (stream : Bytes)
    (h : (around 0).sendRaw restartAdv = .ok ()) :
    (bridge py passcode around stream).events = .dispatcher (.raw restartAdv) ::
      ((readerLoop py passcode around 0 stream).events ++ [.clientDisconnected]) := by
  rw [bridge, h, Traced.emit_bind, Traced.lift_ok_bind]
  cases hloop : (readerLoop py passcode around 0 stream).result with
  | ok => rw [Traced.handle_ok _ hloop, Traced.bind_ok _ hloop]; rfl
  | error e => rw [Traced.handle_error _ hloop, Traced.bind_ok _ rfl]; simp

theorem bridge_moves (py : Library) (passcode : UInt32) {around : ℕ → Surroundings} (stream : Bytes)
    (h : (around 0).sendRaw restartAdv = .ok ()) (s : PortLoop) {writer : ℕ} (hs : s.phase = .bridging writer)
    (e : PyError) :
    (task.run ⟨s, .running⟩ ((readerLoop py passcode around 0 stream).events.map (fun effect => .wake (.met effect)) ++
      [.wake (.raised e)])).body.link =
    (bridge py passcode around stream).events.foldl BridgeEffect.move s.link := by
  have hend : ∀ t : PortLoop, t.phase = .bridging writer →
      (task.step ⟨t, .running⟩ (.wake (.raised e))).body.link = t.link.onBleClientDisconnected := by
    intro t ht
    change (t.resume (.raised e)).link = _
    rw [resume.eq_def, ht]
    rfl
  have hmoves : (bridge py passcode around stream).events.foldl BridgeEffect.move s.link =
      ((readerLoop py passcode around 0 stream).events.foldl BridgeEffect.move s.link).onBleClientDisconnected := by
    rw [bridge_events py passcode stream h, List.foldl_cons, List.foldl_append]
    rfl
  have hmet := run_met s hs (readerLoop py passcode around 0 stream).events
  rw [StoppableTask.run] at hmet ⊢
  rw [List.foldl_append, hmet, hmoves]
  exact hend _ hs

/-! ### After stop() -/

lemma halt_watched {s : PortLoop} (hs : Watched ⟨true, true, 1⟩ s) :
    s.halt.running = false ∧ Watched ⟨true, false, 0⟩ s.halt := by
  obtain ⟨running, phase, handles, link⟩ := s
  refine ⟨rfl, ?_⟩
  rcases hs with hlink | ⟨hphase, hlink⟩
  · obtain rfl : link = .init := hlink
    exact .inl rfl
  · obtain rfl : link = ⟨true, true, 1⟩ := hlink
    exact .inr ⟨hphase, rfl⟩

lemma closeWriter_leaving {s : PortLoop} (hrunning : s.running = false) (hlink : s.link = .init) (writer : ℕ)
    (cancelled : Bool) : Leaving (s.closeWriter writer cancelled) := by
  obtain ⟨running, phase, handles, link⟩ := s
  obtain rfl : running = false := hrunning
  cases cancelled <;> exact ⟨rfl, hlink, .inl rfl⟩

lemma cancelled_leaving {s : PortLoop} (hs : s.running = false ∧ Watched ⟨true, false, 0⟩ s) :
    Leaving s.cancelled := by
  obtain ⟨running, phase, handles, link⟩ := s
  obtain ⟨hrunning, hlink | ⟨⟨writer, rfl⟩, rfl⟩⟩ := hs
  · cases phase with
    | starting | opening | draining | delaying | ended => exact ⟨hrunning, hlink, .inl rfl⟩
    | bridging writer =>
      obtain rfl : link = .init := hlink
      exact ⟨hrunning, rfl, .inr ⟨writer, true, rfl⟩⟩
    | closing writer cancelled => exact closeWriter_leaving hrunning hlink writer cancelled
  · exact ⟨hrunning, rfl, .inr ⟨writer, true, rfl⟩⟩

lemma resume_leaving (s : PortLoop) (outcome : Outcome PyError BridgeEffect) (hs : Leaving s) :
    Leaving (s.resume outcome) := by
  obtain ⟨running, phase, handles, link⟩ := s
  obtain ⟨hrunning, hlink, rfl | ⟨writer, cancelled, rfl⟩⟩ := hs
  · exact ⟨hrunning, hlink, .inl rfl⟩
  · cases outcome with
    | returned | raised e => exact closeWriter_leaving hrunning hlink writer cancelled
    | met effect => exact ⟨hrunning, hlink, .inr ⟨writer, cancelled, rfl⟩⟩

lemma watched_left {listener : ClientLink} {s : PortLoop} (hs : Watched listener s) (h : s.phase = .ended) :
    Left s := by
  refine ⟨h, hs.resolve_right ?_⟩
  rintro ⟨⟨writer, hwriter⟩, -⟩
  rw [h] at hwriter
  cases hwriter

lemma resume_left (s : PortLoop) (outcome : Outcome PyError BridgeEffect) (hs : Left s) : Left (s.resume outcome) := by
  obtain ⟨running, phase, handles, link⟩ := s
  obtain ⟨rfl, hlink⟩ := hs
  exact ⟨rfl, hlink⟩

lemma task_phased : task.Phased (Watched ⟨true, true, 1⟩) (fun s => s.running = false ∧ Watched ⟨true, false, 0⟩ s)
    Leaving Left where
  resume_before := resume_watched
  halt := fun _ => halt_watched
  cancelled := fun _ => cancelled_leaving
  resume_awaiting := resume_leaving
  release_cancelling := fun _ hs hend => watched_left hs.2 (of_decide_eq_true hend)
  release := fun _ hs hend => ⟨of_decide_eq_true hend, hs.2.1⟩
  resume_after := resume_left

theorem stop_releases_iff (events : List (Event (Outcome PyError BridgeEffect)))
    (h : (task.run start events).stage = .returned) :
    (task.run start events).body.Released ↔
      ∀ before event after, events = before ++ event :: after → ¬ CutsDrain (task.run start before) event := by
  obtain ⟨hended, hlink⟩ : Left (task.run start events).body := returned_after task_phased (.inl rfl) h
  constructor
  · rintro ⟨hlive, -⟩ before event after rfl hcut
    obtain ⟨writer, hholder, hdrop⟩ := step_dropped hcut
    have hleaked := (run_sound before).leaked_dropped hholder
    rw [← hdrop] at hleaked
    have hlast := (run_leaked hleaked after).1
    have hrun : task.run (task.step (task.run start before) event) after =
        task.run start (before ++ event :: after) := by
      simp [StoppableTask.run]
    rw [hrun] at hlast
    exact absurd hlast (by simp [holding, hlive])
  · intro hcut
    have hstep : ∀ s event, s.body.holding.Exact → ¬ CutsDrain s event → (task.step s event).body.holding.Exact :=
      fun _ _ hs hn => (step_tended hn).exact hs
    have hstart : start.body.holding.Exact := rfl
    have hexact : (task.run start events).body.holding.Exact :=
      Runs.guarded (fun s : Owned PortLoop => s.body.holding.Exact) hstep hstart hcut
    refine ⟨hexact.nothing_live ?_, by rw [hlink]; rfl, by rw [hlink]; rfl⟩
    change (task.run start events).body.phase.writer = none
    rw [hended]
    rfl

def bridged : List (Event (Outcome PyError BridgeEffect)) :=
  [.wake .returned, .wake .returned, .wake .returned, .wake (.met .clientConnected), .stop, .wake .returned,
    .wake .returned, .stopResumed]

theorem stop_releases_iff_bridged :
    ((task.run start (bridged.take 4)).body.link.listeners = 1 ∧ (task.run start bridged).body.handles.live = ∅) ∧
      ((task.run start bridged).body.Released ↔
        ∀ before event after, bridged = before ++ event :: after → ¬ CutsDrain (task.run start before) event) :=
  ⟨by decide +kernel, stop_releases_iff bridged (by decide +kernel)⟩

def interrupted : List (Event (Outcome PyError BridgeEffect)) :=
  [.wake .returned, .wake .returned, .stop, .wake .returned, .stopResumed]

theorem interrupted_drain_leaks :
    (task.run start interrupted).stage = .returned ∧ ¬ (task.run start interrupted).body.Released :=
  ⟨rfl, fun h => absurd h.1 (by decide)⟩

end PortLoop

end HaBluetooth.Usb
