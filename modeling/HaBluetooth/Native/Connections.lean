import HaBluetooth.Gatt.Signals
import HaBluetooth.Native.ServiceCalls

/-! The GATT server's flag and the dispatcher's, with the callbacks between them that the loop has still
to run. -/

namespace HaBluetooth.Native

open Python Protocol Support Dispatcher Gatt

def linkOf : Bool → ClientLink
  | true => ⟨true, true, 1⟩
  | false => .init

def Job.signal : Job → Option Bool
  | .callback .onConnect _ => some true
  | .callback .onDisconnect _ => some false
  | .callback (.onFrame _) _ | .handle _ _ | .push _ => none

def heard (connected : Bool) (jobs : List Job) : Bool := (jobs.filterMap Job.signal).getLast?.getD connected

lemma heard_append (connected : Bool) (jobs jobs' : List Job) :
    heard connected (jobs ++ jobs') = heard (heard connected jobs) jobs' := by
  rw [heard, List.filterMap_append, List.getLast?_append, heard, heard]
  cases (jobs'.filterMap Job.signal).getLast? <;> rfl

lemma heard_cons (connected : Bool) (job : Job) (jobs : List Job) :
    heard connected (job :: jobs) = heard (job.signal.getD connected) jobs := by
  rw [← List.singleton_append, heard_append]
  cases h : job.signal <;> simp [heard, h]

lemma heard_quiet {jobs : List Job} (h : ∀ job ∈ jobs, job.signal = none) (connected : Bool) :
    heard connected jobs = connected := by
  rw [heard, List.filterMap_eq_nil_iff.mpr h]
  rfl

lemma heard_callbacks {before after : Bool} {cs : List Callback} (h : Heard before after cs) (last : Bool) (n : ℕ) :
    heard last (cs.map fun c => .callback c n) = if after = before then last else after := by
  cases h with
  | quiet connected => rw [if_pos rfl]; rfl
  | frame | firstFrame | drop => rfl

def Job.IsFrame : Job → Prop
  | .callback (.onFrame _) _ => True
  | .callback .onConnect _ | .callback .onDisconnect _ | .handle _ _ | .push _ => False

/-- The loop runs an on_frame callback only when the dispatcher knows of the client. -/
def FramesHeard : Bool → List Job → Prop
  | _, [] => True
  | connected, job :: jobs => (job.IsFrame → connected = true) ∧ FramesHeard (job.signal.getD connected) jobs

lemma framesHeard_append (connected : Bool) (jobs jobs' : List Job) :
    FramesHeard connected (jobs ++ jobs') ↔ FramesHeard connected jobs ∧ FramesHeard (heard connected jobs) jobs' := by
  induction jobs generalizing connected with
  | nil => simp [FramesHeard, heard]
  | cons job jobs ih => rw [List.cons_append, FramesHeard, FramesHeard, ih, heard_cons, and_assoc]

lemma framesHeard_callbacks {before after : Bool} {cs : List Callback} (h : Heard before after cs) (n : ℕ) :
    FramesHeard before (cs.map fun c => .callback c n) := by
  cases h with
  | quiet | frame | firstFrame | drop => simp [FramesHeard, Job.IsFrame, Job.signal]

def Job.IsTask (job : Job) : Prop := job.signal = none ∧ ¬ job.IsFrame

lemma framesHeard_tasks {jobs : List Job} (h : ∀ job ∈ jobs, job.IsTask) (connected : Bool) :
    FramesHeard connected jobs := by
  induction jobs with
  | nil => trivial
  | cons job jobs ih =>
    obtain ⟨⟨hsignal, hframe⟩, hrest⟩ := List.forall_mem_cons.mp h
    refine ⟨fun hf => absurd hf hframe, ?_⟩
    rw [hsignal]
    exact ih hrest

lemma heard_tasks {jobs : List Job} (h : ∀ job ∈ jobs, job.IsTask) (connected : Bool) :
    heard connected jobs = connected :=
  heard_quiet (fun job hm => (h job hm).1) connected

def Job.reach (job : Job) (link : ClientLink) : ClientLink :=
  match job.signal with
  | some true => link.onBleClientConnected
  | some false => link.onBleClientDisconnected
  | none => link

lemma reach_linkOf (job : Job) (connected : Bool) :
    job.reach (linkOf connected) = linkOf (job.signal.getD connected) := by
  rw [Job.reach]
  cases job.signal with
  | none => rfl
  | some signal => cases signal <;> cases connected <;> rfl

def Input.part : Input → Option StopPart
  | .stop part => some part
  | .write _ | .disconnect | .tx _ | .next _ | .finish _ _ | .stateChanged _ _ => none

namespace NativeBleServer

variable {py : Library} {passcode : UInt32} {s : NativeBleServer}

inductive Moves (s : NativeBleServer) : NativeBleServer → Prop
  | scheduled {s' : NativeBleServer} (cs : List Callback) (n : ℕ) (loop : s'.gatt.loop = some [])
      (hears : Heard s.gatt.connected s'.gatt.connected cs) (link : s'.link = s.link)
      (ready : s'.ready = s.ready ++ cs.map fun c => .callback c n) : Moves s s'
  | ran {s' : NativeBleServer} (job : Job) (rest tasks : List Job) (loop : s'.gatt.loop = some [])
      (connected : s'.gatt.connected = s.gatt.connected) (next : s.ready = job :: rest)
      (link : s'.link = job.reach s.link) (ready : s'.ready = rest ++ tasks)
      (quiet : ∀ job ∈ tasks, job.IsTask) : Moves s s'
  | other {s' : NativeBleServer} (tasks : List Job) (loop : s'.gatt.loop = some [])
      (connected : s'.gatt.connected = s.gatt.connected) (link : s'.link = s.link) (ready : s'.ready = s.ready ++ tasks)
      (quiet : ∀ job ∈ tasks, job.IsTask) : Moves s s'

lemma scheduling_moves {gatt : GattServer} (h : Heard s.gatt.connected gatt.connected gatt.callbacks) :
    Moves s (s.scheduling gatt) := .scheduled gatt.callbacks s.session rfl h rfl rfl

lemma perform_keeps (s : NativeBleServer) (request : Option ℕ) (r : Run (Option Task)) :
    (s.perform request r).gatt.loop = s.gatt.loop ∧ (s.perform request r).gatt.connected = s.gatt.connected ∧
      (s.perform request r).link = s.link ∧ (s.perform request r).ready = s.ready := by
  obtain ⟨queue, hq⟩ := sendFrames_frame s.gatt r.sent
  rw [perform, hq]
  exact ⟨rfl, rfl, rfl, rfl⟩

lemma next_runs (hl : s.gatt.loop = some []) {job : Job} {rest : List Job} (hr : s.ready = job :: rest) (hass : Hass) :
    (s.step py passcode (.next hass)).gatt.loop = some [] ∧
      (s.step py passcode (.next hass)).gatt.connected = s.gatt.connected ∧
      (s.step py passcode (.next hass)).link = job.reach s.link ∧
      ∃ tasks, (s.step py passcode (.next hass)).ready = rest ++ tasks ∧ ∀ job ∈ tasks, job.IsTask := by
  rw [step]
  simp only [hr]
  cases job with
  | callback c n =>
    cases c with
    | onConnect | onDisconnect => exact ⟨hl, rfl, rfl, [], (List.append_nil _).symm, by simp⟩
    | onFrame frame => exact ⟨hl, rfl, rfl, [.handle frame n], rfl, by simp [Job.IsTask, Job.signal, Job.IsFrame]⟩
  | handle frame n =>
    obtain ⟨hloop, hconnected, hlink, hready⟩ := perform_keeps
      { s with
        ready := rest
        authenticated := s.authenticated || decide (n = s.session ∧ CarriesPasscode passcode frame) }
      (some n) ((dispatcher passcode hass).startHandling py frame)
    exact ⟨hloop.trans hl, hconnected, hlink, [], hready.trans (List.append_nil _).symm, by simp⟩
  | push obj =>
    obtain ⟨hloop, hconnected, hlink, hready⟩ := perform_keeps { s with ready := rest } none
      ((dispatcher passcode hass).advance py (.push obj))
    exact ⟨hloop.trans hl, hconnected, hlink, [], hready.trans (List.append_nil _).symm, by simp⟩

lemma step_moves (hl : s.gatt.loop = some []) {i : Input} (hi : i ≠ .stop .signOff) :
    Moves s (s.step py passcode i) := by
  have hsame : Moves s s := .other [] hl rfl rfl (List.append_nil _).symm (by simp)
  cases i with
  | write value =>
    have hheard := GattServer.handleWrite_heard hl value
    rw [step, handleWrite]
    split
    · exact .scheduled _ (s.session + 1) rfl hheard rfl rfl
    · exact .scheduled _ s.session rfl hheard rfl rfl
  | disconnect => exact scheduling_moves (GattServer.markDisconnected_heard hl)
  | tx u => exact .scheduled _ s.session rfl (GattServer.resume_heard hl s.worker u) rfl rfl
  | next hass =>
    cases hr : s.ready with
    | nil =>
      rw [step, hr]
      exact hsame
    | cons job rest =>
      obtain ⟨hloop, hconnected, hlink, tasks, hready, hquiet⟩ := @next_runs py passcode s hl job rest hr hass
      exact .ran job rest tasks hloop hconnected hr hlink hready hquiet
  | finish i hass =>
    rw [step]
    split
    · exact hsame
    · next call hcall =>
      obtain ⟨hloop, hconnected, hlink, hready⟩ := perform_keeps { s with calls := s.calls.eraseIdx i } call.request
        ((dispatcher passcode hass).advance py call.task)
      exact .other [] (hloop.trans hl) hconnected hlink (hready.trans (List.append_nil _).symm) (by simp)
  | stateChanged hass newState =>
    exact .other ((s.link.stateChanged hass newState).map .push) hl rfl rfl rfl
      (by simp [Job.IsTask, Job.signal, Job.IsFrame])
  | stop part =>
    cases part with
    | signOff => exact absurd rfl hi
    | putNone | endTask | dropServer => exact .other [] hl rfl rfl (List.append_nil _).symm (by simp)

/-! ### The dispatcher's record, and what it will be when the loop has caught up -/

structure Linked (connected last : Bool) (s : NativeBleServer) : Prop where
  loop : s.gatt.loop = some []
  link : s.link = linkOf connected
  last : heard connected s.ready = last

lemma Moves.linked {s' : NativeBleServer} {connected last : Bool} (h : Linked connected last s) (hm : Moves s s') :
    ∃ connected',
      Linked connected' (if s'.gatt.connected = s.gatt.connected then last else s'.gatt.connected) s' ∧
      (FramesHeard connected s.ready → last = s.gatt.connected → FramesHeard connected' s'.ready) := by
  obtain ⟨hloop, hlink, hlast⟩ := h
  cases hm with
  | scheduled cs n hloop' hears hlink' hready =>
    refine ⟨connected, ⟨hloop', hlink'.trans hlink, ?_⟩, fun hf hc => ?_⟩
    · rw [hready, heard_append, hlast, heard_callbacks hears]
    · rw [hready, framesHeard_append, hlast, hc]
      exact ⟨hf, framesHeard_callbacks hears n⟩
  | ran job rest tasks hloop' hconnected hnext hlink' hready hquiet =>
    rw [hnext, heard_cons] at hlast
    refine ⟨job.signal.getD connected, ⟨hloop', ?_, ?_⟩, fun hf _ => ?_⟩
    · rw [hlink', hlink, reach_linkOf]
    · rw [hready, heard_append, hlast, heard_tasks hquiet, if_pos hconnected]
    · rw [hready, framesHeard_append]
      rw [hnext] at hf
      exact ⟨hf.2, framesHeard_tasks hquiet _⟩
  | other tasks hloop' hconnected hlink' hready hquiet =>
    refine ⟨connected, ⟨hloop', hlink'.trans hlink, ?_⟩, fun hf _ => ?_⟩
    · rw [hready, heard_append, hlast, heard_tasks hquiet, if_pos hconnected]
    · rw [hready, framesHeard_append]
      exact ⟨hf, framesHeard_tasks hquiet _⟩

/-! ### Before stop() -/

def Agrees (s : NativeBleServer) : Prop :=
  ∃ connected, Linked connected s.gatt.connected s ∧ FramesHeard connected s.ready

lemma init_agrees : init.Agrees := ⟨false, ⟨rfl, rfl, rfl⟩, trivial⟩

lemma step_agrees (s : NativeBleServer) (i : Input) (h : s.Agrees) (hi : i ≠ .stop .signOff) :
    (s.step py passcode i).Agrees := by
  obtain ⟨connected, hlinked, hframes⟩ := h
  obtain ⟨connected', hlinked', hframes'⟩ := Moves.linked hlinked (@step_moves py passcode s hlinked.loop i hi)
  have hflag : (if (s.step py passcode i).gatt.connected = s.gatt.connected then s.gatt.connected
      else (s.step py passcode i).gatt.connected) = (s.step py passcode i).gatt.connected := by
    split
    · next heq => exact heq.symm
    · rfl
  rw [hflag] at hlinked'
  exact ⟨connected', hlinked', hframes' hframes rfl⟩

lemma caughtUp {connected : Bool} {jobs : List Job} {hasses : List Hass} (hn : hasses.length = jobs.length)
    (hl : s.gatt.loop = some []) (hlink : s.link = linkOf connected) {later : List Job} (hr : s.ready = jobs ++ later) :
    (s.run py passcode (hasses.map .next)).link = linkOf (heard connected jobs) ∧
      (s.run py passcode (hasses.map .next)).gatt.connected = s.gatt.connected := by
  induction jobs generalizing s connected hasses later with
  | nil =>
    obtain rfl := List.length_eq_zero_iff.mp hn
    exact ⟨hlink, rfl⟩
  | cons job jobs ih =>
    obtain ⟨hass, hasses, rfl⟩ := List.exists_cons_of_length_eq_add_one hn
    obtain ⟨hloop, hconnected, hlink', tasks, hready, -⟩ := @next_runs py passcode s hl job (jobs ++ later) hr hass
    rw [hlink, reach_linkOf] at hlink'
    obtain ⟨hlast, hflag⟩ := ih (Nat.succ.inj hn) hloop hlink' (hready.trans (List.append_assoc _ _ _))
    rw [heard_cons]
    exact ⟨hlast, hflag.trans hconnected⟩

theorem connection_state_agrees (py : Library) (passcode : UInt32) {inputs : List Input}
    (h : ∀ part, Input.stop part ∉ inputs) :
    let s := init.run py passcode inputs
    (∀ hasses : List Hass, hasses.length = s.ready.length →
      (s.run py passcode (hasses.map .next)).gatt.connected = s.gatt.connected ∧
      (s.run py passcode (hasses.map .next)).link.bleClientConnected = s.gatt.connected) ∧
    ∀ frame n rest, s.ready = .callback (.onFrame frame) n :: rest →
      s.link.bleClientConnected = true ∧ s.link.listeners = 1 := by
  intro s
  obtain ⟨connected, ⟨hloop, hlink, hlast⟩, hframes⟩ : s.Agrees :=
    Runs.invariant Agrees step_agrees init_agrees fun i hm hi => h .signOff (hi ▸ hm)
  constructor
  · intro hasses hn
    obtain ⟨hcaught, hflag⟩ :=
      @caughtUp py passcode s connected s.ready hasses hn hloop hlink [] (List.append_nil _).symm
    refine ⟨hflag, ?_⟩
    rw [hcaught, hlast]
    cases s.gatt.connected <;> rfl
  · intro frame n rest hr
    rw [hr] at hframes
    obtain rfl : connected = true := hframes.1 trivial
    rw [hlink]
    exact ⟨rfl, rfl⟩

theorem connection_state_agrees_dropped :
    ((init.run .ascii 1 [.write [0x01], .disconnect]).run .ascii 1
      ([.empty, .empty, .empty].map .next)).link.bleClientConnected =
      (init.run .ascii 1 [.write [0x01], .disconnect]).gatt.connected :=
  ((connection_state_agrees .ascii 1 (by simp)).1 [.empty, .empty, .empty] rfl).2

/-! ### While stop() is suspended -/

section

variable (py : Library) (passcode : UInt32)

def connectionChanges (s : NativeBleServer) : List Input → List Bool
  | [] => []
  | i :: inputs =>
    let s' := s.step py passcode i
    (if s'.gatt.connected = s.gatt.connected then [] else [s'.gatt.connected]) ++ s'.connectionChanges inputs

/-- A client came last, of those whose callbacks were waiting when stop() began and those that came or
went from then on. -/
def LateClient (s : NativeBleServer) (during : List Input) : Prop :=
  (s.ready.filterMap Job.signal ++ (s.stopPart .signOff).connectionChanges py passcode during).getLast? = some true

instance (s : NativeBleServer) (during : List Input) : Decidable (s.LateClient py passcode during) :=
  inferInstanceAs (Decidable (_ = _))

end

def Unsubscribed (s : NativeBleServer) : Prop := s.link.bleClientConnected = false ∧ s.link.listeners = 0

instance (s : NativeBleServer) : Decidable s.Unsubscribed := inferInstanceAs (Decidable (_ ∧ _))

lemma signOff_linked {connected last : Bool} (h : Linked connected last s) :
    Linked false (heard false s.ready) (s.stopPart .signOff) := by
  refine ⟨h.loop, ?_, rfl⟩
  change s.link.onBleClientDisconnected = _
  rw [h.link]
  cases connected <;> rfl

lemma run_linked {connected last : Bool} (h : Linked connected last s) {during : List Input}
    (hd : ∀ i ∈ during, i ≠ .stop .signOff) :
    ∃ connected',
      Linked connected' ((s.connectionChanges py passcode during).getLast?.getD last) (s.run py passcode during) := by
  induction during generalizing s connected last with
  | nil => exact ⟨connected, h⟩
  | cons i during ih =>
    obtain ⟨hi, hrest⟩ := List.forall_mem_cons.mp hd
    obtain ⟨connected', hlinked, -⟩ := Moves.linked h (@step_moves py passcode s h.loop i hi)
    obtain ⟨connected'', hrun⟩ := ih hlinked hrest
    refine ⟨connected'', ?_⟩
    change Linked connected'' _ ((s.step py passcode i).run py passcode during)
    convert hrun using 1
    rw [connectionChanges, List.getLast?_append]
    cases ((s.step py passcode i).connectionChanges py passcode during).getLast? with
    | some signal => rfl
    | none => dsimp only [Option.none_or, Option.getD_none]; split <;> rfl

lemma lateClient_iff (during : List Input) : s.LateClient py passcode during ↔
    ((s.stopPart .signOff).connectionChanges py passcode during).getLast?.getD (heard false s.ready) = true := by
  rw [LateClient, List.getLast?_append, heard]
  cases ((s.stopPart .signOff).connectionChanges py passcode during).getLast? with
  | some signal => simp
  | none => cases (s.ready.filterMap Job.signal).getLast? <;> simp

theorem stop_leaves_no_listener_iff (py : Library) (passcode : UInt32) {pre during : List Input}
    (hpre : ∀ part, Input.stop part ∉ pre) (hparts : during.filterMap Input.part = [.putNone, .endTask, .dropServer])
    (hrun : ∀ c n, Job.callback c n ∉ (init.run py passcode (pre ++ .stop .signOff :: during)).ready) :
    (init.run py passcode (pre ++ .stop .signOff :: during)).Unsubscribed ↔
      ¬ (init.run py passcode pre).LateClient py passcode during := by
  obtain ⟨connected, hlinked, -⟩ : (init.run py passcode pre).Agrees :=
    Runs.invariant Agrees step_agrees init_agrees fun i hm hi => hpre .signOff (hi ▸ hm)
  have hlater : ∀ i ∈ during, i ≠ .stop .signOff := by
    rintro i hm rfl
    have hpart : StopPart.signOff ∈ during.filterMap Input.part := List.mem_filterMap.mpr ⟨_, hm, rfl⟩
    simp [hparts] at hpart
  obtain ⟨final, hfinal⟩ := @run_linked py passcode _ _ _ (signOff_linked hlinked) during hlater
  have hwhole : init.run py passcode (pre ++ .stop .signOff :: during) =
      ((init.run py passcode pre).stopPart .signOff).run py passcode during := List.foldl_append
  rw [hwhole] at hrun ⊢
  obtain ⟨-, hlink, hlast⟩ := hfinal
  have hquiet : ∀ job ∈ (((init.run py passcode pre).stopPart .signOff).run py passcode during).ready,
      job.signal = none := by
    intro job hm
    cases job with
    | callback c n => exact absurd hm (hrun c n)
    | handle | push => rfl
  rw [heard_quiet hquiet] at hlast
  rw [lateClient_iff, ← hlast, Unsubscribed, hlink]
  cases final <;> simp [linkOf, ClientLink.init]

def served : List Input := [.write [0x01], .next .empty, .next .empty, .next .empty]

/-- While stop() waits one client leaves, and another one comes and goes. -/
def changedDuringStop : List Input :=
  [.stop .putNone, .disconnect, .next .empty, .write [0x01], .stop .endTask, .disconnect, .stop .dropServer,
    .next .empty, .next .empty, .next .empty, .next .empty]

theorem stop_leaves_no_listener_iff_changed :
    ((init.run .ascii 1 (served ++ .stop .signOff :: changedDuringStop)).Unsubscribed ↔
      ¬ (init.run .ascii 1 served).LateClient .ascii 1 changedDuringStop) ∧
    ¬ (init.run .ascii 1 served).Unsubscribed ∧ ¬ (init.run .ascii 1 served).LateClient .ascii 1 changedDuringStop := by
  have hpre : ∀ part, Input.stop part ∉ served := by
    intro part hm
    simp [served] at hm
  have hready : (init.run .ascii 1 (served ++ .stop .signOff :: changedDuringStop)).ready = [] :=
    List.isEmpty_iff.mp (by decide +kernel)
  refine ⟨stop_leaves_no_listener_iff .ascii 1 hpre rfl fun c n hm => ?_, by decide +kernel, by decide +kernel⟩
  rw [hready] at hm
  cases hm

/-- A client connects while stop() waits for the GATT task. -/
theorem late_client_leaves_listener :
    ¬ (init.run .ascii 1 [.stop .signOff, .stop .putNone, .write [0x01], .stop .endTask, .stop .dropServer,
      .next .empty, .next .empty, .next .empty]).Unsubscribed ∧
    (init.run .ascii 1 [.stop .signOff, .stop .putNone, .write [0x01], .stop .endTask, .stop .dropServer,
      .next .empty, .next .empty, .next .empty]).ready.length = 0 := by
  decide +kernel

end NativeBleServer

end HaBluetooth.Native
