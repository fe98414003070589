import HaBluetooth.Dispatcher.ServiceCalls
import HaBluetooth.Native.Server
import HaBluetooth.Support.Matching
import HaBluetooth.Support.Runs

/-! The frames that are written, in order: first those whose handlers have started, then those whose
handlers are scheduled, then those the loop has not yet seen. The services called match the first part. -/

namespace HaBluetooth.Native

open Python Protocol Support Dispatcher Gatt

def Job.scheduled : Job → Option Bytes
  | .handle frame _ => some frame
  | .callback _ _ | .push _ => none

def Job.unseen : Job → Option Bytes
  | .callback c _ => frameOf c
  | .handle _ _ | .push _ => none

namespace NativeBleServer

def serviceCalls (s : NativeBleServer) : List ServiceCall := s.effects.filterMap Effect.call

def waiting (s : NativeBleServer) : List Bytes := s.ready.filterMap Job.scheduled ++ s.ready.filterMap Job.unseen

lemma sendFrames_frame (gatt : GattServer) (datas : List Bytes) :
    ∃ queue, sendFrames gatt datas = { gatt with txQueue := queue } := by
  induction datas generalizing gatt with
  | nil => exact ⟨gatt.txQueue, rfl⟩
  | cons data datas ih =>
    obtain ⟨queue, hq⟩ := ih (gatt.sendFrame data).1
    refine ⟨queue, hq.trans ?_⟩
    by_cases h : gatt.connected = true ∧ gatt.server = true
    · rw [gatt.sendFrame_online data h.1 h.2]
    · rw [gatt.sendFrame_offline data h]

variable (py : Library) (passcode : UInt32)

structure Accounted (s : NativeBleServer) (inputs : List Input) : Prop where
  loop : s.gatt.loop = some []
  buffer : s.gatt.rxBuf = Reassembly.rest [] (pieces (inputs.filterMap Input.event))
  suspended : ∀ call ∈ s.calls, call.task.IsCalled
  matched : ∃ handled, receivedFrames inputs = handled ++ s.waiting ∧
    List.SublistForall₂ (Requests py passcode) s.serviceCalls handled

variable {py passcode} {s : NativeBleServer} {inputs : List Input}

lemma init_accounted : init.Accounted py passcode [] where
  loop := rfl
  buffer := rfl
  suspended _ hc := absurd hc List.not_mem_nil
  matched := ⟨[], rfl, .nil⟩

/-! ### Steps of the GATT server -/

lemma no_frames {α : Type} {f : α → Job} {g : Job → Option Bytes} (h : ∀ a, g (f a) = none) (as : List α) :
    (as.map f).filterMap g = [] := by
  rw [List.filterMap_map, List.filterMap_eq_nil_iff]
  exact fun a _ => h a

lemma callbacks_unseen (cs : List Callback) (n : ℕ) :
    (cs.map fun c => Job.callback c n).filterMap Job.unseen = cs.filterMap frameOf := List.filterMap_map

lemma scheduling_waiting (s : NativeBleServer) (gatt : GattServer) :
    (s.scheduling gatt).waiting = s.waiting ++ gatt.handed := by
  rw [waiting, scheduling, List.filterMap_append, List.filterMap_append, no_frames fun _ => rfl, callbacks_unseen,
    List.append_nil, ← List.append_assoc]
  rfl

lemma scheduling_accounted (h : s.Accounted py passcode inputs) {gatt : GattServer} {i : Input}
    (hb : gatt.rxBuf = Reassembly.rest s.gatt.rxBuf (pieces i.event.toList))
    (hf : gatt.handed = Reassembly.frames s.gatt.rxBuf (pieces i.event.toList)) :
    (s.scheduling gatt).Accounted py passcode (inputs ++ [i]) := by
  have hp : pieces ((inputs ++ [i]).filterMap Input.event) =
      pieces (inputs.filterMap Input.event) ++ pieces i.event.toList := by
    cases he : i.event <;> simp [pieces, he]
  obtain ⟨handled, hrec, hcalls⟩ := h.matched
  refine ⟨rfl, ?_, h.suspended, handled, ?_, hcalls⟩
  · rw [hp, Reassembly.rest_append, ← h.buffer]
    exact hb
  · rw [receivedFrames, hp, Reassembly.frames_append, ← h.buffer, ← hf, scheduling_waiting, ← List.append_assoc, ← hrec]
    rfl

lemma gatt_step_handed {gatt : GattServer} (hl : gatt.loop = some []) (e : Event) :
    (gatt.step e).rxBuf = Reassembly.rest gatt.rxBuf (pieces [e]) ∧
      (gatt.step e).handed = Reassembly.frames gatt.rxBuf (pieces [e]) := by
  obtain ⟨-, hb, hf⟩ := gatt.step_reassembles e (by rw [hl]; rfl)
  have hn : gatt.handed = [] := by rw [GattServer.handed, hl]; rfl
  have hp : pieces [e] = (piece e).toList := by cases he : piece e <;> simp [pieces, he]
  rw [hp]
  exact ⟨hb, by rw [hf, hn, List.nil_append]⟩

lemma quiet_accounted (h : s.Accounted py passcode inputs) {gatt : GattServer} {i : Input} (hi : i.event = none)
    (hb : gatt.rxBuf = s.gatt.rxBuf) (hf : gatt.handed = []) :
    (s.scheduling gatt).Accounted py passcode (inputs ++ [i]) :=
  scheduling_accounted h (by rw [hi]; exact hb) (by rw [hi]; exact hf)

lemma markDisconnected_quiet {gatt : GattServer} (hl : gatt.loop = some []) :
    gatt.markDisconnected.rxBuf = gatt.rxBuf ∧ gatt.markDisconnected.handed = [] :=
  gatt_step_handed hl .disconnect

lemma resume_quiet {gatt : GattServer} (hl : gatt.loop = some []) (u : Update) (w : TxWorker) :
    (gatt.resume u w).1.rxBuf = gatt.rxBuf ∧ (gatt.resume u w).1.handed = [] := by
  have hn : gatt.handed = [] := by rw [GattServer.handed, hl]; rfl
  rcases gatt.resume_cases w u with ⟨hs, -⟩ | ⟨item, queue, -, -, hs | ⟨-, hs⟩⟩
  · rw [hs]
    exact ⟨rfl, hn⟩
  · rw [hs]
    exact ⟨rfl, hn⟩
  · rw [hs]
    exact markDisconnected_quiet hl

/-! ### Steps of the loop -/

lemma accounted_quiet {i : Input} (hi : i.event = none) (h : s.Accounted py passcode inputs) :
    s.Accounted py passcode (inputs ++ [i]) := by
  have hf : (inputs ++ [i]).filterMap Input.event = inputs.filterMap Input.event := by simp [hi]
  obtain ⟨handled, hrec, hcalls⟩ := h.matched
  refine ⟨h.loop, ?_, h.suspended, handled, ?_, hcalls⟩
  · rw [hf]
    exact h.buffer
  · rw [receivedFrames, hf]
    exact hrec

lemma mem_left {r : Run (Option Task)} {task : Task} (h : task ∈ (r.result.toOption.bind id).toList) :
    r.result = .ok (some task) := by
  cases hres : r.result with
  | error e => simp [hres, Except.toOption] at h
  | ok next =>
    cases next with
    | none => simp [hres, Except.toOption] at h
    | some task' =>
      obtain rfl : task = task' := by simpa [hres, Except.toOption] using h
      rfl

lemma perform_accounted {r : Run (Option Task)} (request : Option ℕ) (hl : s.gatt.loop = some [])
    (hb : s.gatt.rxBuf = Reassembly.rest [] (pieces (inputs.filterMap Input.event)))
    (hs : ∀ call ∈ s.calls, call.task.IsCalled) (hr : ∀ task, r.result = .ok (some task) → task.IsCalled)
    (hm : ∃ handled, receivedFrames inputs = handled ++ s.waiting ∧
      List.SublistForall₂ (Requests py passcode) (s.serviceCalls ++ r.observed Effect.call) handled) :
    (s.perform request r).Accounted py passcode inputs := by
  obtain ⟨queue, hq⟩ := sendFrames_frame s.gatt r.sent
  obtain ⟨handled, hrec, hcalls⟩ := hm
  refine ⟨?_, ?_, ?_, handled, hrec, ?_⟩
  · rw [perform, hq]
    exact hl
  · rw [perform, hq]
    exact hb
  · intro call hc
    rcases List.mem_append.mp hc with hc | hc
    · exact hs call hc
    · obtain ⟨task, ht, rfl⟩ := List.mem_map.mp hc
      exact hr task (mem_left ht)
  · rw [serviceCalls, perform, List.filterMap_append]
    exact hcalls

lemma handle_accounted (h : s.Accounted py passcode inputs) {frame : Bytes} {n : ℕ} {ready : List Job}
    (hr : s.ready = .handle frame n :: ready) (authenticated : Bool) (hass : Hass) :
    ({ s with ready := ready, authenticated := authenticated }.perform (some n)
      ((dispatcher passcode hass).startHandling py frame)).Accounted py passcode inputs := by
  obtain ⟨handled, hrec, hcalls⟩ := h.matched
  refine perform_accounted (some n) h.loop h.buffer h.suspended (fun _ => PacketDispatcher.startHandling_leaves) ?_
  refine ⟨handled ++ [frame], ?_, Matching.append hcalls ?_⟩
  · rw [hrec, waiting, hr, List.append_assoc]
    rfl
  · rcases @PacketDispatcher.startHandling_calls py (dispatcher passcode hass) frame with hn | ⟨call, hcall, hreq⟩
    · exact hn ▸ .nil
    · exact hcall ▸ .cons hreq .nil

lemma runJob_accounted (h : s.Accounted py passcode inputs) {job : Job} {ready : List Job} (hr : s.ready = job :: ready)
    (hass : Hass) : ({ s with ready := ready }.runJob py passcode hass job).Accounted py passcode inputs := by
  obtain ⟨handled, hrec, hcalls⟩ := h.matched
  rw [waiting, hr] at hrec
  cases job with
  | callback c n =>
    cases c with
    | onConnect | onDisconnect => exact ⟨h.loop, h.buffer, h.suspended, handled, hrec, hcalls⟩
    | onFrame frame =>
      refine ⟨h.loop, h.buffer, h.suspended, handled, hrec.trans ?_, hcalls⟩
      simp [runJob, waiting, Job.scheduled, Job.unseen, frameOf, List.filterMap_append, List.filterMap_cons]
  | handle frame n => exact handle_accounted h hr _ hass
  | push obj =>
    refine perform_accounted none h.loop h.buffer h.suspended (fun _ => PacketDispatcher.advance_leaves) ?_
    have hnil : ((dispatcher passcode hass).advance py (.push obj)).observed Effect.call = [] :=
      Traced.observed_bind_nil (PacketDispatcher.sendPacket_calls _ _) fun _ => rfl
    rw [hnil, List.append_nil]
    exact ⟨handled, hrec, hcalls⟩

lemma finish_accounted (h : s.Accounted py passcode inputs) {i : ℕ} {call : Suspended} (hc : s.calls[i]? = some call)
    (hass : Hass) :
    ({ s with calls := s.calls.eraseIdx i }.perform call.request
      ((dispatcher passcode hass).advance py call.task)).Accounted py passcode inputs := by
  have hrest : ∀ c ∈ s.calls.eraseIdx i, c.task.IsCalled := fun c hm => h.suspended c (List.mem_of_mem_eraseIdx hm)
  have hcalled := h.suspended call (List.mem_of_getElem? hc)
  refine perform_accounted call.request h.loop h.buffer hrest (fun _ => PacketDispatcher.advance_leaves) ?_
  rw [PacketDispatcher.called_calls hcalled, List.append_nil]
  exact h.matched

lemma pushes_waiting (s : NativeBleServer) (objs : List Value) :
    { s with ready := s.ready ++ objs.map Job.push }.waiting = s.waiting := by
  rw [waiting, List.filterMap_append, List.filterMap_append, no_frames fun _ => rfl, no_frames fun _ => rfl,
    List.append_nil, List.append_nil]
  rfl

lemma stopPart_accounted (h : s.Accounted py passcode inputs) (part : StopPart) :
    (s.stopPart part).Accounted py passcode inputs := by
  obtain ⟨hl, hb, hs, hm⟩ := h
  cases part <;> exact ⟨hl, hb, hs, hm⟩

lemma step_accounted (h : s.Accounted py passcode inputs) (i : Input) :
    (s.step py passcode i).Accounted py passcode (inputs ++ [i]) := by
  cases i with
  | write value =>
    obtain ⟨hb, hf⟩ := gatt_step_handed h.loop (.write value)
    rw [step, handleWrite]
    split
    · have hs : { s with session := s.session + 1, authenticated := false }.Accounted py passcode inputs :=
        ⟨h.loop, h.buffer, h.suspended, h.matched⟩
      exact scheduling_accounted (i := .write value) hs hb hf
    · exact scheduling_accounted (i := .write value) h hb hf
  | disconnect =>
    obtain ⟨hb, hf⟩ := markDisconnected_quiet h.loop
    exact quiet_accounted h rfl hb hf
  | tx u =>
    obtain ⟨hb, hf⟩ := resume_quiet h.loop u s.worker
    have hs : { s with worker := (s.gatt.resume u s.worker).2.1 }.Accounted py passcode inputs :=
      ⟨h.loop, h.buffer, h.suspended, h.matched⟩
    exact quiet_accounted (i := .tx u) hs rfl hb hf
  | next hass =>
    refine accounted_quiet rfl ?_
    rw [step]
    split
    · exact h
    · exact runJob_accounted h ‹_› hass
  | finish i hass =>
    refine accounted_quiet rfl ?_
    rw [step]
    split
    · exact h
    · exact finish_accounted h ‹_› hass
  | stateChanged hass newState =>
    refine accounted_quiet rfl ⟨h.loop, h.buffer, h.suspended, ?_⟩
    rw [step, pushes_waiting]
    exact h.matched
  | stop part => exact accounted_quiet rfl (stopPart_accounted h part)

lemma run_accounted (inputs : List Input) : (init.run py passcode inputs).Accounted py passcode inputs := by
  refine Runs.history (Accounted py passcode) (fun s inputs i h => ?_) init_accounted inputs
  exact step_accounted h i

lemma run_requested (inputs : List Input) :
    List.SublistForall₂ (Requests py passcode) (init.run py passcode inputs).serviceCalls (receivedFrames inputs) := by
  have h : (init.run py passcode inputs).Accounted py passcode inputs := run_accounted inputs
  obtain ⟨handled, hrec, hcalls⟩ := h.matched
  rw [hrec]
  exact Matching.extend hcalls _

end NativeBleServer

end HaBluetooth.Native
