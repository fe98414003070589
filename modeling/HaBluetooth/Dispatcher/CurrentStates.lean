import HaBluetooth.Dispatcher.Pushes
import HaBluetooth.Dispatcher.ServiceCalls
import HaBluetooth.Support.LastWord

/-! A connected client's view of the states: stale pushes can follow a fresh snapshot, but a newer push
is then behind them. -/

namespace HaBluetooth.Dispatcher

open Python Protocol Support

def Hass.setState (hass : Hass) (state : State) : Hass := { hass with states := hass.states.insert state }

def Hass.removeState (hass : Hass) (entityId : String) : Hass := { hass with states := hass.states.erase entityId }

def Task.pushed : Task → Option Value
  | .push obj => some obj
  | .reply _ _ | .called _ _ _ => none

/-- What can happen while the client stays. Pushes are started in the order they were scheduled in. -/
inductive Occasion
  | updated (state : State)
  | removed (entityId : String)
  | received (raw : Bytes)
  | handlerResumed (i : ℕ)
  | pushStarted

namespace Watch

variable (py : Library) (passcode : UInt32)

def occur (w : Watch) : (Bytes → Result Unit) × Occasion → Watch
  | (sendRaw, .updated state) =>
    { w with hass := w.hass.setState state }.feed py passcode sendRaw (.stateChanged (some state))
  | (sendRaw, .removed entityId) =>
    { w with hass := w.hass.removeState entityId }.feed py passcode sendRaw (.stateChanged none)
  | (sendRaw, .received raw) => w.feed py passcode sendRaw (.receive raw)
  | (sendRaw, .handlerResumed i) =>
    match w.machine.tasks[i]?.bind Task.pushed with
    | none => w.feed py passcode sendRaw (.resume i)
    | some _ => w
  | (sendRaw, .pushStarted) =>
    match w.machine.tasks.findIdx? fun task => task.pushed.isSome with
    | none => w
    | some i => w.feed py passcode sendRaw (.resume i)

end Watch

/-! ### What a packet tells about an entity -/

def reports (cmd : ℕ) (obj : Value) : List Value :=
  if cmd = cmdAnsDevices then elements obj
  else if cmd ∈ [cmdAnsState, cmdStateChange] then [obj]
  else []

def reportedEntity (report : Value) : Option String :=
  match field report "entity_id" with
  | .str id => some id
  | _ => none

def Effect.mentions (e : String) : Effect → List Value
  | .packet cmd obj => ((reports cmd obj).filter fun report => reportedEntity report = some e).map (field · "state")
  | .raw _ | .service _ _ _ => []

/-- The pushes that are still to start, as the calls of `_send_packet` they will make. -/
def pending (tasks : List Task) : List Effect := tasks.filterMap fun task => task.pushed.map (.packet cmdStateChange)

namespace State

variable (state : State)

lemma reportedEntity_toDict : reportedEntity state.toDict = some state.entityId := rfl

lemma reportedEntity_deviceDict (areaId : Option String) (labels : List String) :
    reportedEntity (state.deviceDict areaId labels) = some state.entityId := rfl

lemma mentions_toDict (e : String) {cmd : ℕ} (h : cmd ∈ [cmdAnsState, cmdStateChange]) :
    (Effect.packet cmd state.toDict).mentions e = if state.entityId = e then [.str state.state] else [] := by
  have hd : cmd ≠ cmdAnsDevices := by
    rintro rfl
    simp [cmdAnsState, cmdStateChange, cmdAnsDevices] at h
  rw [Effect.mentions, reports, if_neg hd, if_pos h, List.filter_singleton, reportedEntity_toDict]
  by_cases he : state.entityId = e
  · simp only [he, decide_true, Bool.cond_true, if_true]
    rfl
  · simp [he]

end State

namespace Hass

variable (hass : Hass) (py : Library)

/-- The effect tells nothing about a state that is not so. -/
def Tells (effect : Effect) : Prop :=
  ∀ e state, hass.states.get? e = some state → ∀ v ∈ effect.mentions e, v = .str state.state

lemma tells_of_nil {effect : Effect} (h : ∀ e, effect.mentions e = []) : hass.Tells effect := by
  intro e state _ v hv
  rw [h e] at hv
  cases hv

lemma tells_of_packet {effect : Effect} (h : ∀ c v, effect = .packet c v → hass.Tells (.packet c v)) :
    hass.Tells effect := by
  cases effect with
  | raw data => exact hass.tells_of_nil fun _ => rfl
  | service domain service data => exact hass.tells_of_nil fun _ => rfl
  | packet c v => exact h c v rfl

lemma tells_devices (areaId : Value) : hass.Tells (.packet cmdAnsDevices (.list (hass.deviceDicts areaId))) := by
  intro e state hs v hv
  simp only [Effect.mentions, reports, if_true, elements, deviceDicts_eq, List.mem_map, List.mem_filter,
    List.mem_filterMap, Option.map_eq_some_iff] at hv
  obtain ⟨report, ⟨⟨other, hother, entry, -, rfl⟩, he⟩, rfl⟩ := hv
  rw [listedDict, State.reportedEntity_deviceDict, decide_eq_true_iff, Option.some.injEq] at he
  obtain ⟨hm, rfl⟩ := hass.states.get?_eq_some.mp hs
  rw [hass.states.eq_of_key hother hm he]
  rfl

lemma statesGet_current {entityId : Value} {found : State} (h : hass.statesGet py entityId = some found) :
    hass.states.get? found.entityId = some found := by
  cases entityId with
  | str id =>
    rcases Option.or_eq_some_iff.mp h with hs | ⟨-, hs⟩
    · exact hass.states.get?_key (hass.states.get?_eq_some.mp hs).1
    · exact hass.states.get?_key (hass.states.get?_eq_some.mp hs).1
  | _ => cases h

lemma tells_state {cmd : ℕ} (hc : cmd ∈ [cmdAnsState, cmdStateChange]) {found : State}
    (h : hass.states.get? found.entityId = some found) : hass.Tells (.packet cmd found.toDict) := by
  intro e state hs v hv
  rw [State.mentions_toDict found e hc] at hv
  split at hv
  · next he =>
    obtain rfl := Option.some.inj ((he ▸ h).symm.trans hs)
    exact List.mem_singleton.mp hv
  · cases hv

lemma tells_other {cmd : ℕ} (h : cmd ∉ [cmdAnsDevices, cmdAnsState, cmdStateChange]) (obj : Value) :
    hass.Tells (.packet cmd obj) := by
  apply hass.tells_of_nil
  simp only [List.mem_cons, List.not_mem_nil, or_false, not_or] at h
  simp [Effect.mentions, reports, h]

lemma tells_nack (obj : Value) : hass.Tells (.packet cmdNack obj) := hass.tells_other (by decide) obj

lemma tells_reply (q : Query) : hass.Tells (.packet (hass.reply py q).1 (hass.reply py q).2) := by
  cases q with
  | areas => exact @tells_other hass cmdAnsAreas (by decide) _
  | dashboards => exact @tells_other hass cmdAnsDashboards (by decide) _
  | devices areaId => exact hass.tells_devices areaId
  | state entityId =>
    simp only [reply]
    cases hs : hass.statesGet py entityId with
    | none => exact hass.tells_nack _
    | some found =>
      dsimp only
      split
      · exact hass.tells_nack _
      · exact hass.tells_state (.head _) (hass.statesGet_current py hs)

end Hass

namespace PacketDispatcher

variable {py : Library} {self : PacketDispatcher}

lemma acknowledge_packets {raw : Bytes} {c : ℕ} {v : Value}
    (h : Effect.packet c v ∈ (self.acknowledge py raw).events) : c = cmdAck ∨ c = cmdNack := by
  rw [acknowledge] at h
  split at h
  · cases h
  · split at h
    · rw [Traced.bind_pure_events] at h
      exact .inr (self.mem_sendPacket.mp h).1
    · split at h
      · cases h
      · split at h
        · rw [Traced.bind_pure_events] at h
          exact .inl (self.mem_sendPacket.mp h).1
        · rw [Traced.bind_pure_events] at h
          exact .inr (self.mem_sendPacket.mp h).1

lemma advance_reply_packets {cmd : ℕ} {payload : Value} {c : ℕ} {v : Value}
    (h : Effect.packet c v ∈ (self.advance py (.reply cmd payload)).events) : ∃ q, (c, v) = self.hass.reply py q := by
  rw [advance] at h
  split at h
  · rw [Traced.bind_pure_events] at h
    obtain ⟨rfl, rfl⟩ := self.mem_sendPacket.mp h
    exact ⟨.areas, rfl⟩
  · split at h
    · obtain ⟨areaId, -, h⟩ := Traced.mem_lift_bind.mp h
      rw [Traced.bind_pure_events] at h
      obtain ⟨rfl, rfl⟩ := self.mem_sendPacket.mp h
      exact ⟨.devices areaId, rfl⟩
    · split at h
      · rw [Traced.bind_pure_events] at h
        obtain ⟨rfl, rfl⟩ := self.mem_sendPacket.mp h
        exact ⟨.dashboards, rfl⟩
      · split at h
        · obtain ⟨entityId, -, h⟩ := Traced.mem_lift_bind.mp h
          rw [Traced.bind_pure_events, self.handleReqState_eq py] at h
          obtain ⟨rfl, rfl⟩ := self.mem_sendPacket.mp h
          exact ⟨.state entityId, rfl⟩
        · rw [startService_eq] at h
          cases hcall : requestedCall payload with
          | error e =>
            rw [hcall] at h
            cases h
          | ok call =>
            rw [hcall] at h
            rcases h with _ | ⟨_, ⟨⟩⟩

lemma finishService_packets {domain service data : Value} {c : ℕ} {v : Value}
    (h : Effect.packet c v ∈ (self.finishService domain service data).events) : c = cmdAnsCallService := by
  rcases Traced.mem_handle_events h with h | ⟨e, h⟩
  · obtain ⟨_, -, h⟩ := Traced.mem_lift_bind.mp h
    exact (self.mem_sendPacket.mp h).1
  · obtain ⟨text, ht⟩ := self.serviceFailed_eq e
    rw [ht] at h
    exact (self.mem_sendPacket.mp h).1

lemma handler_tells {task : Task} (hpush : task.pushed = none) {effect : Effect}
    (h : effect ∈ (self.advance py task).events) : self.hass.Tells effect := by
  apply self.hass.tells_of_packet
  rintro c v rfl
  cases task with
  | push obj => cases hpush
  | reply cmd payload =>
    obtain ⟨q, hq⟩ := advance_reply_packets h
    obtain ⟨rfl, rfl⟩ := Prod.mk.inj hq
    exact self.hass.tells_reply py q
  | called domain service data =>
    rw [advance, Traced.bind_pure_events] at h
    rw [finishService_packets h]
    exact self.hass.tells_other (by decide) v

lemma acknowledge_tells {raw : Bytes} {effect : Effect} (h : effect ∈ (self.acknowledge py raw).events) :
    self.hass.Tells effect := by
  apply self.hass.tells_of_packet
  rintro c v rfl
  rcases acknowledge_packets h with rfl | rfl
  · exact self.hass.tells_other (by decide) v
  · exact self.hass.tells_nack v

lemma advance_push_events (obj : Value) : ∃ rest, (self.advance py (.push obj)).events =
    .packet cmdStateChange obj :: rest ∧ ∀ effect ∈ rest, self.hass.Tells effect := by
  have hevents : (self.advance py (.push obj)).events = (self.sendPacket cmdStateChange obj).events :=
    Traced.bind_pure_events _ fun _ => none
  rw [hevents]
  rcases hp : encodePacketJson self.passcode.toNat cmdStateChange obj with e | packet
  · exact ⟨[], by simp [sendPacket, hp], by simp⟩
  · exact ⟨[.raw packet], by simp [sendPacket, hp], by simpa using self.hass.tells_of_nil fun _ => rfl⟩

end PacketDispatcher

/-! ### The last word about an entity -/

lemma pending_append (tasks tasks' : List Task) : pending (tasks ++ tasks') = pending tasks ++ pending tasks' :=
  List.filterMap_append ..

lemma pending_push (objs : List Value) : pending (objs.map .push) = objs.map (.packet cmdStateChange) := by
  simp [pending, Task.pushed]

lemma pending_quiet {tasks : List Task} (h : ∀ task ∈ tasks, task.pushed = none) : pending tasks = [] :=
  List.filterMap_eq_nil_iff.mpr fun task hm => by rw [h task hm]; rfl

lemma pending_handler {task : Task} (h : task.pushed = none) (tasks : List Task) :
    pending (task :: tasks) = pending tasks :=
  List.filterMap_cons_none (by rw [h]; rfl)

lemma pending_erase_handler {tasks : List Task} {i : ℕ} {task : Task} (hi : tasks[i]? = some task)
    (h : task.pushed = none) : pending (tasks.eraseIdx i) = pending tasks := by
  obtain ⟨hlt, rfl⟩ := List.getElem?_eq_some_iff.mp hi
  conv_rhs => rw [← List.take_append_drop i tasks, List.drop_eq_getElem_cons hlt, pending_append, pending_handler h]
  rw [List.eraseIdx_eq_take_drop_succ, pending_append]

lemma pending_erase_push {tasks : List Task} {i : ℕ} (hi : tasks.findIdx? (fun task => task.pushed.isSome) = some i) :
    ∃ obj, tasks[i]? = some (.push obj) ∧ pending tasks = .packet cmdStateChange obj :: pending (tasks.eraseIdx i) := by
  obtain ⟨hlt, hpush, hbefore⟩ := List.findIdx?_eq_some_iff_getElem.mp hi
  obtain ⟨obj, hobj⟩ : ∃ obj, tasks[i] = .push obj := by
    cases ht : tasks[i] with
    | push obj => exact ⟨obj, rfl⟩
    | reply | called => simp [ht, Task.pushed] at hpush
  have hquiet : pending (tasks.take i) = [] := by
    apply pending_quiet
    intro task hm
    obtain ⟨j, hj, rfl⟩ := List.mem_take_iff_getElem.mp hm
    simpa using hbefore j (by omega)
  refine ⟨obj, by rw [List.getElem?_eq_getElem hlt, hobj], ?_⟩
  conv_lhs => rw [← List.take_append_drop i tasks, List.drop_eq_getElem_cons hlt, pending_append, hquiet, hobj]
  rw [List.eraseIdx_eq_take_drop_succ, pending_append, hquiet]
  rfl

lemma new_quiet {r : Run (Option Task)} (h : ∀ task, r.result = .ok (some task) → task.pushed = none) :
    ∀ task ∈ (r.result.toOption.bind id).toList, task.pushed = none := by
  intro task hm
  rw [Option.mem_toList] at hm
  rcases hr : r.result with e | (_ | new)
  · simp [hr, Except.toOption] at hm
  · simp [hr, Except.toOption] at hm
  · obtain rfl : new = task := by simpa [hr, Except.toOption] using hm
    exact h new hr

lemma called_quiet {task : Task} (h : task.IsCalled) : task.pushed = none := by
  obtain ⟨domain, service, data, rfl⟩ := h
  rfl

namespace Watch

def Current (w : Watch) : Prop :=
  ∀ e state, w.hass.Exposes e → w.hass.states.get? e = some state →
    LastWord (Effect.mentions e) (· = .str state.state) (w.machine.effects ++ pending w.machine.tasks)

variable {py : Library} {passcode : UInt32} {sendRaw : Bytes → Result Unit} {w : Watch}

lemma current_sent {hass : Hass} {link : ClientLink} {tasks tasks' : List Task} {effects sent : List Effect}
    (h : Current ⟨hass, link, tasks, effects⟩) (ht : pending tasks' = pending tasks)
    (hsent : ∀ effect ∈ sent, hass.Tells effect) : Current ⟨hass, link, tasks', effects ++ sent⟩ := by
  intro e state hx hs
  change LastWord _ _ (effects ++ sent ++ pending tasks')
  rw [ht]
  exact (h e state hx hs).insert fun effect hm => hsent effect hm e state hs

lemma received_current (h : w.Current) (raw : Bytes) : (w.feed py passcode sendRaw (.receive raw)).Current := by
  apply current_sent h
  · rw [pending_append, pending_quiet (new_quiet ?_), List.append_nil]
    intro task htask
    obtain ⟨cmd, payloadBytes, -, -, rfl⟩ := PacketDispatcher.acknowledge_task htask
    rfl
  · exact fun effect hm => PacketDispatcher.acknowledge_tells hm

lemma resumed_current (h : w.Current) {i : ℕ} (hi : w.machine.tasks[i]?.bind Task.pushed = none) :
    (w.feed py passcode sendRaw (.resume i)).Current := by
  cases htask : w.machine.tasks[i]? with
  | none =>
    simp only [feed, Machine.step, htask]
    exact h
  | some task =>
    have hquiet : task.pushed = none := by rwa [htask] at hi
    simp only [feed, Machine.step, htask]
    apply current_sent h
    · rw [pending_append, pending_erase_handler htask hquiet, pending_quiet (new_quiet ?_), List.append_nil]
      exact fun _ hnew => called_quiet (PacketDispatcher.advance_leaves hnew)
    · exact fun effect hm => PacketDispatcher.handler_tells hquiet hm

lemma pushStarted_current (h : w.Current) {i : ℕ}
    (hi : w.machine.tasks.findIdx? (fun task => task.pushed.isSome) = some i) :
    (w.feed py passcode sendRaw (.resume i)).Current := by
  obtain ⟨obj, hobj, hpending⟩ := pending_erase_push hi
  obtain ⟨rest, hevents, hrest⟩ := @PacketDispatcher.advance_push_events py ⟨w.hass, passcode, sendRaw⟩ obj
  have hnew := pending_quiet (@new_quiet (PacketDispatcher.advance py ⟨w.hass, passcode, sendRaw⟩ (.push obj))
    fun _ htask => called_quiet (PacketDispatcher.advance_leaves htask))
  intro e state hx hs
  have hlast := h e state hx hs
  rw [hpending, List.append_cons] at hlast
  simp only [feed, Machine.step, hobj, Machine.perform]
  rw [hevents, pending_append, hnew, List.append_nil, List.append_cons]
  exact hlast.insert fun effect hm => hrest effect hm e state hs

lemma updated_current (hl : w.machine.link.listeners = 1) (h : w.Current) (state : State) :
    ({ w with hass := w.hass.setState state }.feed py passcode sendRaw (.stateChanged (some state))).Current := by
  intro e current hx hs
  change LastWord _ _ (w.machine.effects ++
    pending (w.machine.tasks ++ (w.machine.link.stateChanged (w.hass.setState state) (some state)).map .push))
  rw [ClientLink.stateChanged_single hl, pending_append, pending_push, ← List.append_assoc]
  have hwords := @State.mentions_toDict state e cmdStateChange (by simp)
  by_cases he : e = state.entityId
  · obtain rfl : state = current := by
      subst he
      exact Option.some.inj ((w.hass.states.get?_insert_self state).symm.trans hs)
    rw [Hass.onStateChanged_exposed (he ▸ (Hass.isExposed_iff_exposes _).mpr hx)]
    rw [if_pos he.symm] at hwords
    exact .append_speaking (by simp [hwords]) (by simp [hwords])
  · have hold := h e current hx ((w.hass.states.get?_insert_ne he).mp hs)
    rw [if_neg (Ne.symm he)] at hwords
    cases hexposed : (w.hass.setState state).isExposed (.str state.entityId) with
    | false =>
      rw [Hass.onStateChanged_hidden hexposed]
      simpa using hold
    | true =>
      rw [Hass.onStateChanged_exposed hexposed]
      exact .append_silent hwords hold

lemma removed_current (h : w.Current) (entityId : String) :
    ({ w with hass := w.hass.removeState entityId }.feed py passcode sendRaw (.stateChanged none)).Current := by
  intro e state hx hs
  change LastWord _ _ (w.machine.effects ++
    pending (w.machine.tasks ++ (w.machine.link.stateChanged (w.hass.removeState entityId) none).map .push))
  rw [ClientLink.stateChanged_silent rfl, List.map_nil, List.append_nil]
  exact h e state hx (w.hass.states.get?_erase hs)

/-! ### Runs -/

lemma resumed_link (i : ℕ) : (w.feed py passcode sendRaw (.resume i)).machine.link = w.machine.link := by
  simp only [feed, Machine.step]
  split <;> rfl

structure Attended (w : Watch) : Prop where
  listeners : w.machine.link.listeners = 1
  current : w.Current

lemma occur_attended (w : Watch) (o : (Bytes → Result Unit) × Occasion) (h : w.Attended) :
    (w.occur py passcode o).Attended := by
  obtain ⟨hl, hcurrent⟩ := h
  obtain ⟨sendRaw, occasion⟩ := o
  cases occasion with
  | updated state => exact ⟨hl, updated_current hl hcurrent state⟩
  | removed entityId => exact ⟨hl, removed_current hcurrent entityId⟩
  | received raw => exact ⟨hl, received_current hcurrent raw⟩
  | handlerResumed i =>
    rw [occur]
    split
    · next hi => exact ⟨by rwa [resumed_link], resumed_current hcurrent hi⟩
    · exact ⟨hl, hcurrent⟩
  | pushStarted =>
    rw [occur]
    split
    · exact ⟨hl, hcurrent⟩
    · next i hi => exact ⟨by rwa [resumed_link], pushStarted_current hcurrent hi⟩

def UpToDate (w : Watch) : Prop :=
  ∀ e state, w.hass.Exposes e → w.hass.states.get? e = some state →
    ∀ before packet after, w.machine.effects = before ++ packet :: after →
      (∀ later ∈ after, later.mentions e = []) → ∀ v ∈ packet.mentions e, v = .str state.state

theorem last_word_current (py : Library) (passcode : UInt32) (hass : Hass) {tasks : List Task}
    (h : ∀ task ∈ tasks, task.pushed = none) (occasions : List ((Bytes → Result Unit) × Occasion))
    (hidle : ∀ task ∈ (occasions.foldl (occur py passcode) ⟨hass, ⟨true, true, 1⟩, tasks, []⟩).machine.tasks,
      task.pushed = none) :
    (occasions.foldl (occur py passcode) ⟨hass, ⟨true, true, 1⟩, tasks, []⟩).UpToDate := by
  have hstart : Current ⟨hass, ⟨true, true, 1⟩, tasks, []⟩ := by
    intro e state _ _
    rw [pending_quiet h]
    exact .nil
  have hattended := Runs.preserved Attended (@occur_attended py passcode) ⟨rfl, hstart⟩ occasions
  intro e state hx hs
  have hlast := hattended.current e state hx hs
  rwa [pending_quiet hidle, List.append_nil] at hlast

def lamp (state : String) : State := ⟨"light.lamp", "light", state, [], none⟩

/-- Devices are asked for and the lamp changes twice before the handler goes on. It changes once more before the
pushes start. -/
def overtaking : List ((Bytes → Result Unit) × Occasion) :=
  [.received [0xAA, 0xBB, 0, 0, 0, 1, 0x12, 0, 0, 0, 0x6D, 0xA0, 0xCC, 0xDD], .updated (lamp "on"),
    .updated (lamp "off"), .handlerResumed 0, .updated (lamp "unknown"), .pushStarted, .pushStarted, .pushStarted].map
    fun occasion => (fun _ => .ok (), occasion)

def overtaken : Watch :=
  overtaking.foldl (occur .ascii 1) ⟨PacketDispatcher.labelledLamp, ⟨true, true, 1⟩, [], []⟩

/-- The first push is older than the snapshot it follows. -/
theorem last_word_current_overtaken :
    overtaken.UpToDate ∧ (overtaken.machine.effects.flatMap (Effect.mentions "light.lamp")).map Library.ascii.str =
      ["off", "on", "off", "unknown"] := by
  have htasks : overtaken.machine.tasks = [] := List.isEmpty_iff.mp (by decide +kernel)
  refine ⟨?_, by decide +kernel⟩
  rw [overtaken] at htasks ⊢
  apply last_word_current .ascii 1 PacketDispatcher.labelledLamp (fun task hm => absurd hm List.not_mem_nil)
  rw [htasks]
  exact fun task hm => absurd hm List.not_mem_nil

end Watch

end HaBluetooth.Dispatcher
