import HaBluetooth.Dispatcher.Subscription

/-! The handling of a packet cut where it can be suspended: after the acknowledgement, and while a
service runs. -/

namespace HaBluetooth.Dispatcher

open Python Protocol Support

/-- What is left to do: answer an acknowledged request, report on a service call, or send a push. -/
inductive Task
  | reply (cmd : ℕ) (payload : Value)
  | called (domain service data : Value)
  | push (obj : Value)

namespace PacketDispatcher

variable (py : Library) (self : PacketDispatcher)

def acknowledge (raw : Bytes) : Run (Option Task) :=
  match decodePacket raw with
  | none => pure none
  | some (passcode, cmd, payloadBytes) =>
    if passcode ≠ self.passcode.toNat then do
      self.sendPacket cmdNack (errorDict "wrong passcode")
      return none
    else if cmd = cmdAck then pure none
    else if cmd ∈ [cmdReqAreas, cmdReqDevices, cmdReqDashboards, cmdReqState, cmdCallService] then do
      self.sendPacket cmdAck .null
      return some (.reply cmd (parsePayload py payloadBytes))
    else do
      self.sendPacket cmdNack (errorDict s!"unknown command 0x{hex2 cmd}")
      return none

def startService (payload : Value) : Run Task := do
  let domain ← .lift (payload.get "domain" (.str ""))
  let service ← .lift (payload.get "service" (.str ""))
  let entityId ← .lift (payload.get "entity_id" .null)
  let data ← .lift (payload.get "data" (.dict []))
  let data ← .lift (mergeEntityId entityId data)
  .emit (.service domain service data)
  return .called domain service data

def finishService (domain service data : Value) : Run Unit :=
  Traced.handle
    (do
      .lift (self.hass.callService domain service data)
      self.sendPacket cmdAnsCallService (.dict [("success", .bool true)]))
    self.serviceFailed

def advance : Task → Run (Option Task)
  | .reply cmd payload =>
    if cmd = cmdReqAreas then do
      self.handleReqAreas
      return none
    else if cmd = cmdReqDevices then do
      let areaId ← .lift (payload.get "area_id" .null)
      self.handleReqDevices areaId
      return none
    else if cmd = cmdReqDashboards then do
      self.handleReqDashboards py
      return none
    else if cmd = cmdReqState then do
      let entityId ← .lift (payload.get "entity_id" (.str ""))
      self.handleReqState py entityId
      return none
    else do
      let task ← startService payload
      return some task
  | .called domain service data => do
    self.finishService domain service data
    return none
  | .push obj => do
    self.sendPacket cmdStateChange obj
    return none

/-- Where sends do not suspend, a handler runs on until it waits for a service. -/
def startHandling (raw : Bytes) : Run (Option Task) := do
  let task ← self.acknowledge py raw
  match task with
  | none => return none
  | some task => self.advance py task

def drive : Option Task → Run Unit
  | none => pure ()
  | some task => do
    let next ← self.advance py task
    match next with
    | none => pure ()
    | some task => do
      let _ ← self.advance py task
      pure ()

/-! ### Nothing is lost by the cuts -/

lemma handleCallService_eq (payload : Value) :
    self.handleCallService payload =
      startService payload >>= fun task => self.advance py task >>= fun _ => pure () := by
  simp only [handleCallService, startService, bind_assoc, pure_bind, advance, tryService, Traced.handle_emit,
    finishService, bind_pure_unit]

lemma drive_last {task : Task} {x : Run Unit} (h : self.advance py task = x >>= fun _ => pure none) :
    self.drive py (some task) = x := by
  simp only [drive, h, bind_assoc, pure_bind, bind_pure_unit]

lemma dispatch_eq {cmd : ℕ} (h : cmd ∈ [cmdReqAreas, cmdReqDevices, cmdReqDashboards, cmdReqState, cmdCallService])
    (payloadBytes : Bytes) :
    self.dispatch py cmd payloadBytes =
      self.sendPacket cmdAck .null >>= fun _ => self.drive py (some (.reply cmd (parsePayload py payloadBytes))) := by
  simp only [List.mem_cons, List.not_mem_nil, or_false] at h
  rcases h with rfl | rfl | rfl | rfl | rfl
  · rw [self.drive_last py (x := self.handleReqAreas) rfl]
    rfl
  · rw [self.drive_last py (by exact (bind_assoc _ _ _).symm)]
    rfl
  · rw [self.drive_last py (x := self.handleReqDashboards py) rfl]
    rfl
  · rw [self.drive_last py (by exact (bind_assoc _ _ _).symm)]
    rfl
  · change (self.sendPacket cmdAck .null >>= fun _ => self.handleCallService (parsePayload py payloadBytes)) =
      self.sendPacket cmdAck .null >>= fun _ =>
        ((startService (parsePayload py payloadBytes) >>= fun task => pure (some task)) >>= _)
    rw [self.handleCallService_eq py, bind_assoc]
    rfl

lemma finished (x : Run Unit) : (x >>= fun _ => pure none) >>= self.drive py = x := by
  simp only [bind_assoc, pure_bind, drive, bind_pure_unit]

theorem handleIncomingPacket_eq (raw : Bytes) :
    self.handleIncomingPacket py raw = self.acknowledge py raw >>= self.drive py := by
  rw [handleIncomingPacket, acknowledge]
  cases decodePacket raw with
  | none => rfl
  | some r =>
    obtain ⟨passcode, cmd, payloadBytes⟩ := r
    dsimp only
    by_cases hp : passcode ≠ self.passcode.toNat
    · rw [if_pos hp, if_pos hp, self.finished py]
    · rw [if_neg hp, if_neg hp]
      by_cases ha : cmd = cmdAck
      · rw [if_pos ha, ha]
        rfl
      · rw [if_neg ha]
        by_cases hc : cmd ∈ [cmdReqAreas, cmdReqDevices, cmdReqDashboards, cmdReqState, cmdCallService]
        · rw [if_pos hc, self.dispatch_eq py hc, bind_assoc]
          rfl
        · rw [if_neg hc, self.finished py]
          simp only [List.mem_cons, List.not_mem_nil, or_false, not_or] at hc
          obtain ⟨h1, h2, h3, h4, h5⟩ := hc
          simp only [dispatch, if_neg ha, if_neg h1, if_neg h2, if_neg h3, if_neg h4, if_neg h5]

/-! ### Which tasks arise -/

variable {py self}

lemma finished_none {x : Run Unit} {task : Task} :
    (x >>= fun _ => pure none : Run (Option Task)).result ≠ .ok (some task) := by
  intro h
  obtain ⟨-, -, hn⟩ := Traced.bind_result_ok h
  cases hn

lemma acknowledge_stranger {raw : Bytes} {r : ℕ × ℕ × Bytes} (hraw : decodePacket raw = some r)
    (hp : r.1 ≠ self.passcode.toNat) :
    self.acknowledge py raw = self.sendPacket cmdNack (errorDict "wrong passcode") >>= fun _ => pure none := by
  rw [acknowledge, hraw]
  exact if_pos hp

lemma acknowledge_task {raw : Bytes} {task : Task} (h : (self.acknowledge py raw).result = .ok (some task)) :
    ∃ cmd payloadBytes, decodePacket raw = some (self.passcode.toNat, cmd, payloadBytes) ∧
      cmd ∈ [cmdReqAreas, cmdReqDevices, cmdReqDashboards, cmdReqState, cmdCallService] ∧
      task = .reply cmd (parsePayload py payloadBytes) := by
  rw [acknowledge] at h
  split at h
  · cases h
  · rename_i passcode cmd payloadBytes hraw
    by_cases hp : passcode = self.passcode.toNat
    · rw [if_neg (not_not.mpr hp)] at h
      split at h
      · cases h
      · split at h
        · rename_i hcmd
          obtain ⟨-, -, ht⟩ := Traced.bind_result_ok h
          exact ⟨cmd, payloadBytes, hp ▸ hraw, hcmd, (Option.some.inj (Except.ok.inj ht)).symm⟩
        · exact (finished_none h).elim
    · rw [if_pos hp] at h
      exact (finished_none h).elim

lemma advance_task {task task' : Task} (h : (self.advance py task).result = .ok (some task')) :
    ∃ cmd payload, task = .reply cmd payload ∧ cmd ∉ [cmdReqAreas, cmdReqDevices, cmdReqDashboards, cmdReqState] ∧
      (startService payload).result = .ok task' := by
  cases task with
  | push obj => exact (finished_none h).elim
  | called domain service data => exact (finished_none h).elim
  | reply cmd payload =>
    refine ⟨cmd, payload, rfl, ?_⟩
    rw [advance] at h
    split at h
    · exact (finished_none h).elim
    · split at h
      · rw [← bind_assoc] at h
        exact (finished_none h).elim
      · split at h
        · exact (finished_none h).elim
        · split at h
          · rw [← bind_assoc] at h
            exact (finished_none h).elim
          · obtain ⟨task, htask, hsome⟩ := Traced.bind_result_ok h
            cases hsome
            exact ⟨by simp_all, htask⟩

end PacketDispatcher

end HaBluetooth.Dispatcher
