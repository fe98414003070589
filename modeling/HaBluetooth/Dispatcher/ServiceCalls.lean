import HaBluetooth.Dispatcher.Tasks

/-! Which service a packet calls, if any. -/

namespace HaBluetooth.Dispatcher

open Python Protocol Support

abbrev ServiceCall := Value × Value × Value

def Effect.call : Effect → Option ServiceCall
  | .service d s x => some (d, s, x)
  | .packet _ _ | .raw _ => none

def requestedCall (payload : Value) : Result ServiceCall := do
  let domain ← payload.get "domain" (.str "")
  let service ← payload.get "service" (.str "")
  let entityId ← payload.get "entity_id" .null
  let data ← payload.get "data" (.dict [])
  let data ← mergeEntityId entityId data
  return (domain, service, data)

def CrcMatches (raw : Bytes) : Prop :=
  crc16Ccitt ((raw.take (raw.length - 4)).drop 2) =
    BigEndian.value ((raw.take (raw.length - 2)).drop (raw.length - 4))

def Requests (py : Library) (passcode : UInt32) (call : ServiceCall) (raw : Bytes) : Prop :=
  CrcMatches raw ∧ ∃ payloadBytes, decodePacket raw = some (passcode.toNat, cmdCallService, payloadBytes) ∧
    requestedCall (parsePayload py payloadBytes) = .ok call

def Task.IsCalled (task : Task) : Prop := ∃ domain service data, task = .called domain service data

lemma decodePacket_crc {raw : Bytes} {r : ℕ × ℕ × Bytes} (h : decodePacket raw = some r) : CrcMatches raw := by
  by_contra hn
  rw [CrcMatches] at hn
  simp only [decodePacket, ne_eq, hn, not_false_eq_true, if_true] at h
  split at h
  · cases h
  · split at h <;> cases h

namespace PacketDispatcher

variable {py : Library} {self : PacketDispatcher}

lemma sendPacket_calls (c : ℕ) (v : Value) : (self.sendPacket c v).observed Effect.call = [] := by
  cases h : encodePacketJson self.passcode.toNat c v <;> simp [sendPacket, h, Traced.observed, Effect.call]

lemma acknowledge_calls (raw : Bytes) : (self.acknowledge py raw).observed Effect.call = [] := by
  rw [acknowledge]
  split
  · rfl
  · split
    · exact Traced.observed_bind_nil (sendPacket_calls _ _) fun _ => rfl
    · split
      · rfl
      · split
        · exact Traced.observed_bind_nil (sendPacket_calls _ _) fun _ => rfl
        · exact Traced.observed_bind_nil (sendPacket_calls _ _) fun _ => rfl

lemma startService_eq (payload : Value) :
    startService payload = .lift (requestedCall payload) >>= fun call =>
      .emit (.service call.1 call.2.1 call.2.2) >>= fun _ => pure (.called call.1 call.2.1 call.2.2) := by
  simp only [startService, requestedCall, Traced.lift_bind, Traced.lift_pure, bind_assoc, pure_bind]

lemma startService_calls (payload : Value) : (startService payload).observed Effect.call = [] ∨
    ∃ call, (startService payload).observed Effect.call = [call] ∧ requestedCall payload = .ok call := by
  rw [startService_eq]
  cases h : requestedCall payload with
  | error e => exact .inl rfl
  | ok call => exact .inr ⟨call, rfl, rfl⟩

lemma finishService_calls (domain service data : Value) :
    (self.finishService domain service data).observed Effect.call = [] := by
  apply Traced.observed_handle_nil
  · exact Traced.observed_bind_nil rfl fun _ => sendPacket_calls _ _
  · intro e
    obtain ⟨text, ht⟩ := self.serviceFailed_eq e
    rw [ht]
    exact sendPacket_calls _ _

lemma handleReqState_calls (entityId : Value) : (self.handleReqState py entityId).observed Effect.call = [] := by
  rw [handleReqState]
  split
  · exact sendPacket_calls _ _
  · split <;> exact sendPacket_calls _ _

lemma advance_reply_calls (cmd : ℕ) (payload : Value) :
    (self.advance py (.reply cmd payload)).observed Effect.call = [] ∨
      ∃ call, (self.advance py (.reply cmd payload)).observed Effect.call = [call] ∧
        cmd ∉ [cmdReqAreas, cmdReqDevices, cmdReqDashboards, cmdReqState] ∧ requestedCall payload = .ok call := by
  by_cases hc : cmd ∈ [cmdReqAreas, cmdReqDevices, cmdReqDashboards, cmdReqState]
  · left
    simp only [List.mem_cons, List.not_mem_nil, or_false] at hc
    rcases hc with rfl | rfl | rfl | rfl
    · exact Traced.observed_bind_nil (sendPacket_calls _ _) fun _ => rfl
    · exact Traced.observed_bind_nil rfl fun _ => Traced.observed_bind_nil (sendPacket_calls _ _) fun _ => rfl
    · exact Traced.observed_bind_nil (sendPacket_calls _ _) fun _ => rfl
    · exact Traced.observed_bind_nil rfl fun _ => Traced.observed_bind_nil (handleReqState_calls _) fun _ => rfl
  · have hadv : self.advance py (.reply cmd payload) = startService payload >>= fun task => pure (some task) := by
      simp only [List.mem_cons, List.not_mem_nil, or_false, not_or] at hc
      obtain ⟨h1, h2, h3, h4⟩ := hc
      simp only [advance, if_neg h1, if_neg h2, if_neg h3, if_neg h4]
    rw [hadv, Traced.observed_bind_pure]
    rcases startService_calls payload with hn | ⟨call, hcall, hreq⟩
    · exact .inl hn
    · exact .inr ⟨call, hcall, hc, hreq⟩

lemma advance_acknowledged {raw : Bytes} {task : Task} (h : (self.acknowledge py raw).result = .ok (some task)) :
    (self.advance py task).observed Effect.call = [] ∨
      ∃ call, (self.advance py task).observed Effect.call = [call] ∧ Requests py self.passcode call raw := by
  obtain ⟨cmd, payloadBytes, hdec, hcmd, rfl⟩ := acknowledge_task h
  rcases self.advance_reply_calls cmd (parsePayload py payloadBytes) with hn | ⟨call, hcall, hnot, hreq⟩
  · exact .inl hn
  · have hservice : cmd = cmdCallService := by
      simp only [List.mem_cons, List.not_mem_nil, or_false] at hcmd hnot
      tauto
    exact .inr ⟨call, hcall, decodePacket_crc hdec, payloadBytes, hservice ▸ hdec, hreq⟩

lemma acknowledged_calls {α : Type} (raw : Bytes) {f : Option Task → Run α} (hn : (f none).observed Effect.call = [])
    (hf : ∀ task, (f (some task)).observed Effect.call = (self.advance py task).observed Effect.call) :
    (self.acknowledge py raw >>= f).observed Effect.call = [] ∨
      ∃ call, (self.acknowledge py raw >>= f).observed Effect.call = [call] ∧ Requests py self.passcode call raw := by
  cases h : (self.acknowledge py raw).result with
  | error e =>
    rw [Traced.observed_bind_error _ _ h, acknowledge_calls]
    exact .inl rfl
  | ok task =>
    rw [Traced.observed_bind_ok _ _ h, acknowledge_calls, List.nil_append]
    cases task with
    | none => exact .inl hn
    | some task =>
      rw [hf]
      exact advance_acknowledged h

lemma startHandling_calls (raw : Bytes) : (self.startHandling py raw).observed Effect.call = [] ∨
    ∃ call, (self.startHandling py raw).observed Effect.call = [call] ∧ Requests py self.passcode call raw :=
  acknowledged_calls raw rfl fun _ => rfl

/-! ### What a handler waits for -/

lemma advance_leaves {task task' : Task} (h : (self.advance py task).result = .ok (some task')) : task'.IsCalled := by
  obtain ⟨cmd, payload, -, -, hs⟩ := advance_task h
  rw [startService_eq] at hs
  obtain ⟨call, -, hcall⟩ := Traced.bind_result_ok hs
  cases hcall
  exact ⟨_, _, _, rfl⟩

lemma startHandling_leaves {raw : Bytes} {task : Task} (h : (self.startHandling py raw).result = .ok (some task)) :
    task.IsCalled := by
  obtain ⟨next, -, hnext⟩ := Traced.bind_result_ok h
  cases next with
  | none => cases hnext
  | some task => exact advance_leaves hnext

lemma called_calls {task : Task} (h : task.IsCalled) : (self.advance py task).observed Effect.call = [] := by
  obtain ⟨domain, service, data, rfl⟩ := h
  exact Traced.observed_bind_nil (finishService_calls _ _ _) fun _ => rfl

lemma drive_calls (task : Task) :
    (self.drive py (some task)).observed Effect.call = (self.advance py task).observed Effect.call := by
  rw [drive]
  cases h : (self.advance py task).result with
  | error e => rw [Traced.observed_bind_error _ _ h]
  | ok next =>
    rw [Traced.observed_bind_ok _ _ h]
    cases next with
    | none => exact List.append_nil _
    | some task' =>
      have hrest : (self.advance py task' >>= fun _ => pure () : Run Unit).observed Effect.call = [] := by
        rw [Traced.observed_bind_pure, called_calls (advance_leaves h)]
      exact (congrArg _ hrest).trans (List.append_nil _)

lemma handleIncomingPacket_calls (raw : Bytes) : (self.handleIncomingPacket py raw).observed Effect.call = [] ∨
    ∃ call, (self.handleIncomingPacket py raw).observed Effect.call = [call] ∧ Requests py self.passcode call raw := by
  rw [handleIncomingPacket_eq]
  exact acknowledged_calls raw rfl drive_calls

end PacketDispatcher

end HaBluetooth.Dispatcher
