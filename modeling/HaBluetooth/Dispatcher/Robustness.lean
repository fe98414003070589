import HaBluetooth.Dispatcher.Queries

/-! Which received packets make the dispatcher raise, when everything it depends on works. -/

namespace HaBluetooth.Dispatcher

open Python Protocol Support

namespace Query

variable {payload : Value}

lemma asks_unique {q q' : Query} (hc : q.cmd = q'.cmd) (h : q.Asks payload) (h' : q'.Asks payload) : q = q' := by
  cases q <;> cases q' <;>
    simp_all [cmd, Asks, cmdReqAreas, cmdReqDevices, cmdReqDashboards, cmdReqState]

lemma cmd_ne_callService (q : Query) : q.cmd ≠ cmdCallService := by
  cases q <;> simp [cmd, cmdReqAreas, cmdReqDevices, cmdReqDashboards, cmdReqState, cmdCallService]

lemma asks_dict {q : Query} (h : q.Asks payload) (hc : q.cmd = cmdReqDevices ∨ q.cmd = cmdReqState) :
    payload.IsDict := by
  cases q with
  | areas | dashboards => simp [cmd, cmdReqAreas, cmdReqDevices, cmdReqDashboards, cmdReqState] at hc
  | devices | state => exact Value.get_ok h

end Query

/-- CALL_SERVICE with an entity to merge into service data that is not an object. -/
def Unmergeable (payload : Value) : Prop :=
  ∃ entityId data, payload.get "entity_id" .null = .ok entityId ∧ entityId.truthy = true ∧
    payload.get "data" (.dict []) = .ok data ∧ ¬ data.IsDict

def Hass.Crashes (hass : Hass) (py : Library) (cmd : ℕ) (payload : Value) : Prop :=
  ((cmd = cmdReqDevices ∨ cmd = cmdReqState ∨ cmd = cmdCallService) ∧ ¬ payload.IsDict) ∨
    (cmd = cmdCallService ∧ Unmergeable payload) ∨
    ∃ q : Query, q.cmd = cmd ∧ q.Asks payload ∧ hass.SendsOpaque py q

lemma Hass.crashes_query (hass : Hass) (py : Library) {q : Query} {payload : Value} (hq : q.Asks payload) :
    hass.Crashes py q.cmd payload ↔ hass.SendsOpaque py q := by
  constructor
  · rintro (⟨hc, hn⟩ | ⟨hc, -⟩ | ⟨q', hc, hq', ho⟩)
    · rcases hc with hc | hc | hc
      · exact (hn (Query.asks_dict hq (.inl hc))).elim
      · exact (hn (Query.asks_dict hq (.inr hc))).elim
      · exact (q.cmd_ne_callService hc).elim
    · exact (q.cmd_ne_callService hc).elim
    · exact Query.asks_unique hc hq' hq ▸ ho
  · exact fun ho => .inr (.inr ⟨q, rfl, hq, ho⟩)

lemma Hass.not_crashes (hass : Hass) (py : Library) {cmd : ℕ} (payload : Value) (ha : cmd ≠ cmdReqAreas)
    (hd : cmd ≠ cmdReqDevices) (hb : cmd ≠ cmdReqDashboards) (hs : cmd ≠ cmdReqState) (hc : cmd ≠ cmdCallService) :
    ¬ hass.Crashes py cmd payload := by
  rintro (⟨hh, -⟩ | ⟨hh, -⟩ | ⟨q, rfl, -⟩)
  · rcases hh with hh | hh | hh
    · exact hd hh
    · exact hs hh
    · exact hc hh
  · exact hc hh
  · cases q with
    | areas => exact ha rfl
    | devices => exact hd rfl
    | dashboards => exact hb rfl
    | state => exact hs rfl

def Run.Small (r : Run Unit) : Prop := ∀ c v, Effect.packet c v ∈ r.events → jsonSize v ≤ 65535

lemma Run.Small.bind {x : Run Unit} {f : Unit → Run Unit} (h : Run.Small (x >>= f)) {a : Unit}
    (hx : x.result = .ok a) : Run.Small (f a) :=
  fun c v hm => h c v (Traced.mem_bind_events.mpr (.inr ⟨a, hx, hm⟩))

namespace PacketDispatcher

variable (py : Library) (self : PacketDispatcher) {c : ℕ} {v payload : Value}

lemma sendPacket_small (hr : self.Reliable) (hc : c < 256) (hs : Run.Small (self.sendPacket c v)) :
    (self.sendPacket c v).Completes ↔ v.Serialisable := by
  rw [self.sendPacket_completes hr hc]
  exact and_iff_left (hs c v (self.mem_sendPacket.mpr ⟨rfl, rfl⟩))

lemma ack_bind (hr : self.Reliable) {f : Unit → Run Unit} :
    ((self.sendPacket cmdAck .null >>= f).Completes ↔ (f ()).Completes) ∧
      (Run.Small (self.sendPacket cmdAck .null >>= f) → Run.Small (f ())) := by
  obtain ⟨packet, he, -⟩ := self.sendPacket_ack hr
  have hx : (self.sendPacket cmdAck .null).result = .ok () := by rw [he]
  refine ⟨?_, fun hs => hs.bind hx⟩
  rw [Traced.bind_ok f hx]
  rfl

section

variable {domain service data : Value}

lemma tryService_error {e : PyError} (h : self.hass.callService domain service data = .error e) :
    self.tryService domain service data =
      ⟨.service domain service data :: (self.serviceFailed e).events, (self.serviceFailed e).result⟩ := by
  rw [tryService, h, Traced.emit_bind, Traced.lift_error_bind, Traced.handle_error (e := e) _ rfl]
  rfl

lemma tryService_completes (hr : self.Reliable) (hs : Run.Small (self.tryService domain service data)) :
    (self.tryService domain service data).Completes := by
  cases hcall : self.hass.callService domain service data with
  | ok u =>
    obtain ⟨packet, _, he, -⟩ := self.sendPacket_ok hr (c := cmdAnsCallService)
      (v := .dict [("success", .bool true)]) (by decide) rfl (by decide)
    rw [tryService, hcall, Traced.emit_bind, Traced.lift_ok_bind, he, Traced.handle_ok (a := ()) _ rfl]
    exact Traced.completes_ok _ _
  | error e =>
    obtain ⟨text, ht⟩ := self.serviceFailed_eq e
    have hser : (failureDict text).Serialisable := rfl
    rw [self.tryService_error hcall, ht] at hs ⊢
    have hsend : Run.Small (self.sendPacket cmdAnsCallService (failureDict text)) :=
      fun c v hm => hs c v (List.mem_cons_of_mem _ hm)
    rw [Traced.completes_mk]
    exact (self.sendPacket_small hr (by decide) hsend).mpr hser

end

lemma mergeEntityId_ok {entityId data : Value} :
    (∃ w, mergeEntityId entityId data = .ok w) ↔ (entityId.truthy = true → data.IsDict) := by
  rw [mergeEntityId]
  split
  · rename_i ht
    simp only [Value.setItem_ok, ht, forall_const]
  · rename_i ht
    exact iff_of_true ⟨_, rfl⟩ fun hh => (ht hh).elim

lemma unmergeable_dict (entries : List (String × Value)) :
    Unmergeable (.dict entries) ↔ ¬ ∃ w, mergeEntityId ((entries.lookup "entity_id").getD .null)
      ((entries.lookup "data").getD (.dict [])) = .ok w := by
  rw [mergeEntityId_ok, Classical.not_imp]
  constructor
  · rintro ⟨_, _, he, ht, hd, hn⟩
    cases he
    cases hd
    exact ⟨ht, hn⟩
  · rintro ⟨ht, hn⟩
    exact ⟨_, _, rfl, ht, rfl, hn⟩

lemma handleCallService_completes (hr : self.Reliable) (hs : Run.Small (self.handleCallService payload)) :
    (self.handleCallService payload).Completes ↔ payload.IsDict ∧ ¬ Unmergeable payload := by
  by_cases hd : payload.IsDict
  · obtain ⟨entries, rfl⟩ := hd
    simp only [handleCallService, Value.get_dict, Traced.lift_ok_bind] at hs ⊢
    rw [unmergeable_dict, not_not, and_iff_right ⟨entries, rfl⟩]
    cases hm : mergeEntityId ((entries.lookup "entity_id").getD .null) ((entries.lookup "data").getD (.dict [])) with
    | error e =>
      rw [Traced.lift_error_bind]
      apply iff_of_false (Traced.not_completes_error _ _)
      rintro ⟨w, hw⟩
      cases hw
    | ok w =>
      rw [hm, Traced.lift_ok_bind] at hs
      rw [Traced.lift_ok_bind]
      exact iff_of_true (self.tryService_completes hr hs) ⟨w, rfl⟩
  · obtain ⟨e, he⟩ := Value.get_error hd "domain" (.str "")
    rw [handleCallService, he, Traced.lift_error_bind]
    exact iff_of_false (Traced.not_completes_error _ _) fun h => hd h.1

lemma dispatch_unread (hr : self.Reliable) {cmd : ℕ} {payloadBytes : Bytes}
    (hn : ¬ (parsePayload py payloadBytes).IsDict) (hc : cmd = cmdReqDevices ∨ cmd = cmdReqState) :
    ¬ (self.dispatch py cmd payloadBytes).Completes := by
  have hread (key : String) (default : Value) (f : Value → Run Unit) :
      ¬ (self.sendPacket cmdAck .null >>= fun _ =>
        .lift ((parsePayload py payloadBytes).get key default) >>= f).Completes := by
    obtain ⟨e, he⟩ := Value.get_error hn key default
    rw [(self.ack_bind hr).1, he, Traced.lift_error_bind]
    exact Traced.not_completes_error _ _
  rcases hc with rfl | rfl
  · exact hread "area_id" .null self.handleReqDevices
  · exact hread "entity_id" (.str "") (self.handleReqState py)

lemma dispatch_cases (cmd : ℕ) (payload : Value) :
    (∃ q : Query, q.cmd = cmd ∧ q.Asks payload) ∨
      ((cmd = cmdReqDevices ∨ cmd = cmdReqState) ∧ ¬ payload.IsDict) ∨ cmd = cmdCallService ∨ cmd = cmdAck ∨
      (cmd ≠ cmdReqAreas ∧ cmd ≠ cmdReqDevices ∧ cmd ≠ cmdReqDashboards ∧ cmd ≠ cmdReqState ∧
        cmd ≠ cmdCallService ∧ cmd ≠ cmdAck) := by
  by_cases hareas : cmd = cmdReqAreas
  · exact .inl ⟨.areas, hareas.symm, trivial⟩
  by_cases hdash : cmd = cmdReqDashboards
  · exact .inl ⟨.dashboards, hdash.symm, trivial⟩
  by_cases hd : payload.IsDict
  · obtain ⟨entries, rfl⟩ := hd
    by_cases hdev : cmd = cmdReqDevices
    · exact .inl ⟨.devices _, hdev.symm, rfl⟩
    by_cases hst : cmd = cmdReqState
    · exact .inl ⟨.state _, hst.symm, rfl⟩
    tauto
  · tauto

lemma dispatch_completes (hr : self.Reliable) {cmd : ℕ} {payloadBytes : Bytes}
    (hs : Run.Small (self.dispatch py cmd payloadBytes)) :
    (self.dispatch py cmd payloadBytes).Completes ↔ ¬ self.hass.Crashes py cmd (parsePayload py payloadBytes) := by
  rcases dispatch_cases cmd (parsePayload py payloadBytes) with
    ⟨q, rfl, hq⟩ | ⟨hc, hn⟩ | rfl | rfl | ⟨h1, h2, h3, h4, h5, h6⟩
  · rw [self.dispatch_query py hq] at hs ⊢
    rw [self.hass.crashes_query py hq, (self.ack_bind hr).1,
      self.sendPacket_small hr (self.hass.reply_cmd_lt py q) ((self.ack_bind hr).2 hs), self.hass.serialisable_reply]
  · refine iff_of_false (self.dispatch_unread py hr hn hc) (not_not.mpr (.inl ⟨?_, hn⟩))
    exact hc.imp_right .inl
  · have he : self.dispatch py cmdCallService payloadBytes =
        self.sendPacket cmdAck .null >>= fun _ => self.handleCallService (parsePayload py payloadBytes) := rfl
    rw [he] at hs ⊢
    rw [(self.ack_bind hr).1, self.handleCallService_completes hr ((self.ack_bind hr).2 hs)]
    constructor
    · rintro ⟨hd, hm⟩ (⟨-, hn⟩ | ⟨-, hm'⟩ | ⟨q, hq, -⟩)
      · exact hn hd
      · exact hm hm'
      · exact q.cmd_ne_callService hq
    · intro h
      refine ⟨?_, fun hm => h (.inr (.inl ⟨rfl, hm⟩))⟩
      by_contra hn
      exact h (.inl ⟨.inr (.inr rfl), hn⟩)
  · have he : self.dispatch py cmdAck payloadBytes = pure () := rfl
    rw [he]
    exact iff_of_true (Traced.completes_ok [] ())
      (self.hass.not_crashes py _ (by decide) (by decide) (by decide) (by decide) (by decide))
  · have he : self.dispatch py cmd payloadBytes =
        self.sendPacket cmdNack (errorDict s!"unknown command 0x{hex2 cmd}") := by
      simp only [dispatch, if_neg h1, if_neg h2, if_neg h3, if_neg h4, if_neg h5, if_neg h6]
    rw [he] at hs ⊢
    exact iff_of_true ((self.sendPacket_small hr (by decide) hs).mpr (Hass.serialisable_error _))
      (self.hass.not_crashes py _ h1 h2 h3 h4 h5)

theorem handleIncomingPacket_completes_iff (hr : self.Reliable) {raw : Bytes}
    (hs : Run.Small (self.handleIncomingPacket py raw)) :
    (self.handleIncomingPacket py raw).Completes ↔ ¬ ∃ cmd payloadBytes,
      decodePacket raw = some (self.passcode.toNat, cmd, payloadBytes) ∧
        self.hass.Crashes py cmd (parsePayload py payloadBytes) := by
  unfold handleIncomingPacket at hs ⊢
  cases hraw : decodePacket raw with
  | none =>
    apply iff_of_true (Traced.completes_ok _ _)
    rintro ⟨_, _, h, -⟩
    cases h
  | some r =>
    obtain ⟨p, cmd, payloadBytes⟩ := r
    simp only [hraw] at hs ⊢
    by_cases hp : p = self.passcode.toNat
    · subst hp
      rw [if_neg (not_not.mpr rfl)] at hs ⊢
      rw [self.dispatch_completes py hr hs]
      simp
    · rw [if_pos hp] at hs ⊢
      apply iff_of_true ((self.sendPacket_small hr (by decide) hs).mpr (Hass.serialisable_error _))
      rintro ⟨_, _, h, -⟩
      exact hp (Prod.mk.inj (Option.some.inj h)).1

def arrayRequest : Bytes := [0xAA, 0xBB, 0, 0, 0, 1, 0x12, 0, 0, 2, 0x5B, 0x5D, 0xFF, 0xE1, 0xCC, 0xDD]

lemma decode_arrayRequest : decodePacket arrayRequest = some (1, cmdReqDevices, [0x5B, 0x5D]) := by decide +kernel

lemma parse_array : parsePayload .ascii [0x5B, 0x5D] = .list [] := by
  have hd : decodeUtf8 [0x5B, 0x5D] = some "[]" := by decide +kernel
  rw [parsePayload, if_neg (List.cons_ne_nil _ _), hd]
  rfl

lemma arrayRequest_run : ∃ packet e, handleIncomingPacket .ascii ⟨.empty, 1, fun _ => .ok ()⟩ arrayRequest =
    ⟨[.packet cmdAck .null, .raw packet], .error e⟩ := by
  obtain ⟨packet, he, -⟩ := sendPacket_ack ⟨.empty, 1, fun _ => .ok ()⟩ fun _ => rfl
  refine ⟨packet, ⟨.attributeError, "'list' object has no attribute 'get'"⟩, ?_⟩
  rw [handleIncomingPacket, decode_arrayRequest]
  change sendPacket _ cmdAck .null >>= (fun _ =>
    .lift ((parsePayload .ascii [0x5B, 0x5D]).get "area_id" .null) >>= handleReqDevices _) = _
  rw [he, parse_array]
  rfl

lemma arrayRequest_small : Run.Small (handleIncomingPacket .ascii ⟨.empty, 1, fun _ => .ok ()⟩ arrayRequest) := by
  obtain ⟨packet, e, he⟩ := arrayRequest_run
  rw [he]
  intro c v hm
  have hv : v = .null := by simp_all
  rw [hv]
  decide

theorem arrayRequest_completes_iff :
    (handleIncomingPacket .ascii ⟨.empty, 1, fun _ => .ok ()⟩ arrayRequest).Completes ↔
      ¬ ∃ cmd payloadBytes, decodePacket arrayRequest = some ((1 : UInt32).toNat, cmd, payloadBytes) ∧
        Hass.empty.Crashes .ascii cmd (parsePayload .ascii payloadBytes) :=
  handleIncomingPacket_completes_iff .ascii ⟨.empty, 1, fun _ => .ok ()⟩ (fun _ => rfl) arrayRequest_small

theorem arrayRequest_raises :
    Run.Small (handleIncomingPacket .ascii ⟨.empty, 1, fun _ => .ok ()⟩ arrayRequest) ∧
      ¬ (handleIncomingPacket .ascii ⟨.empty, 1, fun _ => .ok ()⟩ arrayRequest).Completes := by
  refine ⟨arrayRequest_small, ?_⟩
  obtain ⟨packet, e, he⟩ := arrayRequest_run
  rw [he]
  exact Traced.not_completes_error _ _

end PacketDispatcher

end HaBluetooth.Dispatcher
