import HaBluetooth.Dispatcher.Handlers

/-! The four queries of the protocol and the reply that the dispatcher composes for each. -/

namespace HaBluetooth.Dispatcher

open Python Protocol Support

inductive Query
  | areas
  | devices (areaId : Value)
  | dashboards
  | state (entityId : Value)

namespace Query

def cmd : Query → ℕ
  | .areas => cmdReqAreas
  | .devices _ => cmdReqDevices
  | .dashboards => cmdReqDashboards
  | .state _ => cmdReqState

def answerCmd : Query → ℕ
  | .areas => cmdAnsAreas
  | .devices _ => cmdAnsDevices
  | .dashboards => cmdAnsDashboards
  | .state _ => cmdAnsState

def Asks (payload : Value) : Query → Prop
  | .areas | .dashboards => True
  | .devices areaId => payload.get "area_id" .null = .ok areaId
  | .state entityId => payload.get "entity_id" (.str "") = .ok entityId

end Query

namespace Hass

variable (hass : Hass) (py : Library)

def reply : Query → ℕ × Value
  | .areas => (cmdAnsAreas, .list (hass.areas.items.map AreaEntry.toDict))
  | .devices areaId => (cmdAnsDevices, .list (hass.deviceDicts areaId))
  | .dashboards => (cmdAnsDashboards, .list ((hass.dashboards py).map Dashboard.toDict))
  | .state entityId =>
    match hass.statesGet py entityId with
    | none => (cmdNack, errorDict s!"entity '{py.str entityId}' not found")
    | some state =>
      if !hass.isExposed entityId then (cmdNack, errorDict s!"entity '{py.str entityId}' not exposed")
      else (cmdAnsState, state.toDict)

lemma reply_cmd (q : Query) : (hass.reply py q).1 = q.answerCmd ∨ (hass.reply py q).1 = cmdNack := by
  cases q with
  | areas | devices | dashboards => exact .inl rfl
  | state entityId =>
    simp only [reply, Query.answerCmd]
    split
    · exact .inr rfl
    · split
      · exact .inr rfl
      · exact .inl rfl

lemma reply_cmd_lt (q : Query) : (hass.reply py q).1 < 256 := by
  have hq : q.answerCmd < 256 := by
    cases q <;> simp [Query.answerCmd, cmdAnsAreas, cmdAnsDevices, cmdAnsDashboards, cmdAnsState]
  rcases hass.reply_cmd py q with h | h
  · exact h ▸ hq
  · rw [h]
    decide

def listedEntry (areaId : Value) (state : State) : Option EntityEntry :=
  (hass.entities.get? state.entityId).filter fun entry =>
    decide (hass.entityLabelIds entry ∩ hass.exposureLabelIds ≠ ∅) && !outsideArea areaId entry.areaId

def listedDict (state : State) (entry : EntityEntry) : Value :=
  state.deviceDict entry.areaId (hass.labelNames (hass.entityLabelIds entry))

lemma deviceOf_eq (areaId : Value) (state : State) :
    hass.deviceOf hass.exposureLabelIds areaId state = (hass.listedEntry areaId state).map (hass.listedDict state) := by
  rw [deviceOf, listedEntry]
  cases hass.entities.get? state.entityId with
  | none => rfl
  | some entry =>
    by_cases hx : hass.entityLabelIds entry ∩ hass.exposureLabelIds = ∅
    · simp [hx]
    · cases ha : outsideArea areaId entry.areaId <;> simp [hx, ha, listedDict]

lemma deviceDicts_eq (areaId : Value) :
    hass.deviceDicts areaId =
      hass.states.items.filterMap fun state => (hass.listedEntry areaId state).map (hass.listedDict state) := by
  have hd : hass.deviceDicts areaId = hass.states.items.filterMap (hass.deviceOf hass.exposureLabelIds areaId) := by
    by_cases hx : hass.exposureLabelIds = ∅
    · have hn : ∀ state ∈ hass.states.items, hass.deviceOf ∅ areaId state = none := by
        intro state _
        simp only [deviceOf, Finset.inter_empty, if_true]
        split <;> rfl
      simp only [deviceDicts, hx, if_true, List.filterMap_eq_nil_iff.mpr hn]
    · simp only [deviceDicts, if_neg hx]
  rw [hd]
  exact List.filterMap_congr fun state _ => hass.deviceOf_eq areaId state

/-! ### Attributes that JSON cannot hold -/

def SendsOpaque : Query → Prop
  | .areas | .dashboards => False
  | .devices areaId => ∃ state ∈ hass.states.items, (hass.listedEntry areaId state).isSome ∧
      (state.name.Serialisable → ∃ e ∈ state.slimAttrs, ¬ e.2.Serialisable)
  | .state entityId => ∃ state, hass.statesGet py entityId = some state ∧ hass.isExposed entityId = true ∧
      ∃ e ∈ state.attributes, ¬ e.2.Serialisable

lemma serialisable_areas : (Value.list (hass.areas.items.map AreaEntry.toDict)).Serialisable := by
  simp [serialisable_list, serialisable_dict, AreaEntry.toDict]

lemma serialisable_dashboard (d : Dashboard) : d.toDict.Serialisable := by
  simp [serialisable_list, serialisable_dict, Dashboard.toDict]

lemma serialisable_error (text : String) : (errorDict text).Serialisable := by
  simp [serialisable_dict, errorDict]

lemma serialisable_deviceDict (state : State) (areaId : Option String) (labels : List String) :
    (state.deviceDict areaId labels).Serialisable ↔
      state.name.Serialisable ∧ ∀ e ∈ state.slimAttrs, e.2.Serialisable := by
  simp [serialisable_list, serialisable_dict, State.deviceDict]

lemma serialisable_toDict (state : State) :
    state.toDict.Serialisable ↔ ∀ e ∈ state.attributes, e.2.Serialisable := by
  simp [serialisable_dict, State.toDict]

lemma serialisable_reply (q : Query) : (hass.reply py q).2.Serialisable ↔ ¬ hass.SendsOpaque py q := by
  cases q with
  | areas => exact iff_of_true hass.serialisable_areas id
  | dashboards => exact iff_of_true (by simp [reply, serialisable_list, serialisable_dashboard]) id
  | devices areaId =>
    simp only [reply, hass.deviceDicts_eq, serialisable_list, SendsOpaque, List.mem_filterMap, Option.map_eq_some_iff]
    constructor
    · rintro h ⟨state, hs, hl, hopaque⟩
      obtain ⟨entry, he⟩ := Option.isSome_iff_exists.mp hl
      obtain ⟨hn, ha⟩ := (serialisable_deviceDict _ _ _).mp (h _ ⟨state, hs, entry, he, rfl⟩)
      obtain ⟨e, hm, hne⟩ := hopaque hn
      exact hne (ha e hm)
    · rintro h _ ⟨state, hs, entry, he, rfl⟩
      by_contra hne
      refine h ⟨state, hs, by rw [he]; rfl, fun hn => ?_⟩
      by_contra hall
      refine hne ((serialisable_deviceDict _ _ _).mpr ⟨hn, fun e hm => ?_⟩)
      by_contra hh
      exact hall ⟨e, hm, hh⟩
  | state entityId =>
    simp only [reply, SendsOpaque]
    cases hs : hass.statesGet py entityId with
    | none => simp [serialisable_error]
    | some state =>
      cases hx : hass.isExposed entityId with
      | false => simp [serialisable_error]
      | true => simp [serialisable_toDict]

end Hass

namespace PacketDispatcher

variable (py : Library) (self : PacketDispatcher)

lemma handleReqState_eq (entityId : Value) :
    self.handleReqState py entityId =
      self.sendPacket (self.hass.reply py (.state entityId)).1 (self.hass.reply py (.state entityId)).2 := by
  simp only [handleReqState, Hass.reply]
  cases self.hass.statesGet py entityId with
  | none => rfl
  | some state => cases self.hass.isExposed entityId <;> rfl

lemma dispatch_query {payloadBytes : Bytes} {q : Query} (hq : q.Asks (parsePayload py payloadBytes)) :
    self.dispatch py q.cmd payloadBytes = self.sendPacket cmdAck .null >>= fun _ =>
      self.sendPacket (self.hass.reply py q).1 (self.hass.reply py q).2 := by
  cases q with
  | areas | dashboards => rfl
  | devices areaId =>
    change (self.sendPacket cmdAck .null >>= fun _ =>
      .lift ((parsePayload py payloadBytes).get "area_id" .null) >>= self.handleReqDevices) = _
    have hget : (parsePayload py payloadBytes).get "area_id" .null = .ok areaId := hq
    rw [hget]
    rfl
  | state entityId =>
    change (self.sendPacket cmdAck .null >>= fun _ =>
      .lift ((parsePayload py payloadBytes).get "entity_id" (.str "")) >>= self.handleReqState py) = _
    have hget : (parsePayload py payloadBytes).get "entity_id" (.str "") = .ok entityId := hq
    rw [hget, ← self.handleReqState_eq]
    rfl

end PacketDispatcher

end HaBluetooth.Dispatcher
