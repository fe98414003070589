import HaBluetooth.Dispatcher.Queries

/-! Which queries are answered: the ones whose reply fits the packet's length field. -/

namespace HaBluetooth.Dispatcher

open Python Protocol Support

namespace Hass

variable (hass : Hass) (py : Library)

/-- The length of the reply's JSON text, from the sizes of what is listed in it. -/
def replySize : Query → ℕ
  | .areas => 2 + separatedSize (hass.areas.items.map fun area => jsonSize area.toDict)
  | .devices areaId => 2 + separatedSize (hass.states.items.filterMap fun state =>
      (hass.listedEntry areaId state).map fun entry => jsonSize (hass.listedDict state entry))
  | .dashboards => 2 + separatedSize ((hass.labelDashboards py).map fun d => jsonSize d.toDict)
  | .state entityId =>
    match hass.statesGet py entityId with
    | none => jsonSize (errorDict s!"entity '{py.str entityId}' not found")
    | some state =>
      if hass.isExposed entityId then jsonSize state.toDict
      else jsonSize (errorDict s!"entity '{py.str entityId}' not exposed")

lemma separatedSize_perm {s t : List ℕ} (h : s.Perm t) : separatedSize s = separatedSize t := by
  rw [separatedSize, separatedSize, h.sum_eq, h.length_eq]

lemma jsonSize_list (items : List Value) : jsonSize (.list items) = 2 + separatedSize (items.map jsonSize) := by
  rw [jsonSize, itemSizes_map]

lemma jsonSize_reply (q : Query) : jsonSize (hass.reply py q).2 = hass.replySize py q := by
  cases q with
  | areas =>
    rw [reply, jsonSize_list, List.map_map]
    rfl
  | devices areaId =>
    rw [reply, jsonSize_list, hass.deviceDicts_eq, List.map_filterMap]
    simp only [Option.map_map]
    rfl
  | dashboards =>
    rw [reply, jsonSize_list, List.map_map, separatedSize_perm ((hass.dashboards_perm py).map _)]
    rfl
  | state entityId =>
    simp only [reply, replySize]
    cases hass.statesGet py entityId with
    | none => rfl
    | some state => cases hass.isExposed entityId <;> rfl

def JsonAttributes : Prop := ∀ state ∈ hass.states.items, ∀ e ∈ state.attributes, e.2.Serialisable

lemma lookup_serialisable {attributes : List (String × Value)} (h : ∀ e ∈ attributes, e.2.Serialisable)
    {key : String} {v : Value} (hv : attributes.lookup key = some v) : v.Serialisable := by
  induction attributes with
  | nil => cases hv
  | cons e attributes ih =>
    obtain ⟨he, hrest⟩ := List.forall_mem_cons.mp h
    rw [List.lookup_cons] at hv
    split at hv
    · exact Option.some.inj hv ▸ he
    · exact ih hrest hv

lemma not_sendsOpaque (h : hass.JsonAttributes) (q : Query) : ¬ hass.SendsOpaque py q := by
  cases q with
  | areas | dashboards => exact id
  | devices areaId =>
    rintro ⟨state, hs, -, hopaque⟩
    have hn : state.name.Serialisable := by
      rw [State.name]
      cases hl : state.attributes.lookup "friendly_name" with
      | none => exact serialisable_str _
      | some v => exact lookup_serialisable (h state hs) hl
    obtain ⟨e, he, hne⟩ := hopaque hn
    obtain ⟨key, -, hk⟩ := List.mem_filterMap.mp he
    obtain ⟨v, hv, rfl⟩ := Option.map_eq_some_iff.mp hk
    exact hne (lookup_serialisable (h state hs) hv)
  | state entityId =>
    rintro ⟨state, hs, -, e, he, hne⟩
    refine hne (h state ?_ e he)
    cases entityId with
    | str entityId =>
      rcases Option.or_eq_some_iff.mp hs with hh | ⟨-, hh⟩
      · exact (hass.states.get?_eq_some.mp hh).1
      · exact (hass.states.get?_eq_some.mp hh).1
    | _ => cases hs

end Hass

namespace PacketDispatcher

variable (py : Library) (self : PacketDispatcher) {raw payloadBytes : Bytes} {q : Query}

def Answered (raw : Bytes) (q : Query) : Prop :=
  (self.handleIncomingPacket py raw).Completes ∧
    ∃ ack reply c payload, (self.handleIncomingPacket py raw).sent = [ack, reply] ∧
      decodePacket ack = some (self.passcode.toNat, cmdAck, []) ∧
      decodePacket reply = some (self.passcode.toNat, c, payload) ∧ (c = q.answerCmd ∨ c = cmdNack)

lemma handle_query (hraw : decodePacket raw = some (self.passcode.toNat, q.cmd, payloadBytes))
    (hq : q.Asks (parsePayload py payloadBytes)) :
    self.handleIncomingPacket py raw = self.sendPacket cmdAck .null >>= fun _ =>
      self.sendPacket (self.hass.reply py q).1 (self.hass.reply py q).2 := by
  rw [handleIncomingPacket, hraw, ← self.dispatch_query py hq]
  exact if_neg (not_not.mpr rfl)

lemma unanswered (hr : self.Reliable)
    (hraw : decodePacket raw = some (self.passcode.toNat, q.cmd, payloadBytes))
    (hq : q.Asks (parsePayload py payloadBytes)) (hs : 65535 < self.hass.replySize py q) :
    ¬ self.Answered py raw q := by
  rintro ⟨ha, -⟩
  obtain ⟨ack, hack, -⟩ := self.sendPacket_ack hr
  rw [← self.hass.jsonSize_reply] at hs
  obtain ⟨e, he⟩ := self.sendPacket_error (c := (self.hass.reply py q).1) fun _ => hs
  rw [self.handle_query py hraw hq, Traced.bind_ok (a := ()) _ (by rw [hack]), he] at ha
  exact Traced.not_completes_error _ _ ha

lemma answered (hr : self.Reliable) (hj : self.hass.JsonAttributes)
    (hraw : decodePacket raw = some (self.passcode.toNat, q.cmd, payloadBytes))
    (hq : q.Asks (parsePayload py payloadBytes)) (hs : self.hass.replySize py q ≤ 65535) :
    self.Answered py raw q := by
  have hser := (self.hass.serialisable_reply py q).mpr (self.hass.not_sendsOpaque py hj q)
  rw [← self.hass.jsonSize_reply] at hs
  obtain ⟨ack, hack, hda⟩ := self.sendPacket_ack hr
  obtain ⟨reply, payload, hreply, -, hdr⟩ := self.sendPacket_ok hr (self.hass.reply_cmd_lt py q) hser hs
  have hrun : self.handleIncomingPacket py raw =
      ⟨[.packet cmdAck .null, .raw ack, .packet (self.hass.reply py q).1 (self.hass.reply py q).2, .raw reply],
        .ok ()⟩ := by
    rw [self.handle_query py hraw hq, Traced.bind_ok (a := ()) _ (by rw [hack]), hack, hreply]
    rfl
  rw [Answered, hrun]
  exact ⟨Traced.completes_ok _ _, ack, reply, _, payload, rfl, hda, hdr, self.hass.reply_cmd py q⟩

def askAreas : Bytes := [0xAA, 0xBB, 0, 0, 0, 1, 0x10, 0, 0, 0, 0x80, 0xC8, 0xCC, 0xDD]

lemma decode_askAreas : decodePacket askAreas = some (1, cmdReqAreas, []) := by decide +kernel

def askDevices : Bytes := [0xAA, 0xBB, 0, 0, 0, 1, 0x12, 0, 0, 0, 0x6D, 0xA0, 0xCC, 0xDD]

/-- A lamp with attributes, exposed by its own label. -/
def litRoom : Hass :=
  { Hass.empty with
    labels := ⟨[⟨"btdash", "BTDASH"⟩], List.nodup_singleton _⟩
    entities := ⟨[⟨"light.lamp", some "attic", none, {"btdash"}⟩], List.nodup_singleton _⟩
    states := ⟨[⟨"light.lamp", "light", "on", [("friendly_name", .str "Lamp"), ("brightness", .int 128)], none⟩],
      List.nodup_singleton _⟩ }

lemma litRoom_attributes : litRoom.JsonAttributes := by
  intro state hs e he
  obtain rfl := List.mem_singleton.mp hs
  rcases List.mem_cons.mp he with rfl | he
  · exact rfl
  · obtain rfl := List.mem_singleton.mp he
    exact rfl

def longName (n : ℕ) : Hass :=
  { Hass.empty with areas := ⟨[⟨"attic", String.ofList (List.replicate n 'a'), none⟩], List.nodup_singleton _⟩ }

lemma stringSize_name_le (area : AreaEntry) : stringSize area.name ≤ jsonSize area.toDict := by
  simp only [AreaEntry.toDict, jsonSize, entrySizes, entrySize, separatedSize, List.sum_cons]
  omega

lemma longName_size (n : ℕ) : n ≤ (longName n).replySize .ascii .areas := by
  have hl := length_le_stringSize (String.ofList (List.replicate n 'a'))
  rw [String.toList_ofList, List.length_replicate] at hl
  have ha := hl.trans (stringSize_name_le ⟨"attic", String.ofList (List.replicate n 'a'), none⟩)
  simp only [Hass.replySize, longName, List.map_cons, List.map_nil, separatedSize, List.sum_cons, List.sum_nil]
  omega

lemma longName_attributes (n : ℕ) : (longName n).JsonAttributes :=
  fun _ hs => absurd hs List.not_mem_nil

end PacketDispatcher

end HaBluetooth.Dispatcher
