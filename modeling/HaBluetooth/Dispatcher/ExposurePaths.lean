import HaBluetooth.Dispatcher.Dashboards
import HaBluetooth.Dispatcher.Queries
import HaBluetooth.Dispatcher.Subscription
import Mathlib.Data.List.TFAE

/-! The list of devices, the request for one state and the push of a change expose the same entities. -/

namespace HaBluetooth.Dispatcher

open Python Protocol Support

def deviceId (device : Value) : Option String :=
  match field device "id" with
  | .str id => some id
  | _ => none

def deviceIds (answer : Value) : List String := (elements answer).filterMap deviceId

namespace Hass

variable (hass : Hass) {e : String} {state : State}

def Exposes (e : String) : Prop :=
  ∃ entry ∈ hass.entities.items, entry.entityId = e ∧
    ∃ name ∈ [labelBtdash, labelBtdashaa], ∃ label, hass.labelByName name = some label ∧
      (label.labelId ∈ entry.labels ∨ ∃ device ∈ hass.devices.items,
        entry.deviceId = some device.id ∧ device.id ≠ "" ∧ label.labelId ∈ device.labels)

lemma mem_exposureLabelIds {id : String} :
    id ∈ hass.exposureLabelIds ↔
      ∃ name ∈ [labelBtdash, labelBtdashaa], ∃ label, hass.labelByName name = some label ∧ label.labelId = id := by
  simp only [exposureLabelIds, List.mem_toFinset, List.mem_filterMap, Option.map_eq_some_iff]

lemma mem_entityLabelIds {entry : EntityEntry} {id : String} :
    id ∈ hass.entityLabelIds entry ↔ id ∈ entry.labels ∨
      ∃ device ∈ hass.devices.items, entry.deviceId = some device.id ∧ device.id ≠ "" ∧ id ∈ device.labels := by
  rw [entityLabelIds]
  cases hd : (entry.deviceId.filter (· ≠ "")).bind hass.devices.get? with
  | none =>
    refine (or_iff_left ?_).symm
    rintro ⟨device, hm, hid, hne, -⟩
    rw [hid] at hd
    simp [hne, hass.devices.get?_key hm] at hd
  | some device =>
    obtain ⟨deviceId, hid, hget⟩ := Option.bind_eq_some_iff.mp hd
    obtain ⟨hid, hne⟩ := Option.filter_eq_some_iff.mp hid
    obtain ⟨hm, rfl⟩ := hass.devices.get?_eq_some.mp hget
    rw [Finset.mem_union]
    refine or_congr_right ⟨fun h => ⟨device, hm, hid, by simpa using hne, h⟩, ?_⟩
    rintro ⟨device', hm', hid', -, h⟩
    have hsame : device.id = device'.id := Option.some.inj (hid.symm.trans hid')
    rwa [hass.devices.eq_of_key hm hm' hsame]

lemma isExposed_iff_exposes : hass.isExposed (.str e) = true ↔ hass.Exposes e := by
  rw [isExposed_iff]
  simp only [Exposes, entityEntry, hass.entities.get?_eq_some, ← Finset.nonempty_iff_ne_empty, Finset.Nonempty,
    Finset.mem_inter, mem_exposureLabelIds, mem_entityLabelIds]
  constructor
  · rintro ⟨entry, ⟨hm, he⟩, id, hid, name, hname, label, hlabel, rfl⟩
    exact ⟨entry, hm, he, name, hname, label, hlabel, hid⟩
  · rintro ⟨entry, hm, he, name, hname, label, hlabel, hid⟩
    exact ⟨entry, ⟨hm, he⟩, label.labelId, hid, name, hname, label, hlabel, rfl⟩

/-! ### The list of devices -/

lemma listedEntry_isSome : (hass.listedEntry .null state).isSome = hass.isExposed (.str state.entityId) := by
  rw [Bool.eq_iff_iff, isExposed_iff, listedEntry, entityEntry]
  cases hass.entities.get? state.entityId <;> simp [Option.filter, outsideArea]

lemma deviceId_listed (areaId : Value) : ((hass.listedEntry areaId state).map (hass.listedDict state)).bind deviceId =
    if (hass.listedEntry areaId state).isSome then some state.entityId else none := by
  cases hass.listedEntry areaId state <;> rfl

lemma deviceIds_eq : deviceIds (.list (hass.deviceDicts .null)) =
    (hass.states.items.filter fun state => hass.isExposed (.str state.entityId)).map State.entityId := by
  rw [deviceIds, elements, deviceDicts_eq, List.filterMap_filterMap]
  simp only [deviceId_listed, listedEntry_isSome]
  induction hass.states.items with
  | nil => rfl
  | cons state states ih => cases h : hass.isExposed (.str state.entityId) <;> simp [h, ih]

lemma deviceIds_nodup : (deviceIds (.list (hass.deviceDicts .null))).Nodup := by
  rw [deviceIds_eq]
  exact hass.states.nodup.sublist (List.filter_sublist.map _)

variable {hass}

lemma mem_deviceIds (hs : hass.states.get? e = some state) :
    e ∈ deviceIds (.list (hass.deviceDicts .null)) ↔ hass.isExposed (.str e) = true := by
  obtain ⟨hm, rfl⟩ := hass.states.get?_eq_some.mp hs
  simp only [deviceIds_eq, List.mem_map, List.mem_filter]
  constructor
  · rintro ⟨other, ⟨-, hx⟩, he⟩
    rwa [he] at hx
  · exact fun hx => ⟨state, ⟨hm, hx⟩, rfl⟩

lemma reply_state (py : Library) (hs : hass.states.get? e = some state) :
    (hass.reply py (.state (.str e))).1 = cmdAnsState ↔ hass.isExposed (.str e) = true := by
  have hget : hass.statesGet py (.str e) = some state := by rw [statesGet, hs, Option.some_or]
  simp only [reply, hget]
  cases hass.isExposed (.str e) <;> simp [cmdAnsState, cmdNack]

lemma stateChanged_ne_nil {link : ClientLink} (hl : 0 < link.listeners) :
    link.stateChanged hass (some state) ≠ [] ↔ hass.isExposed (.str state.entityId) = true := by
  cases hx : hass.isExposed (.str state.entityId) with
  | false => simp [link.stateChanged_silent (onStateChanged_hidden hx)]
  | true =>
    rw [link.stateChanged_loud (onStateChanged_exposed hx)]
    simp [hl.ne']

end Hass

namespace PacketDispatcher

variable (py : Library) (self : PacketDispatcher) {e : String} {state : State}

lemma mem_reqDevices {c : ℕ} {v : Value} :
    Effect.packet c v ∈ (self.handleReqDevices .null).events ↔
      c = cmdAnsDevices ∧ v = .list (self.hass.deviceDicts .null) :=
  self.mem_sendPacket

lemma answers_state (hs : self.hass.states.get? e = some state) :
    ((∃ answer, Effect.packet cmdAnsState answer ∈ (self.handleReqState py (.str e)).events) ∧
      ∀ error, Effect.packet cmdNack error ∉ (self.handleReqState py (.str e)).events) ↔
    self.hass.isExposed (.str e) = true := by
  simp only [handleReqState_eq, mem_sendPacket, ← Hass.reply_state py hs]
  constructor
  · rintro ⟨⟨answer, h, -⟩, -⟩
    exact h.symm
  · intro h
    refine ⟨⟨_, h.symm, rfl⟩, fun error hn => ?_⟩
    rw [h] at hn
    simp [cmdNack, cmdAnsState] at hn

theorem exposure_paths_agree (hs : self.hass.states.get? e = some state) {link : ClientLink} (hl : 0 < link.listeners)
    {newState : State} (hn : newState.entityId = e) :
    List.TFAE [
      ∃ answer, Effect.packet cmdAnsDevices answer ∈ (self.handleReqDevices .null).events ∧ e ∈ deviceIds answer,
      (∃ answer, Effect.packet cmdAnsState answer ∈ (self.handleReqState py (.str e)).events) ∧
        ∀ error, Effect.packet cmdNack error ∉ (self.handleReqState py (.str e)).events,
      link.stateChanged self.hass (some newState) ≠ [],
      self.hass.Exposes e] ∧
    ∀ answer, Effect.packet cmdAnsDevices answer ∈ (self.handleReqDevices .null).events → e ∈ deviceIds answer →
      (deviceIds answer).count e = 1 := by
  constructor
  · tfae_have 1 ↔ 4 := by
      simp only [mem_reqDevices, true_and, exists_eq_left]
      rw [Hass.mem_deviceIds hs, Hass.isExposed_iff_exposes]
    tfae_have 2 ↔ 4 := by
      rw [self.answers_state py hs, Hass.isExposed_iff_exposes]
    tfae_have 3 ↔ 4 := by
      rw [Hass.stateChanged_ne_nil hl, hn, Hass.isExposed_iff_exposes]
    tfae_finish
  · intro answer ha he
    obtain ⟨-, rfl⟩ := self.mem_reqDevices.mp ha
    exact List.count_eq_one_of_mem self.hass.deviceIds_nodup he

def labelledLamp : Hass :=
  { Hass.empty with
    labels := ⟨[⟨"btdash", "BTDASH"⟩], by decide⟩
    devices := ⟨[⟨"d1", {"btdash"}⟩], by decide⟩
    entities := ⟨[⟨"light.lamp", none, some "d1", ∅⟩], by decide⟩
    states := ⟨[⟨"light.lamp", "light", "on", [], none⟩], by decide⟩ }

theorem exposure_paths_agree_lamp :
    List.TFAE [
      ∃ answer, Effect.packet cmdAnsDevices answer ∈
        (handleReqDevices ⟨labelledLamp, 1, fun _ => .ok ()⟩ .null).events ∧ "light.lamp" ∈ deviceIds answer,
      (∃ answer, Effect.packet cmdAnsState answer ∈
        (handleReqState .ascii ⟨labelledLamp, 1, fun _ => .ok ()⟩ (.str "light.lamp")).events) ∧
        ∀ error, Effect.packet cmdNack error ∉
          (handleReqState .ascii ⟨labelledLamp, 1, fun _ => .ok ()⟩ (.str "light.lamp")).events,
      ClientLink.init.onBleClientConnected.stateChanged labelledLamp
        (some ⟨"light.lamp", "light", "off", [], none⟩) ≠ [],
      labelledLamp.Exposes "light.lamp"] ∧
    ∀ answer, Effect.packet cmdAnsDevices answer ∈
        (handleReqDevices ⟨labelledLamp, 1, fun _ => .ok ()⟩ .null).events → "light.lamp" ∈ deviceIds answer →
      (deviceIds answer).count "light.lamp" = 1 := by
  have hs : labelledLamp.states.get? "light.lamp" = some ⟨"light.lamp", "light", "on", [], none⟩ := by
    apply (Support.Registry.get?_eq_some _).mpr
    exact ⟨List.mem_cons_self, rfl⟩
  exact exposure_paths_agree .ascii ⟨labelledLamp, 1, fun _ => .ok ()⟩ hs Nat.zero_lt_one rfl

end PacketDispatcher

end HaBluetooth.Dispatcher
