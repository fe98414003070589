import HaBluetooth.Dispatcher.HomeAssistant

/-! Which entities the user has exposed: the labels BTDASH and BTDASHAA on an entity or its device. -/

namespace HaBluetooth.Dispatcher

open Python Support

def labelBtdash : String := "BTDASH"
def labelBtdashaa : String := "BTDASHAA"

namespace Hass

variable (hass : Hass)

def exposureLabelIds : Finset String :=
  ([labelBtdash, labelBtdashaa].filterMap fun name => (hass.labelByName name).map LabelEntry.labelId).toFinset

def entityLabelIds (entry : EntityEntry) : Finset String :=
  match (entry.deviceId.filter (· ≠ "")).bind hass.devices.get? with
  | some device => entry.labels ∪ device.labels
  | none => entry.labels

def isExposed (entityId : Value) : Bool :=
  match hass.entityEntry entityId with
  | none => false
  | some entry =>
    let labelIds := hass.entityLabelIds entry
    if labelIds = ∅ then false else decide (labelIds ∩ hass.exposureLabelIds ≠ ∅)

lemma isExposed_iff {entityId : Value} :
    hass.isExposed entityId = true ↔ ∃ entry, hass.entityEntry entityId = some entry ∧
      hass.entityLabelIds entry ∩ hass.exposureLabelIds ≠ ∅ := by
  rw [isExposed]
  cases hass.entityEntry entityId with
  | none => simp
  | some entry =>
    by_cases he : hass.entityLabelIds entry = ∅
    · simp [he]
    · simp [he]

lemma isExposed_entry {entry : EntityEntry} (h : entry ∈ hass.entities.items) :
    hass.isExposed (.str entry.entityId) = true ↔ hass.entityLabelIds entry ∩ hass.exposureLabelIds ≠ ∅ := by
  have he : hass.entityEntry (.str entry.entityId) = some entry := hass.entities.get?_key h
  rw [isExposed_iff, he]
  simp

end Hass

end HaBluetooth.Dispatcher
