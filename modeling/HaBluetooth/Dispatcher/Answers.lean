import HaBluetooth.Dispatcher.Exposure
import Mathlib.Data.List.Sort
import Mathlib.Data.Multiset.Sort
import Mathlib.Data.String.Basic

/-! What the answers to the queries contain. -/

namespace HaBluetooth.Dispatcher

open Python Support

def AreaEntry.toDict (area : AreaEntry) : Value :=
  .dict [("id", .str area.id), ("name", .str area.name), ("icon", .ofOption area.icon)]

/-- The source keeps these in a frozenset; the order here is the one it lists them in. -/
def slimAttrKeys : List String :=
  ["device_class", "unit_of_measurement", "state_class", "supported_features",
    "brightness", "supported_color_modes", "color_mode",
    "min_color_temp_kelvin", "max_color_temp_kelvin", "color_temp_kelvin",
    "percentage", "percentage_step",
    "current_position",
    "hvac_modes", "min_temp", "max_temp", "current_temperature", "temperature",
    "target_temp_low", "target_temp_high", "target_temp_step",
    "hvac_action", "preset_mode", "preset_modes",
    "media_title", "volume_level",
    "min", "max", "step",
    "options",
    "humidity", "min_humidity", "max_humidity"]

namespace State

variable (state : State)

def name : Value := (state.attributes.lookup "friendly_name").getD (.str state.entityId)

def slimAttrs : List (String × Value) :=
  slimAttrKeys.filterMap fun key => (state.attributes.lookup key).map fun value => (key, value)

def toDict : Value :=
  .dict [("entity_id", .str state.entityId), ("state", .str state.state),
    ("attributes", .dict state.attributes), ("last_changed", .ofOption state.lastChanged)]

def deviceDict (areaId : Option String) (labels : List String) : Value :=
  .dict [("id", .str state.entityId), ("entity_id", .str state.entityId), ("name", state.name),
    ("domain", .str state.domain), ("area_id", .ofOption areaId), ("state", .str state.state),
    ("attrs", .dict state.slimAttrs), ("labels", .list (labels.map .str))]

end State

def dashLabelPrefix : String := "DASH_"

structure Dashboard where
  id : String
  urlPath : String
  title : String
  entityIds : List String

def Dashboard.toDict (d : Dashboard) : Value :=
  .dict [("id", .str d.id), ("url_path", .str d.urlPath), ("title", .str d.title),
    ("views", .list [.dict [("id", .str d.id), ("path", .str d.urlPath), ("title", .str d.title),
      ("entity_ids", .list (d.entityIds.map .str))]])]

def dashTitle (name : String) : String :=
  let title := String.ofList (name.toList.drop dashLabelPrefix.length)
  if title = "" then name else title

namespace Hass

variable (hass : Hass) (py : Library)

def labelNames (labelIds : Finset String) : List String :=
  (labelIds.val.filterMap fun id => (hass.labels.get? id).map LabelEntry.name).sort

def outsideArea (areaId : Value) (entityArea : Option String) : Bool :=
  match areaId with
  | .null => false
  | .str id => entityArea ≠ some id
  | _ => true

/-- One round of the loop over all states; `none` is `continue`. -/
def deviceOf (exposureIds : Finset String) (areaId : Value) (state : State) : Option Value :=
  match hass.entities.get? state.entityId with
  | none => none
  | some entry =>
    let labelIds := hass.entityLabelIds entry
    if labelIds ∩ exposureIds = ∅ then none
    else if outsideArea areaId entry.areaId then none
    else some (state.deviceDict entry.areaId (hass.labelNames labelIds))

def deviceDicts (areaId : Value) : List Value :=
  let exposureIds := hass.exposureLabelIds
  if exposureIds = ∅ then [] else hass.states.items.filterMap (hass.deviceOf exposureIds areaId)

def dashLabels : List LabelEntry :=
  hass.labels.items.filter fun label => dashLabelPrefix.toList.isPrefixOf label.name.toList

def fillBuckets (exposureIds dashLabelIds : Finset String) (buckets : String → List String)
    (entry : EntityEntry) : String → List String :=
  let labels := hass.entityLabelIds entry
  if exposureIds ≠ ∅ ∧ labels ∩ exposureIds = ∅ then buckets
  else fun id => if id ∈ labels ∩ dashLabelIds then buckets id ++ [entry.entityId] else buckets id

def buckets : String → List String :=
  hass.entities.items.foldl
    (hass.fillBuckets hass.exposureLabelIds (hass.dashLabels.map LabelEntry.labelId).toFinset) fun _ => []

def dashboardOf (entityIds : List String) (label : LabelEntry) : Dashboard :=
  let title := dashTitle label.name
  { id := label.labelId, urlPath := py.lower title, title := title, entityIds := entityIds.insertionSort (· ≤ ·) }

def dashboards : List Dashboard :=
  if hass.dashLabels = [] then []
  else
    let buckets := hass.buckets
    (hass.dashLabels.map fun label => dashboardOf py (buckets label.labelId) label).insertionSort
      fun d e => py.lower d.title ≤ py.lower e.title

/-! ### The buckets -/

def Carries (entry : EntityEntry) (id : String) : Prop :=
  id ∈ hass.entityLabelIds entry ∧
    (hass.exposureLabelIds ≠ ∅ → hass.entityLabelIds entry ∩ hass.exposureLabelIds ≠ ∅)

instance (entry : EntityEntry) (id : String) : Decidable (hass.Carries entry id) :=
  inferInstanceAs (Decidable (_ ∧ (_ → _)))

def carriers (id : String) : List EntityEntry := hass.entities.items.filter fun entry => hass.Carries entry id

lemma fillBuckets_apply (dashLabelIds : Finset String) (b : String → List String) (entry : EntityEntry)
    {id : String} (h : id ∈ dashLabelIds) :
    hass.fillBuckets hass.exposureLabelIds dashLabelIds b entry id =
      if hass.Carries entry id then b id ++ [entry.entityId] else b id := by
  by_cases hx : hass.exposureLabelIds ≠ ∅ ∧ hass.entityLabelIds entry ∩ hass.exposureLabelIds = ∅
  · have hc : ¬ hass.Carries entry id := fun hc => hc.2 hx.1 hx.2
    simp only [fillBuckets, if_pos hx, if_neg hc]
  · have hc : hass.Carries entry id ↔ id ∈ hass.entityLabelIds entry ∩ dashLabelIds := by
      simp only [Carries, Finset.mem_inter, h, and_true, and_iff_left_iff_imp]
      exact fun _ he hn => hx ⟨he, hn⟩
    simp only [fillBuckets, if_neg hx, hc]

lemma foldl_fillBuckets (dashLabelIds : Finset String) (entries : List EntityEntry) (b : String → List String)
    {id : String} (h : id ∈ dashLabelIds) :
    entries.foldl (hass.fillBuckets hass.exposureLabelIds dashLabelIds) b id =
      b id ++ (entries.filter fun entry => hass.Carries entry id).map EntityEntry.entityId := by
  induction entries generalizing b with
  | nil => simp
  | cons entry entries ih =>
    rw [List.foldl_cons, ih, hass.fillBuckets_apply dashLabelIds b entry h, List.filter_cons]
    by_cases hc : hass.Carries entry id
    · simp [hc]
    · simp [hc]

lemma buckets_eq {label : LabelEntry} (h : label ∈ hass.dashLabels) :
    hass.buckets label.labelId = (hass.carriers label.labelId).map EntityEntry.entityId := by
  have hm : label.labelId ∈ (hass.dashLabels.map LabelEntry.labelId).toFinset :=
    List.mem_toFinset.mpr (List.mem_map_of_mem h)
  exact hass.foldl_fillBuckets _ _ _ hm

def labelDashboards : List Dashboard :=
  hass.dashLabels.map fun label =>
    dashboardOf py ((hass.carriers label.labelId).map EntityEntry.entityId) label

lemma dashboards_perm : (hass.dashboards py).Perm (hass.labelDashboards py) := by
  rw [dashboards, labelDashboards]
  by_cases hd : hass.dashLabels = []
  · rw [if_pos hd, hd]
    rfl
  · rw [if_neg hd]
    refine (List.perm_insertionSort _ _).trans (List.Perm.of_eq (List.map_congr_left fun label hl => ?_))
    rw [hass.buckets_eq hl]

end Hass

end HaBluetooth.Dispatcher
