import HaBluetooth.Dispatcher.Dashboards
import HaBluetooth.Support.Refinement

/-! The exposure labels that every setup makes sure of: as long as the user leaves them alone, they are there and the
dashboards list exposed entities only. -/

namespace HaBluetooth.Integration

open Python Support Dispatcher

section

variable (newId : Registry LabelEntry.labelId → String → String)

def createLabel (hass : Hass) (name : String) : Hass :=
  { hass with labels := hass.labels.insert ⟨newId hass.labels name, name⟩ }

def ensureLabel (hass : Hass) (name : String) : Hass :=
  match hass.labelByName name with
  | none => createLabel newId hass name
  | some _ => hass

def exposureLabels : List String := [labelBtdash, labelBtdashaa]

def ensureBtdashLabels (hass : Hass) : Hass := exposureLabels.foldl (ensureLabel newId) hass

inductive HomeChange
  | setup
  | createLabel (name : String)
  | renameLabel (labelId name : String)
  | deleteLabel (labelId : String)
  | other (hass : Hass)

def HomeChange.apply (hass : Hass) : HomeChange → Hass
  | .setup => ensureBtdashLabels newId hass
  | .createLabel name => Integration.createLabel newId hass name
  | .renameLabel labelId name => { hass with labels := hass.labels.insert ⟨labelId, name⟩ }
  | .deleteLabel labelId => { hass with labels := hass.labels.erase labelId }
  | .other hass' => { hass' with labels := hass.labels, normalizeName := hass.normalizeName }

end

/-- The labels that the exposure filter goes by are neither renamed nor deleted. -/
def Sparing (hass : Hass) : HomeChange → Prop
  | .setup | .createLabel _ | .other _ => True
  | .renameLabel labelId _ | .deleteLabel labelId => labelId ∉ hass.exposureLabelIds

structure Labelled (hass : Hass) : Prop where
  found : ∀ name ∈ exposureLabels, (hass.labelByName name).isSome

variable {newId : Registry LabelEntry.labelId → String → String} {hass : Hass}

lemma labelByName_isSome {name : String} : (hass.labelByName name).isSome ↔
    ∃ label ∈ hass.labels.items, hass.normalizeName label.name = hass.normalizeName name := by
  rw [Hass.labelByName, List.find?_isSome]
  simp

lemma exposureLabelIds_of_found {name : String} (hname : name ∈ exposureLabels) {label : LabelEntry}
    (h : hass.labelByName name = some label) : label.labelId ∈ hass.exposureLabelIds := by
  rw [Hass.exposureLabelIds, List.mem_toFinset, List.mem_filterMap]
  exact ⟨name, hname, by rw [h]; rfl⟩

lemma Labelled.exposes (h : Labelled hass) : hass.exposureLabelIds ≠ ∅ := by
  obtain ⟨label, hlabel⟩ := Option.isSome_iff_exists.mp (h.found labelBtdash List.mem_cons_self)
  exact Finset.ne_empty_of_mem (exposureLabelIds_of_found List.mem_cons_self hlabel)

lemma Labelled.kept (h : Labelled hass) {labels : Registry LabelEntry.labelId}
    (hkept : ∀ label ∈ hass.labels.items, label.labelId ∈ hass.exposureLabelIds → label ∈ labels.items) :
    Labelled { hass with labels } := by
  refine ⟨fun name hname => ?_⟩
  obtain ⟨label, hlabel⟩ := Option.isSome_iff_exists.mp (h.found name hname)
  have hmem := List.mem_of_find?_eq_some hlabel
  have hnorm : hass.normalizeName label.name = hass.normalizeName name := by
    simpa using List.find?_some hlabel
  exact labelByName_isSome.mpr ⟨label, hkept label hmem (exposureLabelIds_of_found hname hlabel), hnorm⟩

section

variable (hfresh : ∀ labels name, newId labels name ∉ labels.items.map LabelEntry.labelId)

include hfresh

lemma mem_createLabel {name : String} {label : LabelEntry} : label ∈ (createLabel newId hass name).labels.items ↔
    label ∈ hass.labels.items ∨ label = ⟨newId hass.labels name, name⟩ := by
  rw [createLabel]
  dsimp only
  rw [Registry.insert, dif_neg (hfresh hass.labels name), List.mem_append, List.mem_singleton]

lemma ensureLabel_found (name : String) : ((ensureLabel newId hass name).labelByName name).isSome := by
  rw [ensureLabel]
  cases h : hass.labelByName name with
  | some label =>
    dsimp only
    rw [h]
    rfl
  | none => exact labelByName_isSome.mpr ⟨_, (mem_createLabel hfresh).mpr (.inr rfl), rfl⟩

lemma ensureLabel_keeps (name : String) {other : String} (h : (hass.labelByName other).isSome) :
    ((ensureLabel newId hass name).labelByName other).isSome := by
  rw [ensureLabel]
  cases hass.labelByName name with
  | some label => exact h
  | none =>
    obtain ⟨label, hlabel, hnorm⟩ := labelByName_isSome.mp h
    exact labelByName_isSome.mpr ⟨label, (mem_createLabel hfresh).mpr (.inl hlabel), hnorm⟩

lemma ensureBtdashLabels_labelled : Labelled (ensureBtdashLabels newId hass) := by
  refine ⟨fun name hname => ?_⟩
  rcases List.mem_cons.mp hname with rfl | hname
  · exact ensureLabel_keeps hfresh _ (ensureLabel_found hfresh _)
  · obtain rfl := List.mem_singleton.mp hname
    exact ensureLabel_found hfresh _

omit hfresh in
lemma Labelled.ensured (h : Labelled hass) : ensureBtdashLabels newId hass = hass := by
  have hone : ∀ name ∈ exposureLabels, ensureLabel newId hass name = hass := by
    intro name hname
    obtain ⟨label, hlabel⟩ := Option.isSome_iff_exists.mp (h.found name hname)
    rw [ensureLabel, hlabel]
  rw [ensureBtdashLabels, exposureLabels, List.foldl_cons, List.foldl_cons, List.foldl_nil,
    hone labelBtdash List.mem_cons_self, hone labelBtdashaa (List.mem_cons_of_mem _ List.mem_cons_self)]

lemma apply_labelled (hass : Hass) (change : HomeChange) (h : Labelled hass) (hs : Sparing hass change) :
    Labelled (change.apply newId hass) := by
  cases change with
  | setup =>
    rw [HomeChange.apply, h.ensured]
    exact h
  | createLabel name => exact h.kept fun label hl _ => (mem_createLabel hfresh).mpr (.inl hl)
  | renameLabel labelId name =>
    refine h.kept fun label hl hid => hass.labels.mem_insert.mpr (.inr ⟨hl, ?_⟩)
    rintro rfl
    exact hs hid
  | deleteLabel labelId =>
    refine h.kept fun label hl hid => List.mem_filter.mpr ⟨hl, decide_eq_true ?_⟩
    rintro rfl
    exact hs hid
  | other hass' => exact ⟨h.found⟩

theorem labels_ensured (py : Library) {changes : List HomeChange}
    (hi : Admits (HomeChange.apply newId) Sparing (ensureBtdashLabels newId hass) changes) :
    let home := changes.foldl (HomeChange.apply newId) (ensureBtdashLabels newId hass)
    (∀ name ∈ exposureLabels, (home.labelByName name).isSome) ∧ ensureBtdashLabels newId home = home ∧
      home.ListsExposed (.list ((home.dashboards py).map Dashboard.toDict)) := by
  intro home
  have h : Labelled home := hi.invariant Labelled (apply_labelled hfresh) (ensureBtdashLabels_labelled hfresh)
  exact ⟨h.found, h.ensured, (home.listsExposed_iff py).mpr (.inl h.exposes)⟩

end

/-- The name in small letters, made longer than every label's when it is taken. -/
def slugId (labels : Registry LabelEntry.labelId) (name : String) : String :=
  let ids := labels.items.map LabelEntry.labelId
  let slug := String.ofList (name.toList.map Char.toLower)
  if slug ∈ ids then String.ofList (List.replicate ((ids.map String.length).sum + 1) '_') else slug

lemma slugId_fresh (labels : Registry LabelEntry.labelId) (name : String) :
    slugId labels name ∉ labels.items.map LabelEntry.labelId := by
  unfold slugId
  extract_lets ids slug
  split
  · intro h
    have hle : _ ≤ (ids.map String.length).sum := List.le_sum_of_mem (List.mem_map_of_mem h)
    rw [String.length_ofList, List.length_replicate] at hle
    omega
  · assumption

theorem labels_ensured_reloaded :
    let changes := [HomeChange.setup, .createLabel "Kitchen", .deleteLabel "kitchen", .setup]
    let home := changes.foldl (HomeChange.apply slugId) (ensureBtdashLabels slugId .empty)
    (∀ name ∈ exposureLabels, (home.labelByName name).isSome) ∧ ensureBtdashLabels slugId home = home ∧
      home.ListsExposed (.list ((home.dashboards .ascii).map Dashboard.toDict)) := by
  apply labels_ensured slugId_fresh .ascii
  refine ⟨trivial, trivial, ?_, trivial, trivial⟩
  change "kitchen" ∉ Hass.exposureLabelIds _
  decide

end HaBluetooth.Integration
