import HaBluetooth.Dispatcher.ExposurePaths

/-! The dashboards while an exposure label exists: one for each label that names one, with exactly the
exposed entities that carry it. -/

namespace HaBluetooth.Dispatcher

open Python Protocol Support

lemma dashTitle_cases {name : String} (h : "DASH_".toList <+: name.toList) :
    dashTitle name ≠ "" ∧ name = "DASH_" ++ dashTitle name ∨ name = "DASH_" ∧ dashTitle name = "DASH_" := by
  obtain ⟨rest, hrest⟩ := h
  have hname : name = "DASH_" ++ String.ofList rest := by
    apply String.toList_inj.mp
    rw [String.toList_append, @String.toList_ofList rest, hrest]
  have htitle : String.ofList (name.toList.drop dashLabelPrefix.length) = String.ofList rest := by
    rw [← hrest]
    exact congrArg String.ofList List.drop_left
  rw [dashTitle, htitle]
  split
  · next hempty =>
    rw [hempty, String.append_empty] at hname
    exact .inr ⟨hname, hname⟩
  · next hne => exact .inl ⟨hne, hname⟩

namespace Hass

variable (hass : Hass) (py : Library)

def HasLabel (entry : EntityEntry) (labelId : String) : Prop :=
  labelId ∈ entry.labels ∨
    ∃ device ∈ hass.devices.items, entry.deviceId = some device.id ∧ device.id ≠ "" ∧ labelId ∈ device.labels

def IsExposureLabel (labelId : String) : Prop :=
  ∃ name ∈ ["BTDASH", "BTDASHAA"], ∃ label, hass.labelByName name = some label ∧ label.labelId = labelId

def ExposureLabelExists : Prop := ∃ labelId, hass.IsExposureLabel labelId

structure ExactDashboards (ds : List Dashboard) : Prop where
  one_each : ∀ id, id ∈ ds.map Dashboard.id ↔
    ∃ label ∈ hass.labels.items, "DASH_".toList <+: label.name.toList ∧ label.labelId = id
  no_label_twice : (ds.map Dashboard.id).Nodup
  titled : ∀ d ∈ ds, ∃ label ∈ hass.labels.items, label.labelId = d.id ∧
    (d.title ≠ "" ∧ label.name = "DASH_" ++ d.title ∨ label.name = "DASH_" ∧ d.title = "DASH_")
  paths : ∀ d ∈ ds, d.urlPath = py.lower d.title
  ordered : ds.Pairwise fun d e => py.lower d.title ≤ py.lower e.title
  ascending : ∀ d ∈ ds, d.entityIds.Pairwise (· < ·)
  complete : ∀ d ∈ ds, ∀ id, id ∈ d.entityIds ↔ ∃ entry ∈ hass.entities.items, entry.entityId = id ∧
    hass.HasLabel entry d.id ∧ ∃ exposure, hass.IsExposureLabel exposure ∧ hass.HasLabel entry exposure

lemma mem_exposure {id : String} : id ∈ hass.exposureLabelIds ↔ hass.IsExposureLabel id := hass.mem_exposureLabelIds

lemma mem_entityLabels {entry : EntityEntry} {id : String} : id ∈ hass.entityLabelIds entry ↔ hass.HasLabel entry id :=
  hass.mem_entityLabelIds

lemma carries_iff (h : hass.ExposureLabelExists) {entry : EntityEntry} {id : String} : hass.Carries entry id ↔
    hass.HasLabel entry id ∧ ∃ exposure, hass.IsExposureLabel exposure ∧ hass.HasLabel entry exposure := by
  obtain ⟨labelId, hlabel⟩ := h
  have hsome : hass.exposureLabelIds ≠ ∅ := Finset.ne_empty_of_mem (hass.mem_exposure.mpr hlabel)
  rw [Carries, imp_iff_right hsome, ← Finset.nonempty_iff_ne_empty, mem_entityLabels]
  simp only [Finset.Nonempty, Finset.mem_inter, mem_exposure, mem_entityLabels, and_comm]

lemma mem_dashLabels {label : LabelEntry} :
    label ∈ hass.dashLabels ↔ label ∈ hass.labels.items ∧ "DASH_".toList <+: label.name.toList := by
  rw [dashLabels, List.mem_filter, List.isPrefixOf_iff_prefix]
  rfl

lemma dashLabels_nodup : (hass.dashLabels.map LabelEntry.labelId).Nodup :=
  hass.labels.nodup.sublist (List.filter_sublist.map _)

lemma map_id_perm : ((hass.dashboards py).map Dashboard.id).Perm (hass.dashLabels.map LabelEntry.labelId) := by
  have h := (hass.dashboards_perm py).map Dashboard.id
  rwa [labelDashboards, List.map_map] at h

lemma mem_dashboards {d : Dashboard} (h : d ∈ hass.dashboards py) :
    ∃ label ∈ hass.dashLabels,
      d = dashboardOf py ((hass.carriers label.labelId).map EntityEntry.entityId) label := by
  obtain ⟨label, hl, rfl⟩ := List.mem_map.mp ((hass.dashboards_perm py).mem_iff.mp h)
  exact ⟨label, hl, rfl⟩

lemma dashboards_ordered : (hass.dashboards py).Pairwise fun d e => py.lower d.title ≤ py.lower e.title := by
  rw [dashboards]
  split
  · exact .nil
  · have : Std.Total fun d e : Dashboard => py.lower d.title ≤ py.lower e.title := ⟨fun _ _ => le_total _ _⟩
    have : IsTrans Dashboard fun d e => py.lower d.title ≤ py.lower e.title := ⟨fun _ _ _ => le_trans⟩
    exact List.pairwise_insertionSort _ _

lemma carriers_nodup (id : String) : ((hass.carriers id).map EntityEntry.entityId).Nodup :=
  hass.entities.nodup.sublist (List.filter_sublist.map _)

lemma insertionSort_ascending {ids : List String} (h : ids.Nodup) :
    (ids.insertionSort (· ≤ ·)).Pairwise (· < ·) :=
  (List.sortedLE_insertionSort.sortedLT_of_nodup ((List.perm_insertionSort _ _).nodup_iff.mpr h)).pairwise

theorem dashboards_exact (h : hass.ExposureLabelExists) : hass.ExactDashboards py (hass.dashboards py) where
  one_each id := by
    simp only [(hass.map_id_perm py).mem_iff, List.mem_map, mem_dashLabels, and_assoc]
  no_label_twice := (hass.map_id_perm py).nodup_iff.mpr hass.dashLabels_nodup
  titled d hd := by
    obtain ⟨label, hl, rfl⟩ := hass.mem_dashboards py hd
    obtain ⟨hitem, hprefix⟩ := hass.mem_dashLabels.mp hl
    exact ⟨label, hitem, rfl, dashTitle_cases hprefix⟩
  paths d hd := by
    obtain ⟨label, -, rfl⟩ := hass.mem_dashboards py hd
    rfl
  ordered := hass.dashboards_ordered py
  ascending d hd := by
    obtain ⟨label, -, rfl⟩ := hass.mem_dashboards py hd
    exact insertionSort_ascending (hass.carriers_nodup label.labelId)
  complete d hd id := by
    obtain ⟨label, -, rfl⟩ := hass.mem_dashboards py hd
    simp only [dashboardOf, List.mem_insertionSort, List.mem_map, carriers, List.mem_filter, decide_eq_true_eq,
      hass.carries_iff h, and_assoc]
    exact exists_congr fun entry => and_congr_right fun _ => by tauto

end Hass

namespace PacketDispatcher

variable (py : Library) (self : PacketDispatcher)

theorem dashboard_contents (h : self.hass.ExposureLabelExists) :
    ∃ ds, self.hass.ExactDashboards py ds ∧ ∀ answer,
      Effect.packet cmdAnsDashboards answer ∈ (self.handleReqDashboards py).events ↔
        answer = .list (ds.map fun d => .dict [("id", .str d.id), ("url_path", .str d.urlPath), ("title", .str d.title),
          ("views", .list [.dict [("id", .str d.id), ("path", .str d.urlPath), ("title", .str d.title),
            ("entity_ids", .list (d.entityIds.map .str))]])]) := by
  refine ⟨self.hass.dashboards py, self.hass.dashboards_exact py h, fun answer => ?_⟩
  rw [handleReqDashboards, mem_sendPacket]
  exact and_iff_right rfl

def labelledTwice : Hass :=
  { Hass.empty with
    labels := ⟨[⟨"btdash", "BTDASH"⟩, ⟨"dash_battery", "DASH_Battery"⟩], by decide⟩
    devices := ⟨[⟨"phone", {"dash_battery"}⟩], by decide⟩
    entities := ⟨[⟨"sensor.cell", none, some "phone", {"btdash", "dash_battery"}⟩], by decide⟩ }

theorem dashboard_contents_labelled_twice :
    ∃ ds, labelledTwice.ExactDashboards .ascii ds ∧ ∀ answer,
      Effect.packet cmdAnsDashboards answer ∈
          (handleReqDashboards .ascii ⟨labelledTwice, 1, fun _ => .ok ()⟩).events ↔
        answer = .list (ds.map fun d => .dict [("id", .str d.id), ("url_path", .str d.urlPath), ("title", .str d.title),
          ("views", .list [.dict [("id", .str d.id), ("path", .str d.urlPath), ("title", .str d.title),
            ("entity_ids", .list (d.entityIds.map .str))]])]) := by
  apply dashboard_contents .ascii ⟨labelledTwice, 1, fun _ => .ok ()⟩
  exact ⟨"btdash", "BTDASH", List.mem_cons_self, ⟨"btdash", "BTDASH"⟩, rfl, rfl⟩

end PacketDispatcher

end HaBluetooth.Dispatcher
