import HaBluetooth.Dispatcher.Handlers

/-! Which entities the dashboards list. With an exposure label in place they are the exposed carriers
of the dashboard's label; with both deleted they are all of its carriers. -/

namespace HaBluetooth.Dispatcher

open Python Protocol Support

def elements : Value → List Value
  | .list items => items
  | _ => []

def field (v : Value) (key : String) : Value :=
  match v with
  | .dict entries => (entries.lookup key).getD .null
  | _ => .null

def viewEntityIds (answer : Value) : List Value :=
  (elements answer).flatMap fun dashboard =>
    (elements (field dashboard "views")).flatMap fun view => elements (field view "entity_ids")

lemma viewEntityIds_dashboard (d : Dashboard) :
    ((elements (field d.toDict "views")).flatMap fun view => elements (field view "entity_ids")) =
      d.entityIds.map .str := by
  have hv : elements (field d.toDict "views") = [.dict [("id", .str d.id), ("path", .str d.urlPath),
      ("title", .str d.title), ("entity_ids", .list (d.entityIds.map .str))]] := rfl
  rw [hv, List.flatMap_singleton]
  rfl

lemma mem_viewEntityIds {ds : List Dashboard} {v : Value} :
    v ∈ viewEntityIds (.list (ds.map Dashboard.toDict)) ↔ ∃ d ∈ ds, ∃ id ∈ d.entityIds, v = .str id := by
  simp only [viewEntityIds, elements, List.mem_flatMap, List.mem_map, exists_exists_and_eq_and]
  refine exists_congr fun d => and_congr_right fun _ => ?_
  rw [← List.mem_flatMap]
  change v ∈ ((elements (field d.toDict "views")).flatMap fun view => elements (field view "entity_ids")) ↔ _
  rw [viewEntityIds_dashboard, List.mem_map]
  simp only [eq_comm]

namespace Hass

variable (hass : Hass) (py : Library)

lemma mem_listed {v : Value} :
    v ∈ viewEntityIds (.list ((hass.dashboards py).map Dashboard.toDict)) ↔
      ∃ label ∈ hass.dashLabels, ∃ entry ∈ hass.carriers label.labelId, v = .str entry.entityId := by
  rw [mem_viewEntityIds]
  simp only [(hass.dashboards_perm py).mem_iff, labelDashboards, List.mem_map, exists_exists_and_eq_and,
    dashboardOf, List.mem_insertionSort]

def ListsExposed (answer : Value) : Prop :=
  ∀ v ∈ viewEntityIds answer, ∃ entry ∈ hass.entities.items, v = .str entry.entityId ∧ hass.isExposed v = true

def NoCarriers : Prop :=
  ∀ label ∈ hass.dashLabels, ∀ entry ∈ hass.entities.items, label.labelId ∉ hass.entityLabelIds entry

lemma listsExposed_iff :
    hass.ListsExposed (.list ((hass.dashboards py).map Dashboard.toDict)) ↔
      hass.exposureLabelIds ≠ ∅ ∨ hass.NoCarriers := by
  simp only [ListsExposed, mem_listed, carriers, List.mem_filter, decide_eq_true_eq]
  constructor
  · intro h
    by_contra hh
    obtain ⟨hx, hc⟩ := not_or.mp hh
    rw [not_not] at hx
    refine hc fun label hl entry he hid => ?_
    obtain ⟨entry', -, -, hexp⟩ := h _ ⟨label, hl, entry, ⟨he, hid, fun hn => (hn hx).elim⟩, rfl⟩
    rw [hass.isExposed_entry he, hx, Finset.inter_empty] at hexp
    exact hexp rfl
  · rintro h _ ⟨label, hl, entry, ⟨he, hid, hexp⟩, rfl⟩
    refine ⟨entry, he, rfl, (hass.isExposed_entry he).mpr ?_⟩
    rcases h with hx | hc
    · exact hexp hx
    · exact (hc label hl entry he hid).elim

end Hass

namespace PacketDispatcher

variable (py : Library) (self : PacketDispatcher)

theorem dashboards_exposed_iff :
    (∀ answer, Effect.packet cmdAnsDashboards answer ∈ (self.handleReqDashboards py).events →
        self.hass.ListsExposed answer) ↔
      self.hass.exposureLabelIds ≠ ∅ ∨ self.hass.NoCarriers := by
  rw [← self.hass.listsExposed_iff py]
  simp only [handleReqDashboards, mem_sendPacket, true_and, forall_eq]

def unlabelled : Hass :=
  { Hass.empty with
    labels := ⟨[⟨"dash_battery", "DASH_Battery"⟩], by decide⟩
    entities := ⟨[⟨"sensor.cell", none, none, {"dash_battery"}⟩], by decide⟩ }

theorem unexposed_listed :
    ∃ answer, Effect.packet cmdAnsDashboards answer ∈
        (handleReqDashboards .ascii ⟨unlabelled, 1, fun _ => .ok ()⟩).events ∧
      ¬ unlabelled.ListsExposed answer := by
  refine ⟨_, (mem_sendPacket _).mpr ⟨rfl, rfl⟩, fun h => ?_⟩
  rcases (unlabelled.listsExposed_iff .ascii).mp h with hx | hc
  · exact hx (by decide +kernel)
  · have hl : ⟨"dash_battery", "DASH_Battery"⟩ ∈ unlabelled.dashLabels :=
      List.mem_filter.mpr ⟨List.mem_cons_self, by decide⟩
    exact hc _ hl ⟨"sensor.cell", none, none, {"dash_battery"}⟩ List.mem_cons_self (by decide +kernel)

end PacketDispatcher

end HaBluetooth.Dispatcher
