import HaBluetooth.Dispatcher.ExposurePaths
import HaBluetooth.Dispatcher.Machine
import HaBluetooth.Support.Runs

/-! Which changes of state are pushed to the client, when connections are signalled any number of times
and labels come and go. -/

namespace HaBluetooth.Dispatcher

open Python Support

inductive Signal
  | connected
  | disconnected
  | registriesChanged (hass : Hass)
  | stateChanged (newState : Option State)

structure Watch where
  hass : Hass
  machine : Machine

namespace Watch

variable (py : Library) (passcode : UInt32) (sendRaw : Bytes → Result Unit)

def feed (w : Watch) (input : Input) : Watch :=
  { w with machine := w.machine.step py passcode (⟨w.hass, sendRaw⟩, input) }

def step (w : Watch) : Signal → Watch
  | .connected => w.feed py passcode sendRaw .connected
  | .disconnected => w.feed py passcode sendRaw .disconnected
  | .registriesChanged hass => { w with hass }
  | .stateChanged newState => w.feed py passcode sendRaw (.stateChanged newState)

def start (hass : Hass) : Watch := ⟨hass, .init, [], []⟩

end Watch

/-! ### What should be pushed -/

def Signal.home : Signal → Option Hass
  | .registriesChanged hass => some hass
  | .connected | .disconnected | .stateChanged _ => none

def homeAfter (hass : Hass) (signals : List Signal) : Hass := (signals.filterMap Signal.home).getLast?.getD hass

def ConnectedAfter (signals : List Signal) : Prop :=
  ∃ before after, signals = before ++ .connected :: after ∧ .disconnected ∉ after

section

open scoped Classical

noncomputable def dueAt (hass : Hass) (before : List Signal) : Signal → Option State
  | .stateChanged (some state) =>
    if ConnectedAfter before ∧ (homeAfter hass before).Exposes state.entityId then some state else none
  | .connected | .disconnected | .registriesChanged _ | .stateChanged none => none

noncomputable def due (hass : Hass) (signals : List Signal) : List State :=
  (List.range signals.length).filterMap fun i => signals[i]?.bind (dueAt hass (signals.take i))

noncomputable def linkAfter (signals : List Signal) : ClientLink :=
  if ConnectedAfter signals then ⟨true, true, 1⟩ else .init

end

/-! ### One more signal -/

lemma not_connectedAfter_nil : ¬ ConnectedAfter [] := by
  rintro ⟨before, after, h, -⟩
  simp at h

lemma connectedAfter_append (signals : List Signal) (signal : Signal) :
    ConnectedAfter (signals ++ [signal]) ↔ signal = .connected ∨ signal ≠ .disconnected ∧ ConnectedAfter signals := by
  constructor
  · rintro ⟨before, after, h, hafter⟩
    rcases List.eq_nil_or_concat after with rfl | ⟨after, last, rfl⟩
    · exact .inl (List.append_inj' h rfl |>.2 |> List.singleton_inj.mp)
    · rw [List.concat_eq_append, ← List.cons_append, ← List.append_assoc] at h
      obtain ⟨hsignals, hlast⟩ := List.append_inj' h rfl
      obtain rfl := List.singleton_inj.mp hlast
      rw [List.concat_eq_append, List.mem_append, not_or] at hafter
      exact .inr ⟨fun hd => hafter.2 (hd ▸ List.mem_singleton_self _), before, after, hsignals, hafter.1⟩
  · rintro (rfl | ⟨hd, before, after, rfl, hafter⟩)
    · exact ⟨signals, [], rfl, List.not_mem_nil⟩
    · refine ⟨before, after ++ [signal], by simp, ?_⟩
      rw [List.mem_append, not_or]
      exact ⟨hafter, fun hm => hd (List.mem_singleton.mp hm).symm⟩

lemma homeAfter_append (hass : Hass) (signals : List Signal) (signal : Signal) :
    homeAfter hass (signals ++ [signal]) = signal.home.getD (homeAfter hass signals) := by
  rw [homeAfter, List.filterMap_append]
  cases h : signal.home <;> simp [homeAfter, h]

lemma due_append (hass : Hass) (signals : List Signal) (signal : Signal) :
    due hass (signals ++ [signal]) = due hass signals ++ (dueAt hass signals signal).toList := by
  have hold : ∀ i ∈ List.range signals.length,
      (signals ++ [signal])[i]?.bind (dueAt hass ((signals ++ [signal]).take i)) =
        signals[i]?.bind (dueAt hass (signals.take i)) := by
    intro i hi
    have hlt := List.mem_range.mp hi
    rw [List.getElem?_append_left hlt, List.take_append_of_le_length hlt.le]
  rw [due, List.length_append, List.length_singleton, List.range_succ, List.filterMap_append,
    List.filterMap_congr hold]
  cases h : dueAt hass signals signal <;> simp [due, h]

lemma due_quiet {hass : Hass} {signals : List Signal} {signal : Signal} (h : dueAt hass signals signal = none) :
    due hass (signals ++ [signal]) = due hass signals := by
  simp [due_append, h]

lemma linkAfter_connected (signals : List Signal) :
    linkAfter (signals ++ [.connected]) = (linkAfter signals).onBleClientConnected := by
  rw [linkAfter, linkAfter, if_pos ((connectedAfter_append _ _).mpr (.inl rfl))]
  split <;> rfl

lemma linkAfter_disconnected (signals : List Signal) :
    linkAfter (signals ++ [.disconnected]) = (linkAfter signals).onBleClientDisconnected := by
  have hn : ¬ ConnectedAfter (signals ++ [.disconnected]) := by simp [connectedAfter_append]
  rw [linkAfter, linkAfter, if_neg hn]
  split <;> rfl

lemma linkAfter_other {signals : List Signal} {signal : Signal} (hc : signal ≠ .connected)
    (hd : signal ≠ .disconnected) :
    linkAfter (signals ++ [signal]) = linkAfter signals := by
  have hiff : ConnectedAfter (signals ++ [signal]) ↔ ConnectedAfter signals := by
    simp [connectedAfter_append, hc, hd]
  rw [linkAfter, linkAfter, hiff]

lemma linkAfter_stateChanged (hass : Hass) (signals : List Signal) (newState : Option State) :
    (linkAfter signals).stateChanged (homeAfter hass signals) newState =
      (dueAt hass signals (.stateChanged newState)).toList.map State.toDict := by
  cases newState with
  | none => exact ClientLink.stateChanged_silent rfl
  | some state =>
    rw [dueAt, ← Hass.isExposed_iff_exposes]
    by_cases hx : (homeAfter hass signals).isExposed (.str state.entityId) = true
    · rw [ClientLink.stateChanged_loud (Hass.onStateChanged_exposed hx), linkAfter]
      by_cases hc : ConnectedAfter signals
      · rw [if_pos hc, if_pos ⟨hc, hx⟩]
        rfl
      · rw [if_neg hc, if_neg fun h => hc h.1]
        rfl
    · rw [ClientLink.stateChanged_silent (Hass.onStateChanged_hidden (Bool.not_eq_true _ ▸ hx)), if_neg fun h => hx h.2]
      rfl

/-! ### The dispatcher pushes it -/

namespace Watch

variable {py : Library} {passcode : UInt32} {sendRaw : Bytes → Result Unit}

structure Exact (hass : Hass) (w : Watch) (signals : List Signal) : Prop where
  home : w.hass = homeAfter hass signals
  link : w.machine.link = linkAfter signals
  tasks : w.machine.tasks = (due hass signals).map fun state => .push state.toDict
  effects : w.machine.effects = []

lemma start_exact (hass : Hass) : Exact hass (start hass) [] :=
  ⟨rfl, by rw [linkAfter, if_neg not_connectedAfter_nil]; rfl, rfl, rfl⟩

lemma step_exact {hass : Hass} {w : Watch} {signals : List Signal} (signal : Signal) (h : Exact hass w signals) :
    Exact hass (w.step py passcode sendRaw signal) (signals ++ [signal]) := by
  obtain ⟨hhome, hlink, htasks, heffects⟩ := h
  have hnext := homeAfter_append hass signals signal
  cases signal with
  | connected =>
    refine ⟨hhome.trans hnext.symm, ?_, ?_, heffects⟩
    · rw [linkAfter_connected, ← hlink]
      rfl
    · rw [due_quiet rfl]
      exact htasks
  | disconnected =>
    refine ⟨hhome.trans hnext.symm, ?_, ?_, heffects⟩
    · rw [linkAfter_disconnected, ← hlink]
      rfl
    · rw [due_quiet rfl]
      exact htasks
  | registriesChanged hass' =>
    refine ⟨hnext.symm, ?_, ?_, heffects⟩
    · rw [linkAfter_other (by simp) (by simp)]
      exact hlink
    · rw [due_quiet rfl]
      exact htasks
  | stateChanged newState =>
    refine ⟨hhome.trans hnext.symm, ?_, ?_, heffects⟩
    · rw [linkAfter_other (by simp) (by simp)]
      exact hlink
    · have hpushed := linkAfter_stateChanged hass signals newState
      rw [← hlink, ← hhome] at hpushed
      rw [due_append, List.map_append, ← htasks]
      change w.machine.tasks ++ (w.machine.link.stateChanged w.hass newState).map .push = _
      rw [hpushed, List.map_map]
      rfl

theorem pushes_exact (py : Library) (passcode : UInt32) (sendRaw : Bytes → Result Unit) (hass : Hass)
    (signals : List Signal) :
    let s := (signals.foldl (step py passcode sendRaw) (start hass)).machine
    s.tasks = (due hass signals).map (fun state => .push state.toDict) ∧ s.effects = [] ∧
      (ConnectedAfter signals → s.link.bleClientConnected = true ∧ s.link.listeners = 1) ∧
      (¬ ConnectedAfter signals → s.link.bleClientConnected = false ∧ s.link.listeners = 0) := by
  intro s
  have h : Exact hass (signals.foldl (step py passcode sendRaw) (start hass)) signals :=
    Runs.history (Exact hass) (fun _ _ signal => step_exact signal) (start_exact hass) signals
  refine ⟨h.tasks, h.effects, fun hc => ?_, fun hc => ?_⟩
  · rw [h.link, linkAfter, if_pos hc]
    exact ⟨rfl, rfl⟩
  · rw [h.link, linkAfter, if_neg hc]
    exact ⟨rfl, rfl⟩

end Watch

end HaBluetooth.Dispatcher
