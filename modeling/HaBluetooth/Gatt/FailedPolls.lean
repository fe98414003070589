import HaBluetooth.Gatt.Stopping

/-! Clients that `_disconnect_detector` drops. A poll that fails looks to it like one that lists no
device, so right after a poll that listed some it costs a live client its session. -/

namespace HaBluetooth.Gatt

namespace Shutdown

def DropsOnEmpty (inputs : List ShutdownInput) : Prop :=
  ∀ before devices after, inputs = before ++ .poll devices :: after →
    (init.run before).gatt.connected = true → (init.run (before ++ [.poll devices])).gatt.connected = false →
      devices = some []

def Remembers (s : Shutdown) : Prop :=
  s.gatt.connected = true ∧ ∃ worker prev, prev ≠ [] ∧ s.loops = some (worker, .polling prev)

lemma run_snoc (inputs : List ShutdownInput) (i : ShutdownInput) :
    init.run (inputs ++ [i]) = (init.run inputs).step i := by
  rw [run, List.foldl_append]
  rfl

lemma detect_drops (s : GattServer) (devices : Option (List String)) (d : Detector) (hc : s.connected = true) :
    (s.detect devices d).1.connected = false ↔ (∃ prev, prev ≠ [] ∧ d = .polling prev) ∧ devices.getD [] = [] := by
  cases d with
  | ended | sleeping prev => simp [GattServer.detect, hc]
  | polling prev =>
    rw [GattServer.detect]
    dsimp only
    by_cases hd : prev ≠ [] ∧ devices.getD [] = []
    · rw [if_pos ⟨hd.1, hd.2, hc⟩]
      exact iff_of_true (s.markDisconnected_online hc).1 ⟨⟨prev, hd.1, rfl⟩, hd.2⟩
    · rw [if_neg fun h => hd ⟨h.1, h.2.1⟩, hc]
      refine iff_of_false (Bool.noConfusion ·) ?_
      rintro ⟨⟨prev', hne, he⟩, hempty⟩
      cases he
      exact hd ⟨hne, hempty⟩

lemma poll_drops_iff (s : Shutdown) (devices : Option (List String)) :
    s.gatt.connected = true ∧ (s.step (.poll devices)).gatt.connected = false ↔
      s.Remembers ∧ devices.getD [] = [] := by
  rw [Remembers, and_assoc]
  refine and_congr_right fun hc => ?_
  rw [step]
  cases hl : s.loops with
  | none => simp [hc]
  | some loops =>
    obtain ⟨worker, detector⟩ := loops
    rw [detect_drops _ _ _ hc]
    refine and_congr_left fun _ => ?_
    constructor
    · rintro ⟨prev, hne, rfl⟩
      exact ⟨worker, prev, hne, rfl⟩
    · rintro ⟨_, prev, hne, he⟩
      cases he
      exact ⟨prev, hne, rfl⟩

theorem polls_drop_iff (inputs : List ShutdownInput) :
    DropsOnEmpty inputs ↔ ∀ before after, inputs = before ++ .poll none :: after → ¬ (init.run before).Remembers := by
  constructor
  · intro h before after hi hr
    obtain ⟨hc, hdrop⟩ := (poll_drops_iff _ none).mpr ⟨hr, rfl⟩
    rw [← run_snoc] at hdrop
    cases h before none after hi hc hdrop
  · intro h before devices after hi hc hdrop
    rw [run_snoc] at hdrop
    obtain ⟨hr, hempty⟩ := (poll_drops_iff _ devices).mp ⟨hc, hdrop⟩
    cases devices with
    | none => exact (h before after hi hr).elim
    | some devices => exact congrArg some hempty

theorem failed_poll_drops :
    ¬ DropsOnEmpty [.created, .startLoops, .write [0x01], .poll none, .poll (some ["AA:BB:CC:DD:EE:FF"]), .poll none,
      .poll none] := by
  intro h
  cases h [.created, .startLoops, .write [0x01], .poll none, .poll (some ["AA:BB:CC:DD:EE:FF"]), .poll none] none []
    rfl (by decide) (by decide)

end Shutdown

end HaBluetooth.Gatt
