import HaBluetooth.Dispatcher.ExposurePaths
import HaBluetooth.Native.ServiceCalls

/-! What a client is sent before it has shown the passcode. Its requests are refused, but its first write
subscribes it to the states of exposed entities. -/

namespace HaBluetooth.Native

open Python Protocol Support Dispatcher Gatt

def dataCmds : List ℕ :=
  [cmdStateChange, cmdAnsAreas, cmdAnsDevices, cmdAnsDashboards, cmdAnsState, cmdAnsCallService]

def Discloses (data : Bytes) : Prop := ∃ r ∈ decodePacket data, r.2.1 ∈ dataCmds

instance (data : Bytes) : Decidable (Discloses data) := inferInstanceAs (Decidable (∃ r ∈ decodePacket data, _))

def Pushes (inputs : List Input) (obj : Value) : Prop :=
  ∃ hass newState, Input.stateChanged hass (some newState) ∈ inputs ∧
    hass.isExposed (.str newState.entityId) = true ∧ obj = newState.toDict

/-- A reply to a frame of its own session is a NACK. What is no reply is the push for an exposed entity. -/
def Reserved (passcode : UInt32) (inputs : List Input) (p : Handed) : Prop :=
  match p.request with
  | some n => n = p.session → ∃ payload, decodePacket p.data = some (passcode.toNat, cmdNack, payload)
  | none => ∃ obj, Pushes inputs obj ∧ encodePacketJson passcode.toNat cmdStateChange obj = .ok p.data

def Job.Within (inputs : List Input) (session : ℕ) : Job → Prop
  | .callback _ n | .handle _ n => n ≤ session
  | .push obj => Pushes inputs obj

namespace NativeBleServer

def WithholdsData (s : NativeBleServer) : Prop := ∀ p ∈ s.handed, p.authenticated = false → ¬ Discloses p.data

instance (s : NativeBleServer) : Decidable s.WithholdsData := inferInstanceAs (Decidable (∀ p ∈ s.handed, _ → _))

def RefusesRequests (passcode : UInt32) (s : NativeBleServer) (inputs : List Input) : Prop :=
  ∀ p ∈ s.handed, p.authenticated = false → Reserved passcode inputs p

structure Guarded (passcode : UInt32) (s : NativeBleServer) (inputs : List Input) : Prop where
  ready : ∀ job ∈ s.ready, job.Within inputs s.session
  calls : ∀ call ∈ s.calls, ∃ n, call.request = some n ∧ n ≤ s.session ∧ (n = s.session → s.authenticated = true)
  handed : s.RefusesRequests passcode inputs

variable {py : Library} {passcode : UInt32} {s : NativeBleServer} {inputs : List Input}

lemma init_guarded : Guarded passcode init [] where
  ready _ hj := absurd hj List.not_mem_nil
  calls _ hc := absurd hc List.not_mem_nil
  handed _ hp := absurd hp List.not_mem_nil

/-! ### Later in the run -/

lemma pushes_later {obj : Value} (h : Pushes inputs obj) (i : Input) : Pushes (inputs ++ [i]) obj := by
  obtain ⟨hass, newState, hm, hx, hobj⟩ := h
  exact ⟨hass, newState, List.mem_append_left _ hm, hx, hobj⟩

lemma within_later {job : Job} {n n' : ℕ} (h : job.Within inputs n) (hn : n ≤ n') (i : Input) :
    job.Within (inputs ++ [i]) n' := by
  cases job with
  | callback c k | handle frame k => exact le_trans h hn
  | push obj => exact pushes_later h i

lemma reserved_later {p : Handed} (h : Reserved passcode inputs p) (i : Input) :
    Reserved passcode (inputs ++ [i]) p := by
  obtain ⟨data, request, session, authenticated⟩ := p
  cases request with
  | some n => exact h
  | none =>
    obtain ⟨obj, hobj, hdata⟩ := h
    exact ⟨obj, pushes_later hobj i, hdata⟩

lemma guarded_later (h : s.Guarded passcode inputs) (i : Input) : s.Guarded passcode (inputs ++ [i]) where
  ready job hj := within_later (h.ready job hj) le_rfl i
  calls := h.calls
  handed p hp ha := reserved_later (h.handed p hp ha) i

/-! ### Steps of the GATT server -/

lemma scheduling_guarded (h : s.Guarded passcode inputs) (gatt : GattServer) :
    (s.scheduling gatt).Guarded passcode inputs where
  ready job hj := by
    rcases List.mem_append.mp hj with hj | hj
    · exact h.ready job hj
    · obtain ⟨c, -, rfl⟩ := List.mem_map.mp hj
      exact le_rfl
  calls := h.calls
  handed := h.handed

lemma newSession_guarded (h : s.Guarded passcode inputs) (i : Input) :
    { s with session := s.session + 1, authenticated := false }.Guarded passcode (inputs ++ [i]) where
  ready job hj := within_later (h.ready job hj) (Nat.le_succ _) i
  calls call hc := by
    obtain ⟨n, hr, hn, -⟩ := h.calls call hc
    exact ⟨n, hr, Nat.le_succ_of_le hn, fun he => absurd hn (by rw [he]; exact Nat.not_succ_le_self _)⟩
  handed p hp ha := reserved_later (h.handed p hp ha) i

lemma write_guarded (h : s.Guarded passcode inputs) (value : Bytes) :
    (s.handleWrite value).Guarded passcode (inputs ++ [.write value]) := by
  rw [handleWrite]
  split
  · exact scheduling_guarded (newSession_guarded h _) _
  · exact scheduling_guarded (guarded_later h _) _

/-! ### Steps of the loop -/

lemma mem_sendPacket_sent {self : PacketDispatcher} {c : ℕ} {v : Value} {data : Bytes}
    (h : data ∈ (self.sendPacket c v).sent) :
    encodePacketJson self.passcode.toNat c v = .ok data := by
  cases he : encodePacketJson self.passcode.toNat c v with
  | error e => simp [PacketDispatcher.sendPacket, he, Run.sent, Traced.observed, Effect.bytes] at h
  | ok packet =>
    simp only [PacketDispatcher.sendPacket, he, Run.sent, Traced.observed, Traced.lift_ok_bind, Traced.emit_bind,
      Traced.lift_events, List.filterMap_cons, Effect.bytes, List.filterMap_nil, List.mem_singleton] at h
    rw [h]

lemma startHandling_stranger {hass : Hass} {frame data : Bytes} (h : ¬ CarriesPasscode passcode frame)
    (hd : data ∈ ((dispatcher passcode hass).startHandling py frame).sent) :
    ∃ payload, decodePacket data = some (passcode.toNat, cmdNack, payload) := by
  cases hdec : decodePacket frame with
  | none =>
    rw [PacketDispatcher.startHandling, PacketDispatcher.acknowledge, hdec] at hd
    cases hd
  | some r =>
    have hp : r.1 ≠ (dispatcher passcode hass).passcode.toNat := by
      intro he
      exact h (by rw [CarriesPasscode, hdec, Option.map_some, he]; rfl)
    have hs : jsonSize (errorDict "wrong passcode") ≤ 65535 := by decide +kernel
    obtain ⟨packet, payload, he, -, hpacket⟩ := PacketDispatcher.sendPacket_ok (dispatcher passcode hass) (fun _ => rfl)
      (c := cmdNack) (by decide) (Hass.serialisable_error _) hs
    rw [PacketDispatcher.startHandling, PacketDispatcher.acknowledge_stranger hdec hp, he] at hd
    obtain rfl := List.mem_singleton.mp hd
    exact ⟨payload, hpacket⟩

lemma startHandling_accepts {hass : Hass} {frame : Bytes} {task : Task}
    (h : ((dispatcher passcode hass).startHandling py frame).result = .ok (some task)) :
    CarriesPasscode passcode frame := by
  obtain ⟨next, hack, hnext⟩ := Traced.bind_result_ok h
  cases next with
  | none => cases hnext
  | some task' =>
    obtain ⟨cmd, payloadBytes, hdec, -, -⟩ := PacketDispatcher.acknowledge_task hack
    rw [CarriesPasscode, hdec]
    rfl

lemma perform_guarded (h : s.Guarded passcode inputs) {request : Option ℕ} {r : Run (Option Task)}
    (hr : ∀ task, r.result = .ok (some task) →
      ∃ n, request = some n ∧ n ≤ s.session ∧ (n = s.session → s.authenticated = true))
    (hs : s.authenticated = false →
      ∀ data ∈ r.sent, Reserved passcode inputs ⟨data, request, s.session, s.authenticated⟩) :
    (s.perform request r).Guarded passcode inputs where
  ready := h.ready
  calls call hc := by
    rcases List.mem_append.mp hc with hc | hc
    · exact h.calls call hc
    · obtain ⟨task, ht, rfl⟩ := List.mem_map.mp hc
      exact hr task (mem_left ht)
  handed p hp ha := by
    rcases List.mem_append.mp hp with hp | hp
    · exact h.handed p hp ha
    · split at hp
      · obtain ⟨data, hd, rfl⟩ := List.mem_map.mp hp
        exact hs ha data hd
      · cases hp

lemma handle_guarded (h : s.Guarded passcode inputs) {frame : Bytes} {n : ℕ} (hn : n ≤ s.session) (hass : Hass) :
    ({ s with authenticated := s.authenticated || decide (n = s.session ∧ CarriesPasscode passcode frame) }.perform
      (some n) ((dispatcher passcode hass).startHandling py frame)).Guarded passcode inputs := by
  have hshown : { s with
      authenticated := s.authenticated || decide (n = s.session ∧ CarriesPasscode passcode frame) }.Guarded
        passcode inputs := by
    refine ⟨h.ready, fun call hc => ?_, h.handed⟩
    obtain ⟨k, hr, hk, ha⟩ := h.calls call hc
    exact ⟨k, hr, hk, fun he => Bool.or_eq_true_iff.mpr (.inl (ha he))⟩
  refine perform_guarded hshown (fun task ht => ?_) fun ha data hd hcur => ?_
  · refine ⟨n, rfl, hn, fun he => Bool.or_eq_true_iff.mpr (.inr ?_)⟩
    exact decide_eq_true ⟨he, startHandling_accepts ht⟩
  · have hstranger : ¬ (n = s.session ∧ CarriesPasscode passcode frame) :=
      of_decide_eq_false (Bool.or_eq_false_iff.mp ha).2
    exact startHandling_stranger (fun hp => hstranger ⟨hcur, hp⟩) hd

lemma runJob_guarded (h : s.Guarded passcode inputs) {job : Job} (hj : job.Within inputs s.session) (hass : Hass) :
    (s.runJob py passcode hass job).Guarded passcode inputs := by
  cases job with
  | callback c n =>
    cases c with
    | onConnect | onDisconnect => exact ⟨h.ready, h.calls, h.handed⟩
    | onFrame frame =>
      refine ⟨fun job hm => ?_, h.calls, h.handed⟩
      rcases List.mem_append.mp hm with hm | hm
      · exact h.ready job hm
      · obtain rfl := List.mem_singleton.mp hm
        exact hj
  | handle frame n => exact handle_guarded h hj hass
  | push obj =>
    refine perform_guarded h (fun task ht => (PacketDispatcher.finished_none ht).elim) fun _ data hd => ?_
    rw [Run.sent, PacketDispatcher.advance, Traced.observed_bind_pure] at hd
    exact ⟨obj, hj, mem_sendPacket_sent hd⟩

lemma next_guarded (h : s.Guarded passcode inputs) (hass : Hass) :
    (s.step py passcode (.next hass)).Guarded passcode inputs := by
  rw [step]
  split
  · exact h
  · rename_i job ready hr
    have hready := List.forall_mem_cons.mp (hr ▸ h.ready)
    have hrest : { s with ready := ready }.Guarded passcode inputs := ⟨hready.2, h.calls, h.handed⟩
    exact runJob_guarded hrest hready.1 hass

lemma finish_guarded (h : s.Guarded passcode inputs) (i : ℕ) (hass : Hass) :
    (s.step py passcode (.finish i hass)).Guarded passcode inputs := by
  rw [step]
  split
  · exact h
  · rename_i call hc
    obtain ⟨n, hr, hn, ha⟩ := h.calls call (List.mem_of_getElem? hc)
    have hrest : { s with calls := s.calls.eraseIdx i }.Guarded passcode inputs :=
      ⟨h.ready, fun c hm => h.calls c (List.mem_of_mem_eraseIdx hm), h.handed⟩
    refine perform_guarded hrest (fun task _ => ⟨n, hr, hn, ha⟩) fun hoff data _ => ?_
    rw [hr]
    exact fun he => absurd (ha he) (by rw [hoff]; exact Bool.false_ne_true)

lemma stateChanged_guarded (h : s.Guarded passcode inputs) (hass : Hass) (newState : Option State) :
    (s.step py passcode (.stateChanged hass newState)).Guarded passcode (inputs ++ [.stateChanged hass newState]) := by
  have hlater := guarded_later h (.stateChanged hass newState)
  refine ⟨fun job hj => ?_, hlater.calls, hlater.handed⟩
  rcases List.mem_append.mp hj with hj | hj
  · exact hlater.ready job hj
  · obtain ⟨obj, hobj, rfl⟩ := List.mem_map.mp hj
    obtain ⟨state, hstate, hpush⟩ := List.mem_filterMap.mp hobj
    obtain rfl := (List.mem_replicate.mp hstate).2
    cases state with
    | none => cases hpush
    | some state =>
      cases hx : hass.isExposed (.str state.entityId) with
      | false =>
        rw [Hass.onStateChanged_hidden hx] at hpush
        cases hpush
      | true =>
        rw [Hass.onStateChanged_exposed hx] at hpush
        exact ⟨hass, state, List.mem_append_right _ List.mem_cons_self, hx, (Option.some.inj hpush).symm⟩

lemma step_guarded (h : s.Guarded passcode inputs) (i : Input) :
    (s.step py passcode i).Guarded passcode (inputs ++ [i]) := by
  cases i with
  | write value => exact write_guarded h value
  | disconnect => exact scheduling_guarded (guarded_later h _) _
  | tx u =>
    have hlater := guarded_later h (.tx u)
    have hs : { s with worker := (s.gatt.resume u s.worker).2.1 }.Guarded passcode (inputs ++ [Input.tx u]) :=
      ⟨hlater.ready, hlater.calls, hlater.handed⟩
    exact scheduling_guarded hs _
  | next hass => exact guarded_later (next_guarded h hass) _
  | finish i hass => exact guarded_later (finish_guarded h i hass) _
  | stateChanged hass newState => exact stateChanged_guarded h hass newState
  | stop part =>
    obtain ⟨hready, hcalls, hhanded⟩ := guarded_later h (.stop part)
    cases part <;> exact ⟨hready, hcalls, hhanded⟩

variable (py passcode) in
lemma run_guarded (inputs : List Input) : (init.run py passcode inputs).Guarded passcode inputs := by
  refine Runs.history (Guarded passcode) (fun s inputs i h => ?_) init_guarded inputs
  exact step_guarded h i

theorem requests_refused (py : Library) (passcode : UInt32) (inputs : List Input) :
    (init.run py passcode inputs).RefusesRequests passcode inputs :=
  (run_guarded py passcode inputs).handed

def lampOff : State := ⟨"light.lamp", "light", "off", [], none⟩

def overheard : List Input :=
  [.write [0x01], .next PacketDispatcher.labelledLamp, .stateChanged PacketDispatcher.labelledLamp (some lampOff),
    .next PacketDispatcher.labelledLamp, .next PacketDispatcher.labelledLamp]

theorem requests_refused_overheard : (init.run .ascii 1 overheard).RefusesRequests 1 overheard :=
  requests_refused .ascii 1 overheard

theorem stranger_overhears : ¬ (init.run .ascii 1 overheard).WithholdsData := by decide +kernel

example : ¬ (init.run .ascii 1 [.write [0x01, 0xAA, 0xBB, 0, 0, 0, 1, 0x10, 0, 0, 0, 0x80, 0xC8, 0xCC, 0xDD],
    .disconnect, .write [0x01], .next .empty, .next .empty, .next .empty, .next .empty, .next .empty,
    .next .empty]).WithholdsData := by
  decide +kernel

end NativeBleServer

end HaBluetooth.Native
