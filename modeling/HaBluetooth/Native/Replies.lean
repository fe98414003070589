import HaBluetooth.Native.ServiceCalls
import HaBluetooth.Python.JsonReader
import HaBluetooth.Support.Refinement

/-! Which session the reply to a request is queued in. A handler that outlives its session replies to the
next client. -/

namespace HaBluetooth.Native

open Python Protocol Support Dispatcher Gatt

def Answered (passcode : UInt32) (frame : Bytes) : Prop :=
  ∃ r ∈ decodePacket frame, ¬ (r.1 = passcode.toNat ∧ r.2.1 = cmdAck)

instance (passcode : UInt32) (frame : Bytes) : Decidable (Answered passcode frame) :=
  decidable_of_iff ((decodePacket frame).any fun r => ¬ (r.1 = passcode.toNat ∧ r.2.1 = cmdAck))
    (by simp [Answered, Option.any_eq_true, imp_iff_not_or])

def Job.Current (passcode : UInt32) (session : ℕ) : Job → Prop
  | .callback (.onFrame frame) n | .handle frame n => Answered passcode frame → n = session
  | .callback .onConnect _ | .callback .onDisconnect _ | .push _ => True

lemma unanswered {py : Library} {self : PacketDispatcher} {frame : Bytes} (h : ¬ Answered self.passcode frame) :
    self.startHandling py frame = pure none := by
  have hack : self.acknowledge py frame = pure none := by
    rw [PacketDispatcher.acknowledge]
    cases hdec : decodePacket frame with
    | none => rfl
    | some r =>
      have hr : r.1 = self.passcode.toNat ∧ r.2.1 = cmdAck := by
        by_contra hn
        exact h ⟨r, hdec, hn⟩
      simp only [ne_eq, hr.1, not_true, if_false, hr.2, if_true]
  rw [PacketDispatcher.startHandling, hack]
  rfl

namespace NativeBleServer

def KeepsReplies (s : NativeBleServer) : Prop := ∀ p ∈ s.handed, ∀ n ∈ p.request, n = p.session

instance (s : NativeBleServer) : Decidable s.KeepsReplies := inferInstanceAs (Decidable (∀ p ∈ s.handed, _))

/-- When the step connects a client, no handler waits for a service, and no frame is left whose handler will
answer. -/
def Settled (passcode : UInt32) (s : NativeBleServer) (i : Input) : Prop :=
  ∀ value, i = .write value → s.gatt.connected = false → (s.gatt.handleWrite value).connected = true →
    s.calls = [] ∧ ∀ frame ∈ s.waiting, ¬ Answered passcode frame

instance (passcode : UInt32) (s : NativeBleServer) : (i : Input) → Decidable (s.Settled passcode i)
  | .write value =>
    decidable_of_iff (s.gatt.connected = false → (s.gatt.handleWrite value).connected = true →
      s.calls.isEmpty ∧ ∀ frame ∈ s.waiting, ¬ Answered passcode frame) (by simp [Settled])
  | .disconnect | .tx _ | .next _ | .finish _ _ | .stateChanged _ _ | .stop _ => isTrue fun _ h => nomatch h

structure Current (passcode : UInt32) (s : NativeBleServer) : Prop where
  calls : s.gatt.connected = true → ∀ call ∈ s.calls, call.request = some s.session
  ready : s.gatt.connected = true → ∀ job ∈ s.ready, job.Current passcode s.session
  handed : s.KeepsReplies

variable {py : Library} {passcode : UInt32} {s : NativeBleServer}

lemma init_current : Current passcode init where
  calls h := absurd h Bool.false_ne_true
  ready h := absurd h Bool.false_ne_true
  handed _ hp := absurd hp List.not_mem_nil

/-! ### Steps of the GATT server -/

lemma scheduling_current {gatt : GattServer}
    (hcalls : gatt.connected = true → ∀ call ∈ s.calls, call.request = some s.session)
    (hready : gatt.connected = true → ∀ job ∈ s.ready, job.Current passcode s.session) (hh : s.KeepsReplies) :
    (s.scheduling gatt).Current passcode where
  calls := hcalls
  ready hc job hj := by
    rcases List.mem_append.mp hj with hj | hj
    · exact hready hc job hj
    · obtain ⟨c, -, rfl⟩ := List.mem_map.mp hj
      cases c with
      | onConnect | onDisconnect => trivial
      | onFrame frame => exact fun _ => rfl
  handed := hh

lemma settled_job {job : Job} (h : ∀ frame ∈ s.waiting, ¬ Answered passcode frame) (hj : job ∈ s.ready) (n : ℕ) :
    job.Current passcode n := by
  cases job with
  | push obj => trivial
  | handle frame k =>
    have hm : frame ∈ s.waiting := List.mem_append_left _ (List.mem_filterMap.mpr ⟨_, hj, rfl⟩)
    exact fun ha => absurd ha (h frame hm)
  | callback c k =>
    cases c with
    | onConnect | onDisconnect => trivial
    | onFrame frame =>
      have hm : frame ∈ s.waiting := List.mem_append_right _ (List.mem_filterMap.mpr ⟨_, hj, rfl⟩)
      exact fun ha => absurd ha (h frame hm)

lemma write_current (h : s.Current passcode) {value : Bytes} (hv : s.Settled passcode (.write value)) :
    (s.handleWrite value).Current passcode := by
  rw [handleWrite]
  split
  · next hnew =>
    obtain ⟨hoff, hon⟩ := Bool.and_eq_true_iff.mp hnew
    obtain ⟨hcalls, hframes⟩ := hv value rfl (by simpa using hoff) hon
    refine scheduling_current (fun _ call hc => ?_) (fun _ job hj => settled_job hframes hj _) h.handed
    change call ∈ s.calls at hc
    rw [hcalls] at hc
    cases hc
  · next hold =>
    have hstays : (s.gatt.handleWrite value).connected = true → s.gatt.connected = true := by
      intro hon
      simpa [hon] using hold
    exact scheduling_current (fun hc => h.calls (hstays hc)) (fun hc => h.ready (hstays hc)) h.handed

lemma dropped_current (h : s.Current passcode) {gatt : GattServer}
    (hg : gatt.connected = true → s.gatt.connected = true) (worker : TxWorker) :
    ({ s with worker := worker }.scheduling gatt).Current passcode :=
  scheduling_current (fun hc => h.calls (hg hc)) (fun hc => h.ready (hg hc)) h.handed

lemma markDisconnected_connected {gatt : GattServer} (h : gatt.markDisconnected.connected = true) :
    gatt.connected = true := by
  by_contra hoff
  rw [gatt.markDisconnected_offline (by simpa using hoff)] at h
  exact hoff h

lemma resume_connected {gatt : GattServer} {u : Update} {w : TxWorker} (h : (gatt.resume u w).1.connected = true) :
    gatt.connected = true := by
  rcases gatt.resume_cases w u with ⟨hs, -⟩ | ⟨item, queue, -, -, hs | ⟨hc, -⟩⟩
  · rwa [hs] at h
  · rwa [hs] at h
  · exact hc

/-! ### Steps of the loop -/

lemma perform_current (h : s.Current passcode) {request : Option ℕ} {r : Run (Option Task)}
    (hcalls : s.gatt.connected = true → ∀ task, r.result = .ok (some task) → request = some s.session)
    (hsent : s.gatt.connected = true → ∀ data ∈ r.sent, ∀ n ∈ request, n = s.session) :
    (s.perform request r).Current passcode := by
  obtain ⟨queue, hq⟩ := sendFrames_frame s.gatt r.sent
  have hsame : (s.perform request r).gatt.connected = s.gatt.connected := by rw [perform, hq]
  refine ⟨fun hc call hm => ?_, fun hc => h.ready (hsame ▸ hc), fun p hp n hn => ?_⟩
  · rcases List.mem_append.mp hm with hm | hm
    · exact h.calls (hsame ▸ hc) call hm
    · obtain ⟨task, ht, rfl⟩ := List.mem_map.mp hm
      exact hcalls (hsame ▸ hc) task (mem_left ht)
  · rcases List.mem_append.mp hp with hp | hp
    · exact h.handed p hp n hn
    · split at hp
      · next hon =>
        obtain ⟨data, hd, rfl⟩ := List.mem_map.mp hp
        exact hsent (Bool.and_eq_true_iff.mp hon).1 data hd n hn
      · cases hp

lemma runJob_current (h : s.Current passcode) {job : Job} {rest : List Job} (hr : s.ready = job :: rest) (hass : Hass) :
    ({ s with ready := rest }.runJob py passcode hass job).Current passcode := by
  have hrest : s.gatt.connected = true →
      job.Current passcode s.session ∧ ∀ job ∈ rest, job.Current passcode s.session :=
    fun hc => List.forall_mem_cons.mp (hr ▸ h.ready hc)
  cases job with
  | callback c n =>
    cases c with
    | onConnect | onDisconnect => exact ⟨h.calls, fun hc => (hrest hc).2, h.handed⟩
    | onFrame frame =>
      refine ⟨h.calls, fun hc job hj => ?_, h.handed⟩
      rcases List.mem_append.mp hj with hj | hj
      · exact (hrest hc).2 job hj
      · obtain rfl := List.mem_singleton.mp hj
        exact (hrest hc).1
  | handle frame n =>
    have hstart : Current passcode { s with
        ready := rest, authenticated := s.authenticated || decide (n = s.session ∧ CarriesPasscode passcode frame) } :=
      ⟨h.calls, fun hc => (hrest hc).2, h.handed⟩
    apply perform_current hstart
    · intro hc task htask
      by_cases ha : Answered passcode frame
      · exact congrArg some ((hrest hc).1 ha)
      · rw [unanswered ha] at htask
        cases htask
    · rintro hc data hd n' ⟨⟩
      by_cases ha : Answered passcode frame
      · exact (hrest hc).1 ha
      · rw [unanswered ha] at hd
        cases hd
  | push obj =>
    have hstart : Current passcode { s with ready := rest } := ⟨h.calls, fun hc => (hrest hc).2, h.handed⟩
    apply perform_current hstart
    · exact fun _ task htask => (PacketDispatcher.finished_none htask).elim
    · exact fun _ _ _ _ hn => by cases hn

lemma finish_current (h : s.Current passcode) {i : ℕ} {call : Suspended} (hc : s.calls[i]? = some call) (hass : Hass) :
    ({ s with calls := s.calls.eraseIdx i }.perform call.request
      ((dispatcher passcode hass).advance py call.task)).Current passcode := by
  have hcurrent : s.gatt.connected = true → call.request = some s.session :=
    fun hon => h.calls hon call (List.mem_of_getElem? hc)
  have hstart : Current passcode { s with calls := s.calls.eraseIdx i } :=
    ⟨fun hon c hm => h.calls hon c (List.mem_of_mem_eraseIdx hm), h.ready, h.handed⟩
  apply perform_current hstart
  · exact fun hon _ _ => hcurrent hon
  · intro hon data _ n hn
    rw [hcurrent hon] at hn
    exact (Option.some.inj hn).symm

lemma step_current (s : NativeBleServer) (i : Input) (h : s.Current passcode) (hi : s.Settled passcode i) :
    (s.step py passcode i).Current passcode := by
  cases i with
  | write value => exact write_current h hi
  | disconnect => exact dropped_current h markDisconnected_connected s.worker
  | tx u => exact dropped_current h resume_connected _
  | next hass =>
    rw [step]
    split
    · exact h
    · next job rest hr => exact runJob_current h hr hass
  | finish i hass =>
    rw [step]
    split
    · exact h
    · next call hc => exact finish_current h hc hass
  | stateChanged hass newState =>
    refine ⟨h.calls, fun hc job hj => ?_, h.handed⟩
    rcases List.mem_append.mp hj with hj | hj
    · exact h.ready hc job hj
    · obtain ⟨obj, -, rfl⟩ := List.mem_map.mp hj
      trivial
  | stop part =>
    obtain ⟨hcalls, hready, hhanded⟩ := h
    cases part <;> exact ⟨hcalls, hready, hhanded⟩

theorem replies_keep_to_session (py : Library) (passcode : UInt32) {inputs : List Input}
    (h : ∀ before i after, inputs = before ++ i :: after → (init.run py passcode before).Settled passcode i) :
    (init.run py passcode inputs).KeepsReplies :=
  (Runs.guarded (Current passcode) step_current init_current h).handed

def togglePacket : Bytes :=
  [0xAA, 0xBB, 0, 0, 0, 1, 0x22, 0, 0, 37] ++ "\x7b\"domain\":\"light\",\"service\":\"toggle\"\x7d".toUTF8.toList ++
    [0xCB, 0xF6, 0xCC, 0xDD]

/-- The first client's service call ends and is answered before that client leaves. -/
def succeeded : List Input :=
  [.write (0x01 :: togglePacket), .next .empty, .next .empty, .next .empty, .finish 0 .empty, .disconnect, .next .empty,
    .write [0x01, 0xAA, 0xBB, 0, 0, 0, 1, 0x10, 0, 0, 0, 0x80, 0xC8, 0xCC, 0xDD], .next .empty, .next .empty,
    .next .empty]

theorem replies_keep_to_session_succeeded :
    (init.run jsonLibrary 1 succeeded).KeepsReplies ∧
      (init.run jsonLibrary 1 succeeded).handed.map (fun p => (p.request, p.session)) =
        [(some 1, 1), (some 1, 1), (some 2, 2), (some 2, 2)] := by
  have hsettled : Admits (step jsonLibrary 1) (Settled 1) init succeeded := by decide +kernel
  refine ⟨replies_keep_to_session jsonLibrary 1 fun before i after h => ?_, by decide +kernel⟩
  rw [h] at hsettled
  exact hsettled.split

/-- The first client's service call ends when the second client is there. -/
def outlived : List Input :=
  [.write (0x01 :: togglePacket), .next .empty, .next .empty, .next .empty, .disconnect, .write [0x01],
    .finish 0 .empty]

theorem reply_outlives_session : ¬ (init.run jsonLibrary 1 outlived).KeepsReplies ∧
    (init.run jsonLibrary 1 outlived).gatt.txQueue.items ≠ [] := by
  decide +kernel

end NativeBleServer

end HaBluetooth.Native
