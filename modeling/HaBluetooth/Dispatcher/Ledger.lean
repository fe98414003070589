import HaBluetooth.Dispatcher.Answering
import HaBluetooth.Dispatcher.Machine
import HaBluetooth.Support.Balance

/-! The requests that a dispatcher accepts and the answers that it gives, under any schedule. -/

namespace HaBluetooth.Dispatcher

open Python Protocol Support

/-- The command of a packet that is sent, or a service that is started. -/
inductive Entry
  | packet (cmd : ℕ)
  | service
  deriving DecidableEq

def Effect.entry : Effect → Option Entry
  | .packet cmd _ => some (.packet cmd)
  | .raw _ => none
  | .service _ _ _ => some .service

inductive Verdict
  | ignored
  | refused
  | accepted (cmd : ℕ)
  deriving DecidableEq

def requestCmds : List ℕ := [cmdReqAreas, cmdReqDevices, cmdReqDashboards, cmdReqState, cmdCallService]

def queryCmds : List ℕ := [cmdReqAreas, cmdReqDevices, cmdReqDashboards, cmdReqState]

def queryAnswers : List (ℕ × ℕ) :=
  [(cmdReqAreas, cmdAnsAreas), (cmdReqDevices, cmdAnsDevices), (cmdReqDashboards, cmdAnsDashboards),
    (cmdReqState, cmdAnsState)]

def verdict (passcode : UInt32) (raw : Bytes) : Verdict :=
  match decodePacket raw with
  | none => .ignored
  | some (code, cmd, _) =>
    if code ≠ passcode.toNat then .refused
    else if cmd = cmdAck then .ignored
    else if cmd ∈ requestCmds then .accepted cmd
    else .refused

def Verdict.entries : Verdict → List Entry
  | .ignored => []
  | .refused => [.packet cmdNack]
  | .accepted _ => [.packet cmdAck]

/-- What a task leaves on the books when it goes on, and the task it becomes. A lossy step may break off without an
answer, and report on a service twice. -/
inductive Advances (lossy : Prop) : Task → List Entry → Option Task → Prop
  | failed (cmd : ℕ) (payload : Value) : lossy → Advances lossy (.reply cmd payload) [] none
  | answered {cmd answer : ℕ} (payload : Value) :
      (cmd, answer) ∈ queryAnswers → Advances lossy (.reply cmd payload) [.packet answer] none
  | refused (payload : Value) : Advances lossy (.reply cmdReqState payload) [.packet cmdNack] none
  | started {cmd : ℕ} (payload domain service data : Value) :
      cmd ∉ queryCmds → Advances lossy (.reply cmd payload) [.service] (some (.called domain service data))
  | reported (domain service data : Value) :
      Advances lossy (.called domain service data) [.packet cmdAnsCallService] none
  | reportedAgain (domain service data : Value) : lossy →
      Advances lossy (.called domain service data) [.packet cmdAnsCallService, .packet cmdAnsCallService] none
  | pushed (obj : Value) : Advances lossy (.push obj) [.packet cmdStateChange] none

def Run.entries {α : Type} (r : Run α) : List Entry := r.observed Effect.entry

def Run.next (r : Run (Option Task)) : Option Task := r.result.toOption.bind id

/-- No exception ends the step, and none comes from the transport. -/
def Smooth {α : Type} (self : PacketDispatcher) (r : Run α) : Prop := self.Reliable ∧ r.Completes

namespace PacketDispatcher

variable {py : Library} {self : PacketDispatcher}

lemma sendPacket_entries (cmd : ℕ) (obj : Value) : (self.sendPacket cmd obj).entries = [.packet cmd] := by
  cases h : encodePacketJson self.passcode.toNat cmd obj <;>
    simp [sendPacket, h, Run.entries, Traced.observed, Effect.entry]

lemma last_entries {x : Run Unit} : (x >>= fun _ => pure none : Run (Option Task)).entries = x.entries :=
  Traced.observed_bind_pure x _

lemma last_next {x : Run Unit} : (x >>= fun _ => pure none : Run (Option Task)).next = none := by
  cases h : x.result with
  | ok _ =>
    rw [Traced.bind_ok _ h]
    rfl
  | error e =>
    rw [Traced.bind_error _ h]
    rfl

lemma acknowledge_verdict (raw : Bytes) : (self.acknowledge py raw).entries = (verdict self.passcode raw).entries ∧
    ((self.acknowledge py raw).next = none ∧
        (∀ cmd, verdict self.passcode raw = .accepted cmd → ¬ Smooth self (self.acknowledge py raw)) ∨
      ∃ cmd payload, verdict self.passcode raw = .accepted cmd ∧
        (self.acknowledge py raw).next = some (.reply cmd payload)) := by
  rw [acknowledge, verdict, requestCmds]
  cases decodePacket raw with
  | none => exact ⟨rfl, .inl ⟨rfl, by simp⟩⟩
  | some r =>
    obtain ⟨code, cmd, payloadBytes⟩ := r
    dsimp only
    by_cases hc : code ≠ self.passcode.toNat
    · rw [if_pos hc, if_pos hc]
      exact ⟨last_entries.trans (sendPacket_entries _ _), .inl ⟨last_next, by simp⟩⟩
    · rw [if_neg hc, if_neg hc]
      by_cases ha : cmd = cmdAck
      · rw [if_pos ha, if_pos ha]
        exact ⟨rfl, .inl ⟨rfl, by simp⟩⟩
      · rw [if_neg ha, if_neg ha]
        by_cases hm : cmd ∈ [cmdReqAreas, cmdReqDevices, cmdReqDashboards, cmdReqState, cmdCallService]
        · rw [if_pos hm, if_pos hm]
          refine ⟨(Traced.observed_bind_pure _ _).trans (sendPacket_entries _ _), ?_⟩
          cases hs : (self.sendPacket cmdAck .null).result with
          | ok _ =>
            rw [Traced.bind_ok _ hs]
            exact .inr ⟨cmd, _, rfl, rfl⟩
          | error e =>
            rw [Traced.bind_error _ hs]
            exact .inl ⟨rfl, fun _ _ h => Traced.not_completes_error _ _ h.2⟩
        · rw [if_neg hm, if_neg hm]
          exact ⟨last_entries.trans (sendPacket_entries _ _), .inl ⟨last_next, by simp⟩⟩

/-! ### Tasks -/

lemma finishService_entries (domain service data : Value) :
    (self.finishService domain service data).entries = [.packet cmdAnsCallService] ∨
      (self.finishService domain service data).entries = [.packet cmdAnsCallService, .packet cmdAnsCallService] ∧
        ¬ self.Reliable := by
  have hfailed (e : PyError) : (self.serviceFailed e).entries = [.packet cmdAnsCallService] := by
    obtain ⟨text, ht⟩ := self.serviceFailed_eq e
    rw [ht, sendPacket_entries]
  rw [finishService]
  cases hcall : self.hass.callService domain service data with
  | error e => exact .inl (hfailed e)
  | ok _ =>
    rw [Traced.lift_ok_bind]
    cases hsend : (self.sendPacket cmdAnsCallService (.dict [("success", .bool true)])).result with
    | ok _ =>
      rw [Traced.handle_ok _ hsend]
      exact .inl (sendPacket_entries _ _)
    | error e =>
      rw [Traced.handle_error _ hsend]
      refine .inr ⟨?_, fun hr => ?_⟩
      · have hfirst := @sendPacket_entries self cmdAnsCallService (.dict [("success", .bool true)])
        rw [Run.entries, Traced.observed] at hfirst
        rw [Run.entries, Traced.observed, List.filterMap_append, hfirst]
        exact congrArg (_ :: ·) (hfailed e)
      · have hok := (self.sendPacket_completes (v := .dict [("success", .bool true)]) hr (c := cmdAnsCallService)
          (by decide)).mpr ⟨rfl, by decide⟩
        obtain ⟨a, ha⟩ := hok
        cases ha.symm.trans hsend

lemma startService_entries (payload : Value) :
    (∃ domain service data,
        startService payload = ⟨[.service domain service data], .ok (.called domain service data)⟩) ∨
      ∃ e, startService payload = ⟨[], .error e⟩ := by
  rw [startService]
  cases payload.get "domain" (.str "") with
  | error e => exact .inr ⟨e, rfl⟩
  | ok domain => cases payload.get "service" (.str "") with
    | error e => exact .inr ⟨e, rfl⟩
    | ok service => cases payload.get "entity_id" .null with
      | error e => exact .inr ⟨e, rfl⟩
      | ok entityId => cases payload.get "data" (.dict []) with
        | error e => exact .inr ⟨e, rfl⟩
        | ok data =>
          simp only [Traced.lift_ok_bind]
          cases mergeEntityId entityId data with
          | error e => exact .inr ⟨e, rfl⟩
          | ok data => exact .inl ⟨domain, service, data, rfl⟩

lemma last_advances {lossy : Prop} {cmd answer : ℕ} (payload : Value) {x : Run Unit} (hx : x.entries = [.packet answer])
    (h : (cmd, answer) ∈ queryAnswers ∨ cmd = cmdReqState ∧ answer = cmdNack) :
    Advances lossy (.reply cmd payload) (x >>= fun _ => pure none : Run (Option Task)).entries
      (x >>= fun _ => pure none : Run (Option Task)).next := by
  rw [last_entries, last_next, hx]
  rcases h with h | ⟨rfl, rfl⟩
  · exact .answered payload h
  · exact .refused payload

lemma failed_advances (cmd : ℕ) (payload : Value) (e : PyError) :
    Advances (¬ Smooth self (⟨[], .error e⟩ : Run (Option Task))) (.reply cmd payload)
      (Run.entries (⟨[], .error e⟩ : Run Unit)) (Run.next ⟨[], .error e⟩) :=
  .failed cmd payload fun h => Traced.not_completes_error _ _ h.2

lemma advance_advances (task : Task) : Advances (¬ Smooth self (self.advance py task)) task
    (self.advance py task).entries (self.advance py task).next := by
  cases task with
  | push obj =>
    rw [advance, last_entries, last_next, sendPacket_entries]
    exact .pushed obj
  | called domain service data =>
    rw [advance, last_entries, last_next]
    rcases @finishService_entries self domain service data with h | ⟨h, hn⟩
    · rw [h]
      exact .reported domain service data
    · rw [h]
      exact .reportedAgain domain service data fun hs => hn hs.1
  | reply cmd payload =>
    rw [advance]
    split_ifs with h₁ h₂ h₃ h₄
    · subst h₁
      exact last_advances payload (sendPacket_entries _ _) (.inl (by decide))
    · subst h₂
      cases payload.get "area_id" .null with
      | error e => exact failed_advances _ _ e
      | ok areaId => exact last_advances payload (sendPacket_entries _ _) (.inl (by decide))
    · subst h₃
      exact last_advances payload (sendPacket_entries _ _) (.inl (by decide))
    · subst h₄
      cases payload.get "entity_id" (.str "") with
      | error e => exact failed_advances _ _ e
      | ok entityId =>
        rw [Traced.lift_ok_bind]
        have hreply : (self.handleReqState py entityId).entries =
            [.packet (self.hass.reply py (.state entityId)).1] := by
          rw [handleReqState_eq, sendPacket_entries]
        apply last_advances payload hreply
        rcases self.hass.reply_cmd py (.state entityId) with h | h
        · rw [h]
          exact .inl (by simp [queryAnswers, Query.answerCmd])
        · rw [h]
          exact .inr ⟨rfl, rfl⟩
    · have hcmd : cmd ∉ queryCmds := by simp [queryCmds, h₁, h₂, h₃, h₄]
      rcases startService_entries payload with ⟨domain, service, data, h⟩ | ⟨e, h⟩
      · rw [h]
        exact .started payload domain service data hcmd
      · rw [h]
        exact failed_advances _ _ e

end PacketDispatcher

/-! ### Runs -/

def Machine.init : Machine := ⟨.init, [], []⟩

def Machine.books (s : Machine) : List Entry := s.effects.filterMap Effect.entry

def judged (passcode : UInt32) : Moment × Input → Verdict
  | (_, .receive raw) => verdict passcode raw
  | (_, .resume _) | (_, .stateChanged _) | (_, .connected) | (_, .disconnected) => .ignored

def Calm (py : Library) (passcode : UInt32) (s : Machine) : Moment × Input → Prop
  | (m, .receive raw) =>
    Smooth ⟨m.hass, passcode, m.sendRaw⟩ (PacketDispatcher.acknowledge py ⟨m.hass, passcode, m.sendRaw⟩ raw)
  | (m, .resume i) => ∀ task ∈ s.tasks[i]?,
    Smooth ⟨m.hass, passcode, m.sendRaw⟩ (PacketDispatcher.advance py ⟨m.hass, passcode, m.sendRaw⟩ task)
  | (_, .stateChanged _) | (_, .connected) | (_, .disconnected) => True

/-- An account that no step takes further than the verdict on the packet received allows. -/
structure Covered (a : Account Entry Task) (lossy : Prop) (credit : Verdict → ℤ) : Prop where
  ignored : 0 ≤ credit .ignored
  refused : a.weigh (.packet cmdNack) ≤ credit .refused
  accepted : ∀ cmd ∈ requestCmds, ∀ payload,
    a.weigh (.packet cmdAck) + a.owe (.reply cmd payload) ≤ credit (.accepted cmd)
  lost : lossy → ∀ cmd ∈ requestCmds, a.weigh (.packet cmdAck) ≤ credit (.accepted cmd)
  pushes : ∀ obj, a.owe (.push obj) ≤ 0
  advances : ∀ task entries next, Advances lossy task entries next → a.balance entries next.toList ≤ a.owe task

structure Kept (a : Account Entry Task) (credit : Verdict → ℤ) : Prop where
  ignored : credit .ignored = 0
  refused : a.weigh (.packet cmdNack) = credit .refused
  accepted : ∀ cmd ∈ requestCmds, ∀ payload,
    a.weigh (.packet cmdAck) + a.owe (.reply cmd payload) = credit (.accepted cmd)
  pushes : ∀ obj, a.owe (.push obj) = 0
  advances : ∀ task entries next, Advances False task entries next → a.balance entries next.toList = a.owe task

lemma Advances.mono {lossy lossy' : Prop} (hl : lossy → lossy') {task : Task} {entries : List Entry}
    {next : Option Task} (h : Advances lossy task entries next) : Advances lossy' task entries next := by
  cases h with
  | failed cmd payload hlossy => exact .failed cmd payload (hl hlossy)
  | answered payload hm => exact .answered payload hm
  | refused payload => exact .refused payload
  | started payload domain service data hm => exact .started payload domain service data hm
  | reported domain service data => exact .reported domain service data
  | reportedAgain domain service data hlossy => exact .reportedAgain domain service data (hl hlossy)
  | pushed obj => exact .pushed obj

lemma Kept.covered {a : Account Entry Task} {credit : Verdict → ℤ} (h : Kept a credit) (howe : ∀ task, 0 ≤ a.owe task)
    (hagain : ∀ domain service data,
      2 * a.weigh (.packet cmdAnsCallService) ≤ a.owe (.called domain service data)) (lossy : Prop) :
    Covered a lossy credit where
  ignored := h.ignored.ge
  refused := h.refused.le
  accepted cmd hc payload := (h.accepted cmd hc payload).le
  lost _ cmd hc := by
    have hacc := h.accepted cmd hc .null
    have hpos := howe (.reply cmd .null)
    linarith
  pushes obj := (h.pushes obj).le
  advances task entries next hadv := by
    cases hadv with
    | failed cmd payload _ => exact howe _
    | answered payload hm => exact (h.advances _ _ _ (.answered payload hm)).le
    | refused payload => exact (h.advances _ _ _ (.refused payload)).le
    | started payload domain service data hm => exact (h.advances _ _ _ (.started payload domain service data hm)).le
    | reported domain service data => exact (h.advances _ _ _ (.reported domain service data)).le
    | reportedAgain domain service data _ =>
      refine le_trans (le_of_eq ?_) (hagain domain service data)
      simp [Account.balance, two_mul]
    | pushed obj => exact (h.advances _ _ _ (.pushed obj)).le

lemma Kept.covers {a : Account Entry Task} {credit : Verdict → ℤ} (h : Kept a credit) : Covered a False credit where
  ignored := h.ignored.ge
  refused := h.refused.le
  accepted cmd hc payload := (h.accepted cmd hc payload).le
  lost := False.elim
  pushes obj := (h.pushes obj).le
  advances task entries next hadv := (h.advances task entries next hadv).le

lemma Kept.covers_neg {a : Account Entry Task} {credit : Verdict → ℤ} (h : Kept a credit) :
    Covered (a.scale (-1)) False fun v => -1 * credit v where
  ignored := by simp [h.ignored]
  refused := le_of_eq (congrArg (-1 * ·) h.refused)
  accepted cmd hc payload := by
    rw [← h.accepted cmd hc payload, mul_add]
    rfl
  lost := False.elim
  pushes obj := le_of_eq ((congrArg (-1 * ·) (h.pushes obj)).trans (mul_zero _))
  advances task entries next hadv := by
    rw [a.balance_scale, h.advances task entries next hadv]
    rfl

lemma verdict_accepted {passcode : UInt32} {raw : Bytes} {cmd : ℕ} (h : verdict passcode raw = .accepted cmd) :
    cmd ∈ requestCmds := by
  rw [verdict] at h
  split at h
  · cases h
  · split_ifs at h with h₁ h₂ h₃
    obtain rfl := Verdict.accepted.inj h
    exact h₃

namespace Machine

variable {py : Library} {passcode : UInt32} {a : Account Entry Task} {lossy : Prop} {credit : Verdict → ℤ} {s : Machine}

lemma perform_balance (r : Run (Option Task)) : a.balance (s.perform r).books (s.perform r).tasks =
    a.balance s.books s.tasks + a.balance r.entries r.next.toList := by
  rw [← a.balance_append, perform, books, List.filterMap_append]
  rfl

lemma receive_balance (h : Covered a lossy credit) {self : PacketDispatcher} (raw : Bytes)
    (hs : lossy ∨ Smooth self (self.acknowledge py raw)) :
    a.balance (self.acknowledge py raw).entries (self.acknowledge py raw).next.toList ≤
      credit (verdict self.passcode raw) := by
  obtain ⟨hentries, hnext⟩ := @PacketDispatcher.acknowledge_verdict py self raw
  rw [hentries]
  rcases hnext with ⟨hnone, hlost⟩ | ⟨cmd, payload, hv, hnext⟩
  · rw [hnone]
    cases hv : verdict self.passcode raw with
    | ignored => exact h.ignored
    | refused => simpa [Account.balance, Verdict.entries] using h.refused
    | accepted cmd =>
      have hlossy : lossy := hs.resolve_right (hlost cmd hv)
      simpa [Account.balance, Verdict.entries] using h.lost hlossy cmd (verdict_accepted hv)
  · rw [hnext, hv]
    simpa [Account.balance, Verdict.entries] using h.accepted cmd (verdict_accepted hv) payload

lemma step_balance (h : Covered a lossy credit) (i : Moment × Input) (hs : lossy ∨ Calm py passcode s i) :
    a.balance (s.step py passcode i).books (s.step py passcode i).tasks ≤
      a.balance s.books s.tasks + credit (judged passcode i) := by
  obtain ⟨m, i⟩ := i
  cases i with
  | receive raw =>
    rw [step, perform_balance]
    exact (Int.add_le_add_iff_left _).mpr (@receive_balance py a lossy credit h ⟨m.hass, passcode, m.sendRaw⟩ raw hs)
  | resume i =>
    have hzero := h.ignored
    rw [step, judged]
    cases ht : s.tasks[i]? with
    | none => simpa using hzero
    | some task =>
      dsimp only
      rw [perform_balance]
      have hadvances : Advances lossy task _ _ :=
        (@PacketDispatcher.advance_advances py ⟨m.hass, passcode, m.sendRaw⟩ task).mono fun hn =>
          hs.resolve_right fun hc => hn (hc task ht)
      have hpaid := h.advances _ _ _ hadvances
      have herase := a.balance_eraseIdx s.books ht
      change a.balance s.books (s.tasks.eraseIdx i) + _ ≤ _
      linarith
  | stateChanged newState =>
    have hzero := h.ignored
    have hpushes (objs : List Value) : ((objs.map Task.push).map a.owe).sum ≤ 0 := by
      induction objs with
      | nil => rfl
      | cons obj objs ih =>
        have hobj := h.pushes obj
        simp only [List.map_cons, List.sum_cons]
        linarith
    have hadded := hpushes (s.link.stateChanged m.hass newState)
    rw [step, judged]
    simp only [Account.balance, books, List.map_append, List.sum_append]
    linarith
  | connected | disconnected =>
    have hzero := h.ignored
    rw [step, judged]
    change a.balance s.books s.tasks ≤ _
    linarith

lemma run_balance (h : Covered a lossy credit) {ms : List (Moment × Input)}
    (hs : lossy ∨ Admits (Machine.step py passcode) (Calm py passcode) init ms) :
    a.balance (init.run py passcode ms).books (init.run py passcode ms).tasks ≤
      (ms.map fun i => credit (judged passcode i)).sum := by
  have hrun : Admits (Machine.step py passcode) (fun s i => lossy ∨ Calm py passcode s i) init ms := by
    rcases hs with hlossy | hcalm
    · exact Admits.always (fun _ _ => .inl hlossy) ms
    · exact hcalm.mono fun _ _ => .inr
  have hle := hrun.balance_le (fun s => a.balance s.books s.tasks) (fun i => credit (judged passcode i))
    fun s i hi => step_balance h i hi
  exact hle.trans_eq (zero_add _)

end Machine

/-! ### The accounts -/

section

variable {py : Library} {passcode : UInt32} {a : Account Entry Task} {credit : Verdict → ℤ} {ms : List (Moment × Input)}

lemma Kept.run_eq (h : Kept a credit) (hs : Admits (Machine.step py passcode) (Calm py passcode) .init ms) :
    a.balance (Machine.init.run py passcode ms).books (Machine.init.run py passcode ms).tasks =
      (ms.map fun i => credit (judged passcode i)).sum := by
  have hle := Machine.run_balance h.covers (.inr hs)
  have hge := Machine.run_balance h.covers_neg (.inr hs)
  rw [a.balance_scale, List.sum_map_mul_left] at hge
  linarith

end

def Task.waits (cmd : ℕ) : Task → Bool
  | .reply c _ => c == cmd
  | .called _ _ _ | .push _ => false

def Task.waitsForService : Task → Bool
  | .reply c _ => c ∉ queryCmds
  | .called _ _ _ | .push _ => false

def Task.runs : Task → Bool
  | .called _ _ _ => true
  | .reply _ _ | .push _ => false

def replies : List (ℕ × List ℕ) :=
  [(cmdReqAreas, [cmdAnsAreas]), (cmdReqDevices, [cmdAnsDevices]), (cmdReqDashboards, [cmdAnsDashboards]),
    (cmdReqState, [cmdAnsState, cmdNack])]

def Entry.among (cmds : List ℕ) : Entry → Bool
  | .packet cmd => cmd ∈ cmds
  | .service => false

def Verdict.calls (cmd : ℕ) (cmds : List ℕ) : Verdict → Bool
  | .ignored => false
  | .refused => cmdNack ∈ cmds
  | .accepted c => c == cmd

def Verdict.isAccepted : Verdict → Bool
  | .accepted _ => true
  | .ignored | .refused => false

def Verdict.isRefused : Verdict → Bool
  | .refused => true
  | .ignored | .accepted _ => false

def Entry.isService : Entry → Bool
  | .packet _ => false
  | .service => true

lemma replies_answers : ∀ p ∈ queryAnswers, ∀ r ∈ replies, p.2 ∈ r.2 ↔ p.1 = r.1 := by decide

lemma replies_nack : ∀ r ∈ replies, cmdNack ∈ r.2 ↔ cmdReqState = r.1 := by decide

lemma replies_others : ∀ r ∈ replies,
    r.1 ∈ queryCmds ∧ cmdAck ∉ r.2 ∧ cmdAnsCallService ∉ r.2 ∧ cmdStateChange ∉ r.2 := by
  decide

section

open Account

lemma balance_one (a : Account Entry Task) (entry : Entry) : a.balance [entry] [] = a.weigh entry := by simp [balance]

lemma replies_kept {cmd : ℕ} {cmds : List ℕ} (h : (cmd, cmds) ∈ replies) :
    Kept (counting (Entry.among cmds) (Task.waits cmd)) fun v => if v.calls cmd cmds then 1 else 0 := by
  obtain ⟨hquery, hack, hcall, hpush⟩ := replies_others _ h
  refine ⟨rfl, rfl, fun c _ payload => ?_, fun obj => rfl, fun task entries next hadv => ?_⟩
  · simp [counting, Entry.among, Task.waits, Verdict.calls, hack]
  · cases hadv with
    | failed _ _ hf => exact hf.elim
    | answered payload hm =>
      have hiff := replies_answers _ hm _ h
      simp [balance_one, counting, Entry.among, Task.waits, hiff]
    | refused payload =>
      have hiff := replies_nack _ h
      simp [balance_one, counting, Entry.among, Task.waits, hiff]
    | @started c payload domain service data hm =>
      have hne : c ≠ cmd := fun hc => hm (hc ▸ hquery)
      simp [balance, counting, Entry.among, Task.waits, hne]
    | reported domain service data => simp [balance_one, counting, Entry.among, Task.waits, hcall]
    | reportedAgain _ _ _ hf => exact hf.elim
    | pushed obj => simp [balance_one, counting, Entry.among, Task.waits, hpush]

lemma services_kept : Kept (counting Entry.isService Task.waitsForService) fun v =>
    if v.calls cmdCallService [] then 1 else 0 := by
  have hcall : ∀ c ∈ requestCmds, c ∉ queryCmds ↔ c = cmdCallService := by decide
  have hanswers : ∀ p ∈ queryAnswers, p.1 ∈ queryCmds := by decide
  have hstate : cmdReqState ∈ queryCmds := by decide
  refine ⟨rfl, rfl, fun c hc payload => ?_, fun obj => rfl, fun task entries next hadv => ?_⟩
  · simp [counting, Entry.isService, Task.waitsForService, Verdict.calls, hcall c hc]
  · cases hadv with
    | failed _ _ hf => exact hf.elim
    | answered payload hm => simp [balance_one, counting, Entry.isService, Task.waitsForService, hanswers _ hm]
    | refused payload => simp [balance_one, counting, Entry.isService, Task.waitsForService, hstate]
    | started payload domain service data hm => simp [balance, counting, Entry.isService, Task.waitsForService, hm]
    | reported domain service data => simp [balance_one, counting, Entry.isService, Task.waitsForService]
    | reportedAgain _ _ _ hf => exact hf.elim
    | pushed obj => simp [balance_one, counting, Entry.isService, Task.waitsForService]

def reporting : Account Entry Task :=
  (counting (Entry.among [cmdAnsCallService]) Task.runs).sub (counting Entry.isService fun _ => false)

lemma reporting_kept : Kept reporting fun _ => 0 := by
  have hanswers : ∀ p ∈ queryAnswers, p.2 ≠ cmdAnsCallService := by decide
  refine ⟨rfl, rfl, fun c hc payload => rfl, fun obj => rfl, fun task entries next hadv => ?_⟩
  cases hadv with
  | failed _ _ hf => exact hf.elim
  | answered payload hm =>
    simp [balance_one, reporting, sub, counting, Entry.among, Entry.isService, Task.runs, hanswers _ hm]
  | refused payload => rfl
  | started payload domain service data hm => rfl
  | reported domain service data => rfl
  | reportedAgain _ _ _ hf => exact hf.elim
  | pushed obj => rfl

def reportingTwice : Account Entry Task :=
  ((counting (Entry.among [cmdAnsCallService]) fun _ => false).sub
    ((counting Entry.isService fun _ => false).scale 2)).sub ((counting (fun _ => false) Task.runs).scale (-2))

lemma reportingTwice_covered : Covered reportingTwice True fun _ => 0 := by
  have hanswers : ∀ p ∈ queryAnswers, p.2 ≠ cmdAnsCallService := by decide
  refine ⟨le_refl _, le_refl _, fun c hc payload => le_refl _, fun _ _ _ => le_refl _, fun obj => le_refl _,
    fun task entries next hadv => ?_⟩
  cases hadv with
  | failed cmd payload _ => exact le_refl _
  | answered payload hm =>
    simp [balance_one, reportingTwice, sub, scale, counting, Entry.among, Entry.isService, Task.runs, hanswers _ hm]
  | refused payload => exact le_refl _
  | started payload domain service data hm => exact le_refl _
  | reported domain service data => exact (by decide : (1 : ℤ) ≤ 2)
  | reportedAgain domain service data _ => exact le_refl _
  | pushed obj => exact le_refl _

lemma acks_kept : Kept (counting (Entry.among [cmdAck]) fun _ => false) fun v => if v.isAccepted then 1 else 0 := by
  have hanswers : ∀ p ∈ queryAnswers, p.2 ≠ cmdAck := by decide
  refine ⟨rfl, rfl, fun c _ payload => rfl, fun obj => rfl, fun task entries next hadv => ?_⟩
  cases hadv with
  | failed _ _ hf => exact hf.elim
  | answered payload hm => simp [balance_one, counting, Entry.among, hanswers _ hm]
  | refused payload => rfl
  | started payload domain service data hm => rfl
  | reported domain service data => rfl
  | reportedAgain _ _ _ hf => exact hf.elim
  | pushed obj => rfl

lemma acks_covered_neg :
    Covered ((counting (Entry.among [cmdAck]) fun _ => false).scale (-1)) True fun v =>
      -1 * if v.isAccepted then 1 else 0 := by
  have h := acks_kept.covers_neg
  refine ⟨h.ignored, h.refused, h.accepted, fun _ c _ => le_refl _, h.pushes, fun task entries next hadv => ?_⟩
  cases hadv with
  | failed cmd payload _ => exact le_refl _
  | answered payload hm => exact h.advances _ _ _ (.answered payload hm)
  | refused payload => exact le_refl _
  | started payload domain service data hm => exact le_refl _
  | reported domain service data => exact le_refl _
  | reportedAgain domain service data _ => exact le_refl _
  | pushed obj => exact le_refl _

lemma nacks_covered_neg :
    Covered ((counting (Entry.among [cmdNack]) fun _ => false).scale (-1)) True fun v =>
      -1 * if v.isRefused then 1 else 0 := by
  have hanswers : ∀ p ∈ queryAnswers, p.2 ≠ cmdNack := by decide
  refine ⟨le_refl _, le_refl _, fun c _ payload => le_refl _, fun _ c _ => le_refl _, fun obj => le_refl _,
    fun task entries next hadv => ?_⟩
  cases hadv with
  | failed cmd payload _ => exact le_refl _
  | answered payload hm => simp [balance_one, scale, counting, Entry.among, hanswers _ hm]
  | refused payload => exact (by decide : (-1 : ℤ) ≤ 0)
  | started payload domain service data hm => exact le_refl _
  | reported domain service data => exact le_refl _
  | reportedAgain domain service data _ => exact le_refl _
  | pushed obj => exact le_refl _

end

section

variable {py : Library} {passcode : UInt32} {ms : List (Moment × Input)} {p : Entry → Bool} {q : Task → Bool}
  {c : Verdict → Bool}

lemma count_le (h : Covered (.counting p q) True fun v => if c v then 1 else 0) :
    (Machine.init.run py passcode ms).books.countP p + (Machine.init.run py passcode ms).tasks.countP q ≤
      ms.countP fun i => c (judged passcode i) := by
  have hle := @Machine.run_balance py passcode _ _ _ h ms (.inl trivial)
  rw [Account.balance_counting, sum_indicator] at hle
  exact_mod_cast hle

lemma count_ge (h : Covered ((Account.counting p fun _ => false).scale (-1)) True fun v => -1 * if c v then 1 else 0) :
    (ms.countP fun i => c (judged passcode i)) ≤ (Machine.init.run py passcode ms).books.countP p := by
  have hge := @Machine.run_balance py passcode _ _ _ h ms (.inl trivial)
  rw [Account.balance_scale, Account.balance_counting, List.sum_map_mul_left, sum_indicator, List.countP_false] at hge
  have hle : (ms.countP fun i => c (judged passcode i) : ℤ) ≤ (Machine.init.run py passcode ms).books.countP p := by
    simpa using hge
  exact_mod_cast hle

lemma count_eq (h : Kept (.counting p q) fun v => if c v then 1 else 0)
    (hs : Admits (Machine.step py passcode) (Calm py passcode) .init ms) :
    (Machine.init.run py passcode ms).books.countP p + (Machine.init.run py passcode ms).tasks.countP q =
      ms.countP fun i => c (judged passcode i) := by
  have heq := h.run_eq hs
  rw [Account.balance_counting, sum_indicator] at heq
  exact_mod_cast heq

end

example :
    let moment : Moment := ⟨.empty, fun _ => .ok ()⟩
    let s := Machine.init.run .ascii 1 [(moment, .receive PacketDispatcher.askAreas),
      (moment, .receive PacketDispatcher.askAreas), (moment, .resume 0)]
    s.books = [.packet cmdAck, .packet cmdAck, .packet cmdAnsAreas] ∧ s.tasks.countP (Task.waits cmdReqAreas) = 1 := by
  decide +kernel

end HaBluetooth.Dispatcher
