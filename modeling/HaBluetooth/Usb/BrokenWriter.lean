import HaBluetooth.Usb.ReaderLoop
import HaBluetooth.Usb.WriteWorker

/-! One bridge after the other, each with its reader loop and its write worker. The bridge ends when the
reader loop does, and nobody tells it that the worker has left. -/

namespace HaBluetooth.Usb

open Python Protocol Support

structure Bridges where
  session : WriteSession
  reading : Bool

/-- `send` is a call of `_send_raw`, by a handler of the reader loop or by anybody else. -/
inductive BridgeInput
  | opened
  | send (data : Bytes)
  | work (write : Result Unit)
  | readerRaised

namespace Bridges

def init : Bridges := ⟨⟨⟨none⟩, false, [], []⟩, false⟩

def step (s : Bridges) : BridgeInput → Bridges
  | .opened => if s.reading then s else ⟨WriteSession.init.send restartAdv, true⟩
  | .send data => { s with session := s.session.send data }
  | .work write => { s with session := s.session.work write }
  | .readerRaised => if s.reading then ⟨s.session.leave ⟨none⟩, false⟩ else s

def run (s : Bridges) (inputs : List BridgeInput) : Bridges := inputs.foldl step s

def Accepts (s : Bridges) : Prop := ∃ queue, s.session.server.writeQueue = some queue ∧ queue.items.length < 64

def Served (s : Bridges) : Prop := s.Accepts → s.reading = true → s.session.working = true

def Breaks (s : Bridges) (i : BridgeInput) : Prop :=
  s.session.working = true ∧ s.session.server.queued ≠ [] ∧ ∃ e, i = .work (.error e)

end Bridges

/-! ### The session of one bridge -/

structure WriteSession.Open (s : WriteSession) : Prop where
  queue : s.server.writeQueue.isSome
  -- nobody puts the `None` that stops the worker
  frames : none ∉ s.server.queued

namespace WriteSession

variable {s : WriteSession}

lemma init_open : init.Open := ⟨rfl, by simp [init, UsbServer.queued, BoundedQueue.empty]⟩

lemma send_working (data : Bytes) : (s.send data).working = s.working := by
  rw [send]
  split
  · rfl
  · split <;> rfl

lemma send_open (h : s.Open) (data : Bytes) : (s.send data).Open := by
  rw [send]
  split
  · exact h
  · next server hsend =>
    have hopen : server.writeQueue.isSome ∧ none ∉ server.queued := by
      rcases UsbServer.sendRaw_cases hsend with rfl | ⟨frame, -, hq⟩
      · exact ⟨h.queue, h.frames⟩
      · refine ⟨?_, by simpa [hq] using h.frames⟩
        by_contra hnone
        rw [Option.not_isSome_iff_eq_none] at hnone
        simp [UsbServer.queued, hnone] at hq
    split
    · exact ⟨hopen.1, hopen.2⟩
    · exact ⟨hopen.1, hopen.2⟩

lemma work_cases (h : s.Open) (write : Result Unit) :
    s.work write = s ∧ (s.working = false ∨ s.server.queued = []) ∨
      ∃ frame queue, s.working = true ∧ s.server.queued = some frame :: queue.items ∧
        (write = .ok () ∧ s.work write = { s with server := ⟨some queue⟩, written := s.written ++ frame } ∨
          (∃ e, write = .error e) ∧ s.work write = s.leave ⟨some queue⟩) := by
  rw [work]
  cases hw : s.working with
  | false => exact .inl ⟨rfl, .inl rfl⟩
  | true =>
    rw [if_pos rfl]
    cases hget : s.server.writeQueue.bind BoundedQueue.get with
    | none =>
      obtain ⟨queue, hq⟩ := Option.isSome_iff_exists.mp h.queue
      rw [hq] at hget
      refine .inl ⟨rfl, .inr ?_⟩
      rw [UsbServer.queued, hq]
      exact BoundedQueue.get_eq_none.mp hget
    | some taken =>
      obtain ⟨item, queue⟩ := taken
      have hqueued := UsbServer.queued_get hget
      cases item with
      | none => exact (h.frames (hqueued ▸ List.mem_cons_self)).elim
      | some frame =>
        refine .inr ⟨frame, queue, rfl, hqueued, ?_⟩
        cases write with
        | ok => exact .inl ⟨rfl, rfl⟩
        | error e => exact .inr ⟨⟨e, rfl⟩, rfl⟩

lemma work_open (h : s.Open) (write : Result Unit) : (s.work write).Open := by
  rcases work_cases h write with ⟨hs, -⟩ | ⟨frame, queue, -, hq, hs⟩
  · rwa [hs]
  · have hframes : none ∉ queue.items := fun hn => h.frames (hq ▸ List.mem_cons_of_mem _ hn)
    rcases hs with ⟨-, hs⟩ | ⟨-, hs⟩
    · rw [hs]
      exact ⟨rfl, hframes⟩
    · rw [hs]
      exact ⟨rfl, hframes⟩

end WriteSession

/-! ### Runs of bridges -/

namespace Bridges

variable {s : Bridges}

structure Consistent (s : Bridges) : Prop where
  up : s.reading = true → s.session.Open
  down : s.reading = false → s.session.server.writeQueue = none ∧ s.session.working = false

lemma init_consistent : init.Consistent := ⟨nofun, fun _ => ⟨rfl, rfl⟩⟩

lemma consistent_working (h : s.Consistent) (hw : s.session.working = true) : s.reading = true := by
  by_contra hr
  have hdown := (h.down (Bool.eq_false_iff.mpr hr)).2
  rw [hw] at hdown
  cases hdown

lemma step_consistent (s : Bridges) (i : BridgeInput) (h : s.Consistent) : (s.step i).Consistent := by
  cases i with
  | opened =>
    rw [step]
    split
    · exact h
    · refine ⟨fun _ => WriteSession.send_open WriteSession.init_open restartAdv, fun hr => ?_⟩
      cases hr
  | send data =>
    refine ⟨fun hr => WriteSession.send_open (h.up hr) data, fun hr => ?_⟩
    obtain ⟨hqueue, hw⟩ := h.down hr
    rw [step, WriteSession.send, UsbServer.sendRaw, hqueue]
    simp [hqueue, hw]
  | work write =>
    refine ⟨fun hr => WriteSession.work_open (h.up hr) write, fun hr => ?_⟩
    obtain ⟨hqueue, hw⟩ := h.down hr
    rw [step, WriteSession.work, hw]
    exact ⟨hqueue, hw⟩
  | readerRaised =>
    rw [step]
    split
    · refine ⟨fun hr => ?_, fun _ => ⟨rfl, rfl⟩⟩
      cases hr
    · exact h

lemma step_working (s : Bridges) (i : BridgeInput) (hc : s.Consistent) (h : s.reading = true → s.session.working = true)
    (hi : ¬ s.Breaks i) : (s.step i).reading = true → (s.step i).session.working = true := by
  cases i with
  | opened =>
    rw [step]
    split
    · exact h
    · exact fun _ => WriteSession.send_working restartAdv
  | send data =>
    intro hr
    exact (WriteSession.send_working data).trans (h hr)
  | work write =>
    intro hr
    rcases WriteSession.work_cases (hc.up hr) write with ⟨hs, -⟩ | ⟨frame, queue, hw, hq, hs⟩
    · rw [step, hs]
      exact h hr
    · rcases hs with ⟨-, hs⟩ | ⟨⟨e, rfl⟩, -⟩
      · rw [step, hs]
        exact hw
      · exact (hi ⟨hw, by simp [hq], e, rfl⟩).elim
  | readerRaised =>
    rw [step]
    split
    · exact nofun
    · exact h

lemma breaks_dead (hc : s.Consistent) {i : BridgeInput} (hi : s.Breaks i) : ¬ (s.step i).Served := by
  obtain ⟨hw, hne, e, rfl⟩ := hi
  have hr := consistent_working hc hw
  rcases WriteSession.work_cases (hc.up hr) (.error e) with ⟨-, hidle⟩ | ⟨frame, queue, -, hq, hs⟩
  · exact (hidle.elim (by simp [hw]) hne).elim
  · have hroom : queue.items.length < 64 := by
      have hbound : s.session.server.queued.length ≤ 64 := by
        rw [UsbServer.queued]
        cases s.session.server.writeQueue with
        | none => exact Nat.zero_le 64
        | some queue => exact queue.bounded
      rwa [hq] at hbound
    rcases hs with ⟨hok, -⟩ | ⟨-, hleave⟩
    · cases hok
    · intro hserved
      rw [Served, step, hleave] at hserved
      have hworking := hserved ⟨queue, rfl, hroom⟩ hr
      cases hworking

lemma run_consistent (inputs : List BridgeInput) : (init.run inputs).Consistent :=
  Runs.preserved Consistent step_consistent init_consistent inputs

theorem queue_served_iff (inputs : List BridgeInput) :
    (∀ before after, inputs = before ++ after → (init.run before).Served) ↔
      ∀ before i after, inputs = before ++ i :: after → ¬ (init.run before).Breaks i := by
  constructor
  · intro h before i after hi hbreaks
    have hserved := h (before ++ [i]) after (by simp [hi])
    rw [run, List.foldl_append] at hserved
    exact breaks_dead (run_consistent before) hbreaks hserved
  · intro h before after hi
    have hsound : (init.run before).Consistent ∧
        ((init.run before).reading = true → (init.run before).session.working = true) := by
      refine @Runs.guarded _ _ step init (fun s => s.Consistent ∧ (s.reading = true → s.session.working = true))
        (fun s i => ¬ s.Breaks i) (fun s i hs hni => ⟨step_consistent s i hs.1, step_working s i hs.1 hs.2 hni⟩)
        ⟨init_consistent, nofun⟩ before fun pre i post hpre => ?_
      exact h pre i (post ++ after) (by simp [hi, hpre])
    exact fun _ => hsound.2

def portGone : PyError := ⟨.other "OSError", "[Errno 5] Input/output error"⟩

theorem dead_queue_accepts :
    ¬ ∀ before after, [.opened, .work (.error portGone)] = before ++ after → (init.run before).Served := by
  intro h
  have hbreaks : (init.run [.opened]).Breaks (.work (.error portGone)) :=
    ⟨by decide +kernel, by decide +kernel, portGone, rfl⟩
  exact breaks_dead (run_consistent [.opened]) hbreaks (h [.opened, .work (.error portGone)] [] rfl)

end Bridges

end HaBluetooth.Usb
