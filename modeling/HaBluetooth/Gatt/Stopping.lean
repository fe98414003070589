import HaBluetooth.Gatt.DisconnectDetector
import HaBluetooth.Gatt.TxWorker
import HaBluetooth.Support.Refinement
import HaBluetooth.Support.Runs

/-! `stop()` up to the point where its `put(None)` has gone through. -/

namespace HaBluetooth.Gatt

open Python Protocol Support

inductive PutNone
  | notCalled
  | putting
  | done
  deriving DecidableEq, Repr

structure Shutdown where
  gatt : GattServer
  -- the worker and the detector, once `_run` has come that far
  loops : Option (TxWorker × Detector)
  put : PutNone

inductive ShutdownInput
  | created
  | startLoops
  | setupFailed
  | write (value : Bytes)
  | send (data : Bytes)
  | tx (u : Update)
  | poll (devices : Option (List String))
  | stop
  | putResumed

namespace Shutdown

def init : Shutdown := ⟨GattServer.init.start, none, .notCalled⟩

def putNone (s : Shutdown) : Shutdown :=
  match s.gatt.txQueue.put none with
  | some queue => { s with gatt := { s.gatt with txQueue := queue }, put := .done }
  | none => { s with put := .putting }

def step (s : Shutdown) : ShutdownInput → Shutdown
  | .created => { s with gatt := { s.gatt with server := true } }
  | .startLoops =>
    match s.loops with
    | none => { s with loops := some (s.gatt.nextRound, s.gatt.nextPoll []) }
    | some _ => s
  | .setupFailed =>
    match s.loops with
    | none => { s with loops := some (.ended, .ended) }
    | some _ => s
  | .write value => { s with gatt := s.gatt.handleWrite value }
  | .send data => { s with gatt := (s.gatt.sendFrame data).1 }
  | .tx u =>
    match s.loops with
    | none => s
    | some (worker, detector) =>
      let (gatt, worker, _) := s.gatt.resume u worker
      { s with gatt := gatt, loops := some (worker, detector) }
  | .poll devices =>
    match s.loops with
    | none => s
    | some (worker, detector) =>
      let (gatt, detector) := s.gatt.detect devices detector
      { s with gatt := gatt, loops := some (worker, detector) }
  | .stop => if s.put = .notCalled then { s with gatt := { s.gatt with running := false } }.putNone else s
  | .putResumed => if s.put = .putting then s.putNone else s

def run (s : Shutdown) (inputs : List ShutdownInput) : Shutdown := inputs.foldl step s

def Deadlocked (s : Shutdown) : Prop :=
  s.put = .putting ∧ s.gatt.txQueue.items.length = 256 ∧ s.loops = some (.ended, .ended)

instance (s : Shutdown) : Decidable s.Deadlocked := inferInstanceAs (Decidable (_ ∧ _))

def Getting (s : Shutdown) : Prop := ∃ detector, s.loops = some (.getting, detector)

instance (s : Shutdown) : Decidable s.Getting :=
  decidable_of_iff (s.loops.map Prod.fst = some .getting) (by simp [Getting, Option.map_eq_some_iff])

/-- stop() begins with a free slot or with the worker waiting for an item, and while it waits for a slot with the
worker gone from there no frame takes the last one. -/
def Admits (s : Shutdown) : ShutdownInput → Prop
  | .stop => s.put = .notCalled → s.gatt.txQueue.items.length < 256 ∨ s.Getting
  | .send data => s.put = .putting → ¬ s.Getting → s.gatt.connected = true → s.gatt.server = true →
      s.gatt.txQueue.items.length + chunkCount data < 256
  | .created | .startLoops | .setupFailed | .write _ | .tx _ | .poll _ | .putResumed => True

instance (s : Shutdown) : (i : ShutdownInput) → Decidable (s.Admits i)
  | .stop => inferInstanceAs (Decidable (_ → _))
  | .send _ => inferInstanceAs (Decidable (_ → _))
  | .created | .startLoops | .setupFailed | .write _ | .tx _ | .poll _ | .putResumed => isTrue trivial

def Relieved (s : Shutdown) : Prop := s.put = .putting → s.gatt.txQueue.items.length < 256 ∨ s.Getting

end Shutdown

/-! ### What becomes of the queue -/

namespace GattServer

variable {s : GattServer}

lemma markDisconnected_length : s.markDisconnected.txQueue.items.length ≤ s.txQueue.items.length := by
  cases hc : s.connected with
  | false => rw [s.markDisconnected_offline hc]
  | true => simp [(s.markDisconnected_online hc).2]

lemma sendFrame_length (data : Bytes) :
    (s.sendFrame data).1.txQueue.items.length ≤ s.txQueue.items.length + chunkCount data := by
  by_cases hon : s.connected = true ∧ s.server = true
  · rw [s.sendFrame_online data hon.1 hon.2]
    simp [BoundedQueue.putAll_items, length_encodeChunks]
  · rw [s.sendFrame_offline data hon]
    exact Nat.le_add_right _ _

lemma detect_length (devices : Option (List String)) (d : Detector) :
    (s.detect devices d).1.txQueue.items.length ≤ s.txQueue.items.length := by
  cases d with
  | ended | sleeping => exact le_rfl
  | polling prev =>
    rw [detect]
    dsimp only
    split
    · exact markDisconnected_length
    · exact le_rfl

lemma resume_length (u : Update) (w : TxWorker) :
    (s.resume u w).1.txQueue.items.length ≤ s.txQueue.items.length := by
  rcases s.resume_cases w u with ⟨hs, -⟩ | ⟨item, queue, hq, -, hs | ⟨-, hs⟩⟩
  · rw [hs]
  · rw [hs, hq]
    exact Nat.le_succ _
  · rw [hs, hq]
    exact markDisconnected_length.trans (Nat.le_succ _)

lemma transmit_length (chunk : Bytes) (u : Update) :
    (s.transmit chunk u).1.txQueue.items.length ≤ s.txQueue.items.length := by
  cases u with
  | noCharacteristic | raised => exact le_rfl
  | returned result =>
    rw [transmit]
    dsimp only
    split
    · exact markDisconnected_length
    · exact le_rfl

lemma resume_takes (u : Update) : (s.resume u .getting).1.txQueue.items.length < 256 := by
  rw [resume]
  cases hget : s.txQueue.get with
  | none =>
    have hitems : s.txQueue.items = [] := BoundedQueue.get_eq_none.mp hget
    simp [hitems]
  | some taken =>
    obtain ⟨item, queue⟩ := taken
    have hroom : queue.items.length < 256 := (BoundedQueue.get_length hget).trans_le s.txQueue.bounded
    cases item with
    | none => exact hroom
    | some chunk =>
      dsimp only
      split
      · exact hroom
      · exact (transmit_length chunk u).trans_lt hroom

end GattServer

namespace Shutdown

variable {s : Shutdown}

lemma putNone_relieved (h : s.gatt.txQueue.items.length < 256 ∨ s.Getting) : s.putNone.Relieved := by
  rw [putNone]
  cases hput : s.gatt.txQueue.put none with
  | some queue => exact nofun
  | none =>
    refine fun _ => .inr (h.resolve_left ?_)
    rw [BoundedQueue.put_eq_none.mp hput]
    exact lt_irrefl 256

lemma send_relieved (h : s.Relieved) {data : Bytes} (hi : s.Admits (.send data)) : (s.step (.send data)).Relieved := by
  intro hp
  by_cases hg : s.Getting
  · exact .inr hg
  · left
    by_cases hon : s.gatt.connected = true ∧ s.gatt.server = true
    · exact (GattServer.sendFrame_length data).trans_lt (hi hp hg hon.1 hon.2)
    · rw [step, s.gatt.sendFrame_offline data hon]
      exact (h hp).resolve_right hg

lemma tx_relieved (h : s.Relieved) (u : Update) : (s.step (.tx u)).Relieved := by
  rw [step]
  cases hl : s.loops with
  | none => exact h
  | some loops =>
    obtain ⟨worker, detector⟩ := loops
    intro hp
    left
    by_cases hw : worker = .getting
    · subst hw
      exact GattServer.resume_takes u
    · refine (GattServer.resume_length u worker).trans_lt ((h hp).resolve_right ?_)
      rintro ⟨d, hg⟩
      exact hw (Prod.mk.inj (Option.some.inj (hl.symm.trans hg))).1

lemma poll_relieved (h : s.Relieved) (devices : Option (List String)) : (s.step (.poll devices)).Relieved := by
  rw [step]
  cases hl : s.loops with
  | none => exact h
  | some loops =>
    obtain ⟨worker, detector⟩ := loops
    intro hp
    refine (h hp).imp (GattServer.detect_length devices detector).trans_lt ?_
    rintro ⟨d, hg⟩
    obtain ⟨rfl, rfl⟩ := Prod.mk.inj (Option.some.inj (hl.symm.trans hg))
    exact ⟨_, rfl⟩

lemma step_relieved (s : Shutdown) (i : ShutdownInput) (h : s.Relieved) (hi : s.Admits i) : (s.step i).Relieved := by
  cases i with
  | created => exact h
  | startLoops | setupFailed =>
    rw [step]
    cases hl : s.loops with
    | some loops => exact h
    | none =>
      intro hp
      refine .inl ((h hp).resolve_right ?_)
      rintro ⟨detector, hg⟩
      simp [hl] at hg
  | write value =>
    obtain ⟨connected, rxBuf, loop, hw, -⟩ := s.gatt.handleWrite_frame value
    rw [step, hw]
    exact h
  | send data => exact send_relieved h hi
  | tx u => exact tx_relieved h u
  | poll devices => exact poll_relieved h devices
  | stop =>
    rw [step]
    split
    · next hp => exact putNone_relieved (hi hp)
    · exact h
  | putResumed =>
    rw [step]
    split
    · next hp => exact putNone_relieved (h hp)
    · exact h

lemma deadlock_persists (h : s.Deadlocked) (i : ShutdownInput) : (s.step i).Deadlocked := by
  obtain ⟨hp, hfull, hloops⟩ := h
  cases i with
  | created => exact ⟨hp, hfull, hloops⟩
  | startLoops | setupFailed =>
    rw [step, hloops]
    exact ⟨hp, hfull, hloops⟩
  | write value =>
    obtain ⟨connected, rxBuf, loop, hw, -⟩ := s.gatt.handleWrite_frame value
    rw [step, hw]
    exact ⟨hp, hfull, hloops⟩
  | send data =>
    obtain ⟨-, more, hmore⟩ := s.gatt.sendFrame_appends data
    refine ⟨hp, le_antisymm (s.gatt.sendFrame data).1.txQueue.bounded ?_, hloops⟩
    rw [step, hmore, List.length_append, hfull]
    exact Nat.le_add_right _ _
  | tx | poll =>
    rw [step, hloops]
    exact ⟨hp, hfull, rfl⟩
  | stop =>
    rw [step, if_neg (by simp [hp])]
    exact ⟨hp, hfull, hloops⟩
  | putResumed =>
    rw [step, if_pos hp, putNone, BoundedQueue.put_eq_none.mpr hfull]
    exact ⟨rfl, hfull, hloops⟩

theorem stop_not_deadlocked {inputs : List ShutdownInput}
    (h : ∀ before i after, inputs = before ++ i :: after → (init.run before).Admits i) :
    ¬ (init.run inputs).Deadlocked := by
  have hrelieved : (init.run inputs).Relieved := Runs.guarded Relieved step_relieved (fun hp => by cases hp) h
  rintro ⟨hp, hfull, hloops⟩
  rcases hrelieved hp with hroom | ⟨detector, hg⟩
  · exact absurd hfull hroom.ne
  · simp [hloops] at hg

def fullQueue : List ShutdownInput :=
  [.created, .startLoops, .write [0x01]] ++ List.replicate 256 (.send [0x41])

/-- The worker waits for an item when stop() finds the queue full. -/
theorem stop_not_deadlocked_full_queue :
    ¬ (init.run (fullQueue ++
        [.stop, .tx (.returned true), .putResumed, .tx (.returned true), .poll none])).Deadlocked ∧
      (init.run (fullQueue ++ [.stop])).put = .putting ∧
      (init.run (fullQueue ++ [.stop, .tx (.returned true), .putResumed])).put = .done := by
  have hadmits : Support.Admits step Admits init
      (fullQueue ++ [.stop, .tx (.returned true), .putResumed, .tx (.returned true), .poll none]) := by decide +kernel
  refine ⟨stop_not_deadlocked fun before i after h => ?_, by decide +kernel, by decide +kernel⟩
  rw [h] at hadmits
  exact hadmits.split

/-- The worker sleeps after a chunk while the queue is filled. stop() waits for a slot, and the worker does not
come back to the queue. -/
theorem full_queue_deadlocks : (init.run ([.created, .startLoops, .write [0x01], .send [0x41], .tx (.returned true)] ++
    List.replicate 256 (.send [0x41]) ++ [.stop, .tx (.returned true), .poll none])).Deadlocked := by
  decide +kernel

end Shutdown

end HaBluetooth.Gatt
