import HaBluetooth.Gatt.SendFrame

/-! `_tx_worker` among the other users of the outgoing queue. Beside the server and the place where
its worker is suspended, the state keeps a record of what was put in the queue and what left it. -/

namespace HaBluetooth.Gatt

open Python Protocol Support

inductive Update
  | noCharacteristic
  | returned (result : Bool)
  | raised
  deriving DecidableEq, Repr

inductive TxWorker
  | getting
  | sleeping
  | ended
  deriving DecidableEq, Repr

namespace GattServer

def nextRound (s : GattServer) : TxWorker := if s.running then .getting else .ended

/-- The chunk passed to `update_value`, if any, is the last component. -/
def transmit (s : GattServer) (chunk : Bytes) : Update → GattServer × TxWorker × Option Bytes
  | .noCharacteristic => (s, s.nextRound, none)
  | .returned result => (if !result && s.connected then s.markDisconnected else s, .sleeping, some chunk)
  | .raised => (s, s.nextRound, some chunk)

def resume (s : GattServer) (u : Update) : TxWorker → GattServer × TxWorker × Option Bytes
  | .ended => (s, .ended, none)
  | .sleeping => (s, s.nextRound, none)
  | .getting =>
    match s.txQueue.get with
    | none => (s, .getting, none)
    | some (none, queue) => ({ s with txQueue := queue }, .ended, none)
    | some (some chunk, queue) =>
      let s := { s with txQueue := queue }
      if !s.server || !s.connected then (s, s.nextRound, none) else s.transmit chunk u

lemma handleWrite_frame (s : GattServer) (value : Bytes) : ∃ connected rxBuf loop,
    s.handleWrite value = { s with connected := connected, rxBuf := rxBuf, loop := loop } ∧
      (s.connected = true → connected = true) := by
  obtain ⟨server, running, connected, rxBuf, queue, loop, called⟩ := s
  cases value with
  | nil => exact ⟨connected, rxBuf, loop, rfl, id⟩
  | cons flag payload =>
    by_cases hf : flag = bleChunkFinal
    · subst hf
      cases loop with
      | none => exact ⟨connected, [], none, rfl, id⟩
      | some cs =>
        cases connected
        · exact ⟨true, [], some (cs ++ [.onConnect] ++ [.onFrame (rxBuf ++ payload)]), rfl, fun _ => rfl⟩
        · exact ⟨true, [], some (cs ++ [.onFrame (rxBuf ++ payload)]), rfl, fun _ => rfl⟩
    · exact ⟨connected, rxBuf ++ payload, loop, by rw [handleWrite, if_neg hf], id⟩

lemma markDisconnected_offline (s : GattServer) (h : s.connected = false) : s.markDisconnected = s := by
  rw [markDisconnected, h]
  rfl

lemma markDisconnected_online (s : GattServer) (h : s.connected = true) :
    s.markDisconnected.connected = false ∧ s.markDisconnected.txQueue.items = [] := by
  rw [markDisconnected, h]
  dsimp only [Bool.not_true, Bool.false_eq_true, if_false]
  cases s.loop <;> simp [callSoon, BoundedQueue.empty]

lemma sendFrame_appends (s : GattServer) (data : Bytes) : (s.sendFrame data).1.connected = s.connected ∧
    ∃ more, (s.sendFrame data).1.txQueue.items = s.txQueue.items ++ more := by
  by_cases h : s.connected = true ∧ s.server = true
  · rw [s.sendFrame_online data h.1 h.2]
    exact ⟨rfl, _, BoundedQueue.putAll_items _ _⟩
  · rw [s.sendFrame_offline data h]
    exact ⟨rfl, [], (List.append_nil _).symm⟩

lemma resume_cases (s : GattServer) (w : TxWorker) (u : Update) :
    (s.resume u w).1 = s ∧ (s.resume u w).2.2 = none ∨
      ∃ item queue, s.txQueue.items = item :: queue.items ∧
        ((s.resume u w).2.2 = none ∨ (s.resume u w).2.2 = item) ∧
        ((s.resume u w).1 = { s with txQueue := queue } ∨
          s.connected = true ∧ (s.resume u w).1 = { s with txQueue := queue }.markDisconnected) := by
  cases w with
  | ended | sleeping => exact .inl ⟨rfl, rfl⟩
  | getting =>
    obtain ⟨server, running, connected, rxBuf, ⟨items, hb⟩, loop, called⟩ := s
    cases items with
    | nil => exact .inl ⟨rfl, rfl⟩
    | cons item items =>
      right
      refine ⟨item, ⟨items, by simp at hb; omega⟩, rfl, ?_⟩
      cases item with
      | none => exact ⟨.inl rfl, .inl rfl⟩
      | some chunk =>
        cases server <;> cases connected
        · exact ⟨.inl rfl, .inl rfl⟩
        · exact ⟨.inl rfl, .inl rfl⟩
        · exact ⟨.inl rfl, .inl rfl⟩
        · cases u with
          | noCharacteristic => exact ⟨.inl rfl, .inl rfl⟩
          | raised => exact ⟨.inr rfl, .inl rfl⟩
          | returned result =>
            cases result
            · exact ⟨.inr rfl, .inr ⟨rfl, rfl⟩⟩
            · exact ⟨.inr rfl, .inl rfl⟩

lemma resume_success (s : GattServer) (w : TxWorker) (hc : s.connected = true) (hv : s.server = true) :
    (s.resume (.returned true) w).1 = s ∧ (s.resume (.returned true) w).2.2 = none ∨
      ∃ item queue, s.txQueue.items = item :: queue.items ∧
        (s.resume (.returned true) w).1 = { s with txQueue := queue } ∧ (s.resume (.returned true) w).2.2 = item := by
  cases w with
  | ended | sleeping => exact .inl ⟨rfl, rfl⟩
  | getting =>
    obtain ⟨server, running, connected, rxBuf, ⟨items, hb⟩, loop, called⟩ := s
    obtain rfl : connected = true := hc
    obtain rfl : server = true := hv
    cases items with
    | nil => exact .inl ⟨rfl, rfl⟩
    | cons item items =>
      refine .inr ⟨item, ⟨items, by simp at hb; omega⟩, rfl, ?_⟩
      cases item <;> exact ⟨rfl, rfl⟩

lemma sendFrame_accepted (s : GattServer) (data : Bytes) (h : (s.sendFrame data).2 = true) :
    (s.sendFrame data).1.server = s.server ∧
      (s.sendFrame data).1.txQueue.items = s.txQueue.items ++ (encodeChunks data).map some := by
  have hon : s.connected = true ∧ s.server = true := by
    by_contra hoff
    rw [s.sendFrame_offline data hoff] at h
    cases h
  rw [s.sendFrame_online data hon.1 hon.2] at h ⊢
  rw [BoundedQueue.putAll_accepts] at h
  refine ⟨rfl, ?_⟩
  rw [BoundedQueue.putAll_items, List.take_of_length_le (by omega)]

end GattServer

/-- A chunk given to `update_value`, with the record of its being queued and the session it leaves in. -/
structure Passed where
  chunk : Bytes
  put : Option (ℕ × Option Bytes)
  session : ℕ
  deriving DecidableEq, Repr

structure TxState where
  gatt : GattServer
  worker : TxWorker
  -- how often a write has found no client connected
  session : ℕ
  -- what was ever put in the queue, and in which session
  puts : List (ℕ × Option Bytes)
  passed : List Passed
  -- the frames for which `send_frame` returned True
  accepted : List Bytes

inductive TxEvent
  | write (value : Bytes)
  | send (data : Bytes)
  | resume (u : Update)
  | disconnect
  deriving DecidableEq, Repr

def serving : GattServer := { GattServer.init.start with server := true }

namespace TxState

def begin (gatt : GattServer) (worker : TxWorker) : TxState := ⟨gatt, worker, 0, [], [], []⟩

/-- The queue holds what was put there last, so the put of its oldest item is that far from the end. -/
def oldestPut (t : TxState) : Option (ℕ × Option Bytes) :=
  t.puts[t.puts.length - t.gatt.txQueue.items.length]?

def step (t : TxState) : TxEvent → TxState
  | .write value =>
    let gatt := t.gatt.handleWrite value
    { t with gatt := gatt, session := if !t.gatt.connected && gatt.connected then t.session + 1 else t.session }
  | .send data =>
    let (gatt, accepted) := t.gatt.sendFrame data
    let more := gatt.txQueue.items.drop t.gatt.txQueue.items.length
    { t with
      gatt := gatt, puts := t.puts ++ more.map (Prod.mk t.session),
      accepted := if accepted then t.accepted ++ [data] else t.accepted }
  | .resume u =>
    let (gatt, worker, chunk) := t.gatt.resume u t.worker
    { t with
      gatt := gatt, worker := worker,
      passed := t.passed ++ (chunk.map fun c => ⟨c, t.oldestPut, t.session⟩).toList }
  | .disconnect => { t with gatt := t.gatt.markDisconnected }

def run (t : TxState) (evs : List TxEvent) : TxState := evs.foldl step t

def transmitted (t : TxState) : List Bytes := t.passed.map Passed.chunk

def queued (t : TxState) : List Bytes := t.gatt.txQueue.items.reduceOption

end TxState

end HaBluetooth.Gatt
