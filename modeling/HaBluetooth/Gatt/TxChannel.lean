import HaBluetooth.Gatt.TxStream
import HaBluetooth.Support.Refinement

/-! The outgoing queue and its worker refine a channel of whole frames. The client starts each of its
sessions with nothing in its own buffer. -/

namespace HaBluetooth.Gatt

open Python Protocol Support

def received (chunks : List Bytes) : List Bytes := Reassembly.frames [] (chunkPieces chunks)

structure Traffic where
  accepted : List Bytes
  chunks : List Bytes
  deriving DecidableEq, Repr

def Traffic.exchange (t : Traffic) : Exchange Bytes := ⟨t.accepted, received t.chunks⟩

structure Delivery where
  tx : TxState
  past : List Traffic
  current : Traffic

/-- A chunk that `update_value` refuses has no subscriber to go to. -/
def TxEvent.sentChunks (t : TxState) : TxEvent → List Bytes
  | .resume (.returned true) => ((t.gatt.resume (.returned true) t.worker).2.2).toList
  | .write _ | .send _ | .resume _ | .disconnect => []

def TxEvent.acceptedFrames (t : TxState) : TxEvent → List Bytes
  | .send data => if (t.gatt.sendFrame data).2 then [data] else []
  | .write _ | .resume _ | .disconnect => []

namespace Delivery

def begin (gatt : GattServer) (worker : TxWorker) : Delivery := ⟨.begin gatt worker, [], [], []⟩

def step (d : Delivery) (e : TxEvent) : Delivery :=
  let current := ⟨d.current.accepted ++ e.acceptedFrames d.tx, d.current.chunks ++ e.sentChunks d.tx⟩
  let tx := d.tx.step e
  if tx.session = d.tx.session then ⟨tx, d.past, current⟩ else ⟨tx, d.past ++ [current], [], []⟩

def run (d : Delivery) (evs : List TxEvent) : Delivery := evs.foldl step d

def view (d : Delivery) : Channel Bytes := ⟨d.past.map Traffic.exchange, d.current.exchange⟩

end Delivery

/-- A frame is not empty and is not cut off by a full queue, and no update fails unnoticed. -/
def TxEvent.Orderly (t : TxState) : TxEvent → Prop
  | .write _ | .disconnect => True
  | .send data => data ≠ [] ∧ ¬ t.gatt.Overruns data
  | .resume u => ∃ result, u = .returned result

lemma received_prefix {fs chunks : List Bytes} (h : ∀ f ∈ fs, f ≠ []) (hc : chunks <+: fs.flatMap encodeChunks) :
    received chunks <+: fs := by
  obtain ⟨more, hmore⟩ := hc
  have hall := (TxState.split_frames h).1
  rw [← hmore, chunkPieces_append, Reassembly.frames_append] at hall
  exact ⟨_, hall⟩

lemma GattServer.sendFrame_server (s : GattServer) (data : Bytes) : (s.sendFrame data).1.server = s.server := by
  by_cases h : s.connected = true ∧ s.server = true
  · rw [s.sendFrame_online data h.1 h.2]
  · rw [s.sendFrame_offline data h]

lemma GattServer.markDisconnected_server (s : GattServer) : s.markDisconnected.server = s.server := by
  obtain ⟨server, running, connected, rxBuf, queue, loop, called⟩ := s
  cases connected <;> cases loop <;> rfl

lemma GattServer.resume_refused (s : GattServer) (w : TxWorker) {chunks : List Bytes} (hc : s.connected = true)
    (hv : s.server = true) (hq : s.txQueue.items = chunks.map some) :
    (s.resume (.returned false) w).1 = s ∨ (s.resume (.returned false) w).1.connected = false ∧
      (s.resume (.returned false) w).1.txQueue.items = [] ∧ (s.resume (.returned false) w).1.server = true := by
  cases w with
  | ended | sleeping => exact .inl rfl
  | getting =>
    obtain ⟨server, running, connected, rxBuf, ⟨items, hb⟩, loop, called⟩ := s
    obtain rfl : connected = true := hc
    obtain rfl : server = true := hv
    cases items with
    | nil => exact .inl rfl
    | cons item items =>
      obtain ⟨chunk, rest, rfl, rfl, rfl⟩ := List.map_eq_cons_iff.mp hq.symm
      let popped : GattServer := ⟨true, running, true, rxBuf, ⟨rest.map some, by simp at hb ⊢; omega⟩, loop, called⟩
      obtain ⟨hoff, hempty⟩ := popped.markDisconnected_online rfl
      exact .inr ⟨hoff, hempty, popped.markDisconnected_server⟩

namespace Delivery

structure Refines (d : Delivery) : Prop where
  server : d.tx.gatt.server = true
  nonempty : ∀ f ∈ d.current.accepted, f ≠ []
  offline : d.tx.gatt.connected = false → d.tx.gatt.txQueue.items = []
  online : d.tx.gatt.connected = true → ∃ queue : List Bytes, d.tx.gatt.txQueue.items = queue.map some ∧
    d.current.chunks ++ queue = d.current.accepted.flatMap encodeChunks
  chunks : d.current.chunks <+: d.current.accepted.flatMap encodeChunks

lemma begin_refines {gatt : GattServer} (hv : gatt.server = true) (hq : gatt.txQueue.items = []) (worker : TxWorker) :
    (begin gatt worker).Refines where
  server := hv
  nonempty _ hf := absurd hf List.not_mem_nil
  offline _ := hq
  online _ := ⟨[], hq, rfl⟩
  chunks := List.prefix_rfl

variable {d : Delivery}

lemma step_same {e : TxEvent} (h : (d.tx.step e).session = d.tx.session) :
    d.step e = ⟨d.tx.step e, d.past, d.current.accepted ++ e.acceptedFrames d.tx,
      d.current.chunks ++ e.sentChunks d.tx⟩ := if_pos h

lemma step_silent {e : TxEvent} (h : (d.tx.step e).session = d.tx.session) (ha : e.acceptedFrames d.tx = [])
    (hc : e.sentChunks d.tx = []) : d.step e = { d with tx := d.tx.step e } := by
  rw [step_same h, ha, hc, List.append_nil, List.append_nil]

lemma same_view {d' : Delivery} {frames chunks : List Bytes} (hpast : d'.past = d.past)
    (ha : d'.current.accepted = d.current.accepted ++ frames) (hc : d'.current.chunks = d.current.chunks ++ chunks)
    (h : d'.Refines) : Relation.ReflTransGen Channel.Move d.view d'.view := by
  have hgot : received d.current.chunks <+: received d'.current.chunks := by
    rw [hc, received, received, chunkPieces_append, Reassembly.frames_append]
    exact List.prefix_append _ _
  have hall := received_prefix h.nonempty h.chunks
  rw [view, view, hpast, Traffic.exchange, Traffic.exchange]
  refine (Channel.sends _ _ _ frames).trans ?_
  rw [← ha]
  exact Channel.delivers _ hgot hall

lemma write_step (d : Delivery) (value : Bytes) :
    (d.tx.step (.write value)).session = d.tx.session ∧
        (!d.tx.gatt.connected && (d.tx.gatt.handleWrite value).connected) = false ∧
        d.step (.write value) = { d with tx := d.tx.step (.write value) } ∨
      (d.tx.step (.write value)).session = d.tx.session + 1 ∧
        (!d.tx.gatt.connected && (d.tx.gatt.handleWrite value).connected) = true ∧
        d.step (.write value) = ⟨d.tx.step (.write value), d.past ++ [d.current], [], []⟩ := by
  cases hnew : !d.tx.gatt.connected && (d.tx.gatt.handleWrite value).connected with
  | false =>
    have hsession : (d.tx.step (.write value)).session = d.tx.session := by
      simp only [TxState.step, hnew]
      rfl
    exact .inl ⟨hsession, rfl, step_silent hsession rfl rfl⟩
  | true =>
    have hsession : (d.tx.step (.write value)).session = d.tx.session + 1 := by
      simp only [TxState.step, hnew, if_true]
    refine .inr ⟨hsession, rfl, ?_⟩
    rw [step, if_neg (hsession ▸ Nat.succ_ne_self _)]
    simp [TxEvent.acceptedFrames, TxEvent.sentChunks]

lemma write_refines (h : d.Refines) (value : Bytes) :
    (d.step (.write value)).Refines ∧ Relation.ReflTransGen Channel.Move d.view (d.step (.write value)).view := by
  obtain ⟨connected, rxBuf, loop, hw, hconn⟩ := d.tx.gatt.handleWrite_frame value
  rcases d.write_step value with ⟨-, hold, hstep⟩ | ⟨-, hnew, hstep⟩
  · rw [hw] at hold
    rw [hstep]
    refine ⟨⟨?_, h.nonempty, ?_, ?_, h.chunks⟩, .refl⟩
    · simpa only [TxState.step, hw] using h.server
    · intro hn
      simp only [TxState.step, hw] at hn ⊢
      refine h.offline ?_
      by_contra hc
      rw [hconn (Bool.not_eq_false _ ▸ hc)] at hn
      cases hn
    · intro hc
      simp only [TxState.step, hw] at hc ⊢
      subst hc
      exact h.online (by simpa using hold)
  · have hoff : d.tx.gatt.connected = false := by simp_all
    have hempty : (d.tx.step (.write value)).gatt.txQueue.items = [] := by
      simp only [TxState.step, hw]
      exact h.offline hoff
    rw [hstep]
    refine ⟨⟨?_, ?_, fun _ => hempty, fun _ => ⟨[], hempty, rfl⟩, List.prefix_rfl⟩, ?_⟩
    · simpa only [TxState.step, hw] using h.server
    · exact fun f hf => absurd hf List.not_mem_nil
    · rw [view, view, List.map_append]
      exact .single (.renew _ _)

lemma send_refines (h : d.Refines) {data : Bytes} (he : TxEvent.Orderly d.tx (.send data)) :
    (d.step (.send data)).Refines ∧ Relation.ReflTransGen Channel.Move d.view (d.step (.send data)).view := by
  have hconn := (d.tx.gatt.sendFrame_appends data).1
  have hsame : (d.tx.step (.send data)).session = d.tx.session := rfl
  cases hok : (d.tx.gatt.sendFrame data).2 with
  | false =>
    have hq := d.tx.gatt.rejected_unchanged data he.2 hok
    have hserver := d.tx.gatt.sendFrame_server data
    rw [step_silent hsame (by simp [TxEvent.acceptedFrames, hok]) rfl]
    refine ⟨⟨hserver.trans h.server, h.nonempty, ?_, ?_, h.chunks⟩, .refl⟩
    · intro hn
      exact hq ▸ h.offline (hconn ▸ hn)
    · intro hc
      exact hq ▸ h.online (hconn ▸ hc)
  | true =>
    obtain ⟨hserver, hitems⟩ := d.tx.gatt.sendFrame_accepted data hok
    have hstep : d.step (.send data) =
        ⟨d.tx.step (.send data), d.past, d.current.accepted ++ [data], d.current.chunks⟩ := by
      rw [step_same hsame]
      simp [TxEvent.acceptedFrames, TxEvent.sentChunks, hok]
    have hon : d.tx.gatt.connected = true := by
      by_contra hoff
      rw [d.tx.gatt.sendFrame_offline data fun hh => hoff hh.1] at hok
      cases hok
    obtain ⟨queue, hqueue, hchunks⟩ := h.online hon
    have hall : d.current.chunks ++ (queue ++ encodeChunks data) =
        (d.current.accepted ++ [data]).flatMap encodeChunks := by
      rw [← List.append_assoc, hchunks, List.flatMap_append, List.flatMap_singleton]
    have hrefines : (d.step (.send data)).Refines := by
      rw [hstep]
      refine ⟨hserver.trans h.server, ?_, ?_, ?_, ⟨_, hall⟩⟩
      · rw [List.forall_mem_append, List.forall_mem_singleton]
        exact ⟨h.nonempty, he.1⟩
      · intro hn
        rw [← hconn] at hon
        exact absurd (hon.symm.trans hn) (by decide)
      · intro _
        refine ⟨queue ++ encodeChunks data, ?_, hall⟩
        rw [List.map_append, ← hqueue, ← hitems]
        rfl
    refine ⟨hrefines, @same_view d _ [data] [] ?_ ?_ ?_ hrefines⟩
    · rw [hstep]
    · rw [hstep]
    · rw [hstep, List.append_nil]

lemma resume_idle (h : d.Refines) {u : Update} (hgatt : (d.tx.gatt.resume u d.tx.worker).1 = d.tx.gatt) {d' : Delivery}
    (hd : d' = { d with tx := d.tx.step (.resume u) }) :
    d'.Refines ∧ Relation.ReflTransGen Channel.Move d.view d'.view := by
  subst hd
  have hstep : (d.tx.step (.resume u)).gatt = d.tx.gatt := hgatt
  refine ⟨⟨?_, h.nonempty, ?_, ?_, h.chunks⟩, .refl⟩
  · exact hstep ▸ h.server
  · exact hstep ▸ h.offline
  · exact hstep ▸ h.online

lemma resume_refines (h : d.Refines) (result : Bool) : (d.step (.resume (.returned result))).Refines ∧
    Relation.ReflTransGen Channel.Move d.view (d.step (.resume (.returned result))).view := by
  have hsame : (d.tx.step (.resume (.returned result))).session = d.tx.session := rfl
  cases hconn : d.tx.gatt.connected with
  | false =>
    rcases d.tx.gatt.resume_cases d.tx.worker (.returned result) with ⟨hgatt, hnone⟩ | ⟨item, queue, hitems, -⟩
    · refine resume_idle h hgatt (step_silent hsame rfl ?_)
      cases result with
      | false => rfl
      | true => rw [TxEvent.sentChunks, hnone, Option.toList_none]
    · rw [h.offline hconn] at hitems
      cases hitems
  | true =>
    obtain ⟨queue, hqueue, hchunks⟩ := h.online hconn
    cases result with
    | false =>
      have hsilent : d.step (.resume (.returned false)) = _ := step_silent hsame rfl rfl
      rcases d.tx.gatt.resume_refused d.tx.worker hconn h.server hqueue with hgatt | ⟨hoff, hempty, hserver⟩
      · exact resume_idle h hgatt hsilent
      · rw [hsilent]
        exact ⟨⟨hserver, h.nonempty, fun _ => hempty,
          fun hc => absurd (hc.symm.trans hoff) (by decide), h.chunks⟩, .refl⟩
    | true =>
      rcases d.tx.gatt.resume_success d.tx.worker hconn h.server with
        ⟨hgatt, hnone⟩ | ⟨item, queue', hitems, hgatt, hchunk⟩
      · exact resume_idle h hgatt (step_silent hsame rfl (by rw [TxEvent.sentChunks, hnone, Option.toList_none]))
      · obtain ⟨chunk, rest, rfl, rfl, hrest⟩ := List.map_eq_cons_iff.mp (hqueue.symm.trans hitems)
        have hstep : d.step (.resume (.returned true)) =
            ⟨d.tx.step (.resume (.returned true)), d.past, d.current.accepted, d.current.chunks ++ [chunk]⟩ := by
          rw [step_same hsame, TxEvent.sentChunks, hchunk]
          simp [TxEvent.acceptedFrames]
        have hall : d.current.chunks ++ [chunk] ++ rest = d.current.accepted.flatMap encodeChunks := by
          rw [List.append_assoc, ← hchunks]
          rfl
        have hgatt' : (d.tx.step (.resume (.returned true))).gatt = { d.tx.gatt with txQueue := queue' } := hgatt
        have hrefines : (d.step (.resume (.returned true))).Refines := by
          rw [hstep]
          refine ⟨?_, h.nonempty, ?_, fun _ => ⟨rest, ?_, hall⟩, ⟨rest, hall⟩⟩
          · rw [hgatt']
            exact h.server
          · rw [hgatt']
            exact fun hoff => absurd (hconn.symm.trans hoff) (by decide)
          · rw [hgatt']
            exact hrest.symm
        refine ⟨hrefines, @same_view d _ [] [chunk] ?_ ?_ ?_ hrefines⟩
        · rw [hstep]
        · rw [hstep, List.append_nil]
        · rw [hstep]

lemma disconnect_refines (h : d.Refines) :
    (d.step .disconnect).Refines ∧ Relation.ReflTransGen Channel.Move d.view (d.step .disconnect).view := by
  have hsilent : d.step .disconnect = { d with tx := d.tx.step .disconnect } := step_silent rfl rfl rfl
  rw [hsilent]
  cases hconn : d.tx.gatt.connected with
  | false =>
    have hstep : d.tx.step .disconnect = d.tx := by rw [TxState.step, d.tx.gatt.markDisconnected_offline hconn]
    rw [hstep]
    exact ⟨h, .refl⟩
  | true =>
    obtain ⟨hoff, hempty⟩ := d.tx.gatt.markDisconnected_online hconn
    refine ⟨⟨?_, h.nonempty, fun _ => hempty, fun hc => absurd (hc.symm.trans hoff) (by decide), h.chunks⟩, .refl⟩
    exact d.tx.gatt.markDisconnected_server.trans h.server

lemma step_refines : Simulates step (fun d e => e.Orderly d.tx) Channel.Move fun d c => d.Refines ∧ d.view = c := by
  rintro d _ e ⟨h, rfl⟩ he
  refine ⟨(d.step e).view, ?_⟩
  cases e with
  | write value => exact ⟨(write_refines h value).2, (write_refines h value).1, rfl⟩
  | send data => exact ⟨(send_refines h he).2, (send_refines h he).1, rfl⟩
  | disconnect => exact ⟨(disconnect_refines h).2, (disconnect_refines h).1, rfl⟩
  | resume u =>
    obtain ⟨result, rfl⟩ := he
    exact ⟨(resume_refines h result).2, (resume_refines h result).1, rfl⟩

lemma step_tx (d : Delivery) (e : TxEvent) : (d.step e).tx = d.tx.step e := by
  rw [step]
  split <;> rfl

def sessions (d : Delivery) : List Traffic := d.past ++ [d.current]

lemma sessions_prefix (h : Relation.ReflTransGen Channel.Move .fresh d.view) {t : Traffic} (ht : t ∈ d.sessions) :
    received t.chunks <+: t.accepted := by
  have hexchanges : d.view.exchanges = d.sessions.map Traffic.exchange := by
    rw [sessions, List.map_append]
    rfl
  exact Channel.reachable_orderly h t.exchange (hexchanges ▸ List.mem_map_of_mem ht)

theorem tx_refines_channel {gatt : GattServer} (hv : gatt.server = true) (hq : gatt.txQueue.items = [])
    (worker : TxWorker) {evs : List TxEvent}
    (h : Admits TxState.step (fun t e => e.Orderly t) (.begin gatt worker) evs) :
    Relation.ReflTransGen Channel.Move .fresh ((begin gatt worker).run evs).view ∧
      ∀ t ∈ ((begin gatt worker).run evs).sessions, received t.chunks <+: t.accepted := by
  have hi : Admits step (fun d e => e.Orderly d.tx) (begin gatt worker) evs := h.lift step_tx
  obtain ⟨c, hc, -, rfl⟩ := step_refines.run ⟨begin_refines hv hq worker, rfl⟩ hi
  exact ⟨hc, fun t ht => sessions_prefix hc ht⟩

def interrupted : List TxEvent :=
  [.write [0x01, 0x41], .send (List.replicate 300 0x42), .resume (.returned true), .disconnect, .write [0x01, 0x43]]

theorem tx_refines_channel_interrupted :
    Relation.ReflTransGen Channel.Move .fresh ((begin serving .getting).run interrupted).view ∧
      ∀ t ∈ ((begin serving .getting).run interrupted).sessions, received t.chunks <+: t.accepted := by
  refine tx_refines_channel rfl rfl .getting ⟨trivial, ⟨?_, ?_⟩, ⟨true, rfl⟩, trivial, trivial, trivial⟩
  · exact List.cons_ne_nil _ _
  · rintro ⟨-, -, -, hover⟩
    rw [chunkCount, List.length_replicate] at hover
    revert hover
    decide

end Delivery

end HaBluetooth.Gatt
