import HaBluetooth.Gatt.ChunkStreams
import HaBluetooth.Gatt.TxWorker
import HaBluetooth.Support.Refinement

/-! While the client stays and every send and every update succeeds, what was transmitted and what is
still queued are together the chunks of the accepted frames. -/

namespace HaBluetooth.Gatt

open Python Protocol Support

def TxEvent.Succeeds (t : TxState) : TxEvent → Prop
  | .write _ => True
  | .send data => data ≠ [] ∧ (t.gatt.sendFrame data).2 = true
  | .resume u => u = .returned true
  | .disconnect => False

instance (t : TxState) (e : TxEvent) : Decidable (e.Succeeds t) :=
  match e with
  | .write _ => isTrue trivial
  | .send _ => inferInstanceAs (Decidable (_ ∧ _))
  | .resume _ => inferInstanceAs (Decidable (_ = _))
  | .disconnect => isFalse id

namespace TxState

def Lossless (t t' : TxState) : Prop := ∃ e : TxEvent, e.Succeeds t ∧ t' = t.step e

structure Streaming (t : TxState) : Prop where
  connected : t.gatt.connected = true
  server : t.gatt.server = true
  nonempty : ∀ frame ∈ t.accepted, frame ≠ []
  stream : ∃ chunks : List Bytes, t.gatt.txQueue.items = chunks.map some ∧
    t.transmitted ++ chunks = t.accepted.flatMap encodeChunks

lemma begin_streaming {gatt : GattServer} (hc : gatt.connected = true) (hv : gatt.server = true)
    (hq : gatt.txQueue.items = []) (worker : TxWorker) : (begin gatt worker).Streaming where
  connected := hc
  server := hv
  nonempty _ hf := absurd hf List.not_mem_nil
  stream := ⟨[], hq, rfl⟩

variable {t t' : TxState}

lemma Streaming.chunks (h : t.Streaming) : t.transmitted ++ t.queued = t.accepted.flatMap encodeChunks := by
  obtain ⟨chunks, hitems, hchunks⟩ := h.stream
  have hq : t.queued = chunks := by
    change t.gatt.txQueue.items.filterMap id = chunks
    rw [hitems, List.filterMap_map]
    exact List.filterMap_some
  rw [hq, hchunks]

lemma write_streaming (h : t.Streaming) (value : Bytes) : (t.step (.write value)).Streaming := by
  obtain ⟨connected, rxBuf, loop, hw, hconn⟩ := t.gatt.handleWrite_frame value
  refine ⟨?_, ?_, h.nonempty, ?_⟩
  · simp only [step, hw]
    exact hconn h.connected
  · simpa only [step, hw] using h.server
  · simpa only [step, hw, transmitted] using h.stream

lemma send_streaming (h : t.Streaming) {data : Bytes} (hne : data ≠ []) (hok : (t.gatt.sendFrame data).2 = true) :
    (t.step (.send data)).Streaming := by
  obtain ⟨hconn, -⟩ := t.gatt.sendFrame_appends data
  obtain ⟨hserver, hitems⟩ := t.gatt.sendFrame_accepted data hok
  have haccepted : (t.step (.send data)).accepted = t.accepted ++ [data] := by simp only [step, hok, if_true]
  refine ⟨hconn.trans h.connected, hserver.trans h.server, ?_, ?_⟩
  · intro frame hf
    rw [haccepted, List.mem_append, List.mem_singleton] at hf
    rcases hf with hf | rfl
    · exact h.nonempty frame hf
    · exact hne
  · obtain ⟨chunks, hqueue, hchunks⟩ := h.stream
    refine ⟨chunks ++ encodeChunks data, ?_, ?_⟩
    · rw [List.map_append, ← hqueue, ← hitems]
      rfl
    · rw [haccepted, List.flatMap_append, List.flatMap_singleton, ← hchunks, List.append_assoc]
      rfl

lemma resume_streaming (h : t.Streaming) : (t.step (.resume (.returned true))).Streaming := by
  obtain ⟨chunks, hqueue, hchunks⟩ := h.stream
  rcases t.gatt.resume_success t.worker h.connected h.server with ⟨hsame, hnone⟩ | ⟨item, queue, hitems, hgatt, hchunk⟩
  · refine ⟨?_, ?_, h.nonempty, chunks, ?_, ?_⟩
    · simpa only [step, hsame] using h.connected
    · simpa only [step, hsame] using h.server
    · simpa only [step, hsame] using hqueue
    · simpa only [step, hnone, transmitted, Option.map_none, Option.toList_none, List.append_nil] using hchunks
  · rw [hitems] at hqueue
    obtain ⟨chunk, chunks', rfl, rfl, hrest⟩ := List.map_eq_cons_iff.mp hqueue.symm
    refine ⟨?_, ?_, h.nonempty, chunks', ?_, ?_⟩
    · simpa only [step, hgatt] using h.connected
    · simpa only [step, hgatt] using h.server
    · simp only [step, hgatt, hrest]
    · simpa [step, hchunk, transmitted] using hchunks

lemma lossless_streaming (h : t.Streaming) (ht : Lossless t t') : t'.Streaming := by
  obtain ⟨e, he, rfl⟩ := ht
  cases e with
  | write value => exact write_streaming h value
  | send data => exact send_streaming h he.1 he.2
  | resume u => exact (show u = .returned true from he) ▸ resume_streaming h
  | disconnect => exact he.elim

lemma run_lossless {evs : List TxEvent} (h : Admits step (fun t e => e.Succeeds t) t evs) :
    Relation.ReflTransGen Lossless t (t.run evs) := by
  induction evs generalizing t with
  | nil => exact .refl
  | cons e evs ih => exact .head ⟨e, h.1, rfl⟩ (ih h.2)

lemma reachable_streaming (h : t.Streaming) (ht : Relation.ReflTransGen Lossless t t') : t'.Streaming := by
  induction ht with
  | refl => exact h
  | tail _ hlast ih => exact lossless_streaming ih hlast

/-! ### What a receiver makes of the chunks -/

lemma split_frames {fs : List Bytes} (h : ∀ f ∈ fs, f ≠ []) :
    Reassembly.frames [] (chunkPieces (fs.flatMap encodeChunks)) = fs ∧
      Reassembly.rest [] (chunkPieces (fs.flatMap encodeChunks)) = [] := by
  have hs := @Encoder.assemble_stream (fs.map (Prod.mk .encodeChunks)) (by simpa using h)
  simpa [List.flatMap_map, Encoder.split, Function.comp_def] using hs

lemma receiver_run (chunks : List Bytes) :
    (GattServer.init.start.run (chunks.map .write)).handed = Reassembly.frames [] (chunkPieces chunks) ∧
      (GattServer.init.start.run (chunks.map .write)).rxBuf = Reassembly.rest [] (chunkPieces chunks) := by
  obtain ⟨-, hbuf, hhanded⟩ := GattServer.init.start.run_reassembles (chunks.map .write) rfl
  exact ⟨hhanded, hbuf⟩

theorem tx_stream_lossless {gatt : GattServer} (hc : gatt.connected = true) (hv : gatt.server = true)
    (hq : gatt.txQueue.items = []) (worker : TxWorker) (h : Relation.ReflTransGen Lossless (begin gatt worker) t) :
    (GattServer.init.start.run ((t.transmitted ++ t.queued).map .write)).handed = t.accepted ∧
      (GattServer.init.start.run ((t.transmitted ++ t.queued).map .write)).rxBuf = [] ∧
      ∃ n, (GattServer.init.start.run (t.transmitted.map .write)).handed = t.accepted.take n ∧
        (GattServer.init.start.run (t.transmitted.map .write)).rxBuf <+: (t.accepted.drop n).headD [] := by
  have hs := reachable_streaming (begin_streaming hc hv hq worker) h
  obtain ⟨hframes, hrest⟩ := split_frames hs.nonempty
  obtain ⟨hall, hbuf⟩ := receiver_run (t.transmitted ++ t.queued)
  obtain ⟨hsent, hpending⟩ := receiver_run t.transmitted
  rw [hs.chunks] at hall hbuf ⊢
  refine ⟨hall.trans hframes, hbuf.trans hrest, ?_⟩
  rw [← hs.chunks, chunkPieces_append, Reassembly.frames_append] at hframes
  rw [← hs.chunks, chunkPieces_append, Reassembly.rest_append] at hrest
  have hprefix := Reassembly.pending_prefix (Reassembly.rest [] (chunkPieces t.transmitted)) (chunkPieces t.queued)
  refine ⟨(Reassembly.frames [] (chunkPieces t.transmitted)).length, ?_, ?_⟩
  · rw [hsent, ← hframes, List.take_left]
  · rw [hpending, ← hframes, List.drop_left]
    rwa [hrest] at hprefix

def online : GattServer := { serving with connected := true }

def interleaved : List TxEvent :=
  [.send (List.replicate 300 0x41), .resume (.returned true), .send [0x42], .resume (.returned true),
    .resume (.returned true), .resume (.returned true), .send (List.replicate 500 0x43), .resume (.returned true),
    .resume (.returned true), .resume (.returned true)]

def midFrame : TxState := (begin online .getting).run interleaved

theorem tx_stream_lossless_mid_frame :
    (midFrame.transmitted.length = 4 ∧ midFrame.queued.length = 2 ∧ midFrame.accepted.length = 3) ∧
      (GattServer.init.start.run ((midFrame.transmitted ++ midFrame.queued).map .write)).handed = midFrame.accepted ∧
      (GattServer.init.start.run ((midFrame.transmitted ++ midFrame.queued).map .write)).rxBuf = [] ∧
      ∃ n, (GattServer.init.start.run (midFrame.transmitted.map .write)).handed = midFrame.accepted.take n ∧
        (GattServer.init.start.run (midFrame.transmitted.map .write)).rxBuf <+:
          (midFrame.accepted.drop n).headD [] := by
  have hi : Admits step (fun t e => e.Succeeds t) (begin online .getting) interleaved := by decide +kernel
  exact ⟨by decide +kernel, tx_stream_lossless rfl rfl rfl .getting (run_lossless hi)⟩

end TxState

end HaBluetooth.Gatt
