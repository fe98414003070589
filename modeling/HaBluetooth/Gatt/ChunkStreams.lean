import HaBluetooth.Gatt.Sessions

/-! Either encoder's chunks, written one after another, come out of the receive buffer as the frames
that were split. -/

namespace HaBluetooth.Gatt

open Python Protocol Support

section Splitting

variable (size : ℕ) [NeZero size] (data : Bytes)

lemma slice_append {start stop : ℕ} (h : start ≤ stop) :
    (data.take stop).drop start ++ data.drop stop = data.drop start := by
  rw [List.drop_take, ← Nat.add_sub_cancel' h, ← List.drop_drop, Nat.add_sub_cancel_left, List.take_append_drop]

lemma decode_encodeFrom (offset : ℕ) : decodeBleChunks (encodeFrom size data offset) = data.drop offset := by
  fun_induction encodeFrom size data offset with
  | case1 offset h stop flag ih =>
    have hle : offset ≤ stop := by omega
    simp only [decodeBleChunks, List.map_cons, List.flatten_cons, List.drop_succ_cons, List.drop_zero] at ih ⊢
    rw [ih, slice_append data hle]
  | case2 offset h =>
    rw [List.drop_eq_nil_of_le (not_lt.mp h)]
    rfl

def chunkPieces (chunks : List Bytes) : List (Piece UInt8) := pieces (chunks.map .write)

lemma chunkPieces_cons (flag : UInt8) (payload : Bytes) (chunks : List Bytes) :
    chunkPieces ((flag :: payload) :: chunks) = ⟨decide (flag = bleChunkFinal), payload⟩ :: chunkPieces chunks := rfl

lemma chunkPieces_append (chunks chunks' : List Bytes) :
    chunkPieces (chunks ++ chunks') = chunkPieces chunks ++ chunkPieces chunks' := by
  simp only [chunkPieces, pieces, List.map_append, List.filterMap_append]

lemma assemble_encodeFrom {offset : ℕ} (h : offset < data.length) (pending : Bytes) :
    Reassembly.assemble pending (chunkPieces (encodeFrom size data offset)) = ([pending ++ data.drop offset], []) := by
  induction offset using encodeFrom.induct size data generalizing pending with
  | case1 offset _ stop ih =>
    have hsize := NeZero.pos size
    have hle : offset ≤ stop := by omega
    rw [encodeFrom, if_pos h, chunkPieces_cons, Reassembly.assemble]
    by_cases hstop : stop = data.length
    · have hall : (data.take stop).drop offset = data.drop offset := by rw [hstop, List.take_length]
      rw [if_pos hstop, encodeFrom_done hstop.ge, hall]
      rfl
    · have hmore : decide (bleChunkContinues = bleChunkFinal) = false := by decide
      rw [if_neg hstop, hmore, if_neg Bool.false_ne_true, ih (by omega), List.append_assoc, slice_append data hle]
  | case2 offset hn => exact (hn h).elim

end Splitting

inductive Encoder
  | encodeBleChunks
  | encodeChunks

def Encoder.split : Encoder → Bytes → List Bytes
  | .encodeBleChunks, data => Protocol.encodeBleChunks data
  | .encodeChunks, data => Gatt.encodeChunks data

namespace Encoder

variable (e : Encoder) (data : Bytes)

lemma decode_split : decodeBleChunks (e.split data) = data := by
  cases e with
  | encodeBleChunks => exact decode_encodeFrom bleMaxPayload data 0
  | encodeChunks => exact decode_encodeFrom chunkSize data 0

variable {data}

lemma assemble_split (h : data ≠ []) (pending : Bytes) :
    Reassembly.assemble pending (chunkPieces (e.split data)) = ([pending ++ data], []) := by
  have hlen := List.length_pos_iff.mpr h
  cases e with
  | encodeBleChunks => exact assemble_encodeFrom bleMaxPayload data hlen pending
  | encodeChunks => exact assemble_encodeFrom chunkSize data hlen pending

lemma assemble_stream {fs : List (Encoder × Bytes)} (h : ∀ f ∈ fs, f.2 ≠ []) :
    Reassembly.frames [] (chunkPieces (fs.flatMap fun f => f.1.split f.2)) = fs.map Prod.snd ∧
      Reassembly.rest [] (chunkPieces (fs.flatMap fun f => f.1.split f.2)) = [] := by
  induction fs with
  | nil => exact ⟨rfl, rfl⟩
  | cons f fs ih =>
    obtain ⟨hf, hfs⟩ := List.forall_mem_cons.mp h
    obtain ⟨hframes, hrest⟩ := ih hfs
    have hhead := f.1.assemble_split hf []
    have hr : Reassembly.rest [] (chunkPieces (f.1.split f.2)) = [] := congrArg Prod.snd hhead
    have hh : Reassembly.frames [] (chunkPieces (f.1.split f.2)) = [f.2] := congrArg Prod.fst hhead
    rw [List.flatMap_cons, chunkPieces_append, Reassembly.frames_append, Reassembly.rest_append, hr, hh, hframes, hrest]
    exact ⟨rfl, rfl⟩

end Encoder

namespace GattServer

theorem chunk_streams_round_trip (s : GattServer) (hs : s.loop.isSome) (hb : s.rxBuf = [])
    (fs : List (Encoder × Bytes)) (hf : ∀ f ∈ fs, f.2 ≠ []) :
    (s.run ((fs.flatMap fun f => f.1.split f.2).map .write)).handed = s.handed ++ fs.map Prod.snd ∧
      (s.run ((fs.flatMap fun f => f.1.split f.2).map .write)).rxBuf = [] ∧
      ∀ f ∈ fs, decodeBleChunks (f.1.split f.2) = f.2 := by
  obtain ⟨-, hbuf, hhanded⟩ := s.run_reassembles ((fs.flatMap fun f => f.1.split f.2).map .write) hs
  obtain ⟨hframes, hrest⟩ := Encoder.assemble_stream hf
  rw [hb] at hbuf hhanded
  exact ⟨hhanded.trans (congrArg _ hframes), hbuf.trans hrest, fun f _ => f.1.decode_split f.2⟩

def mixedFrames : List (Encoder × Bytes) :=
  [(.encodeBleChunks, List.replicate 600 0x41), (.encodeChunks, [0x42]), (.encodeChunks, List.replicate 1100 0x43)]

theorem chunk_streams_mixed :
    (init.start.run ((mixedFrames.flatMap fun f => f.1.split f.2).map .write)).handed =
        init.start.handed ++ mixedFrames.map Prod.snd ∧
      (init.start.run ((mixedFrames.flatMap fun f => f.1.split f.2).map .write)).rxBuf = [] ∧
      ∀ f ∈ mixedFrames, decodeBleChunks (f.1.split f.2) = f.2 := by
  apply chunk_streams_round_trip init.start rfl rfl mixedFrames
  simp only [mixedFrames, List.forall_mem_cons]
  exact ⟨List.cons_ne_nil _ _, List.cons_ne_nil _ _, List.cons_ne_nil _ _, fun _ h => absurd h List.not_mem_nil⟩

end GattServer

end HaBluetooth.Gatt
