import HaBluetooth.Gatt.ChunkStreams
import HaBluetooth.Protocol.PacketLanguage

/-! Chunks lost between the first and the last one. The frame put together from the rest keeps the
length field of the packet, which is in the first chunk, and is too short for it. -/

namespace HaBluetooth.Gatt

open Python Protocol Support

section Splitting

variable (size : ℕ) [NeZero size] {data : Bytes}

lemma encodeFrom_first (h : data ≠ []) :
    ∃ flag rest, encodeFrom size data 0 = (flag :: data.take size) :: rest := by
  have hmin : data.take (min size data.length) = data.take size := by
    rw [← List.take_take, List.take_length]
  rw [encodeFrom_more (List.length_pos_iff.mpr h), Nat.zero_add, List.drop_zero, hmin]
  exact ⟨_, _, rfl⟩

lemma encodeFrom_flags {offset : ℕ} (h : offset < data.length) :
    ∃ chunks last, encodeFrom size data offset = chunks ++ [bleChunkFinal :: last] ∧ last ≠ [] ∧
      ∀ c ∈ chunks, ∃ payload, payload ≠ [] ∧ c = bleChunkContinues :: payload := by
  induction offset using encodeFrom.induct size data with
  | case1 offset _ stop ih =>
    have hsize := NeZero.pos size
    have hpayload : (data.take stop).drop offset ≠ [] := by
      rw [← List.length_pos_iff, List.length_drop, List.length_take]
      omega
    rw [encodeFrom_more h]
    change ∃ chunks last, (_ :: (data.take stop).drop offset) :: encodeFrom size data stop = _ ∧ _
    by_cases hstop : stop = data.length
    · refine ⟨[], _, ?_, hpayload, by simp⟩
      rw [if_pos hstop, encodeFrom_done hstop.ge]
      rfl
    · obtain ⟨chunks, last, hrest, hlast, hchunks⟩ := ih (by omega)
      refine ⟨(bleChunkContinues :: (data.take stop).drop offset) :: chunks, last, ?_, hlast, ?_⟩
      · rw [if_neg hstop, hrest]
        rfl
      · exact List.forall_mem_cons.mpr ⟨⟨_, hpayload, rfl⟩, hchunks⟩
  | case2 offset hn => exact (hn h).elim

end Splitting

/-! ### What is left when chunks are lost -/

lemma decodeBleChunks_cons (c : Bytes) (chunks : List Bytes) :
    decodeBleChunks (c :: chunks) = c.drop 1 ++ decodeBleChunks chunks := rfl

lemma decodeBleChunks_shortens {sub chunks : List Bytes} (hsub : sub.Sublist chunks)
    (hc : ∀ c ∈ chunks, c.drop 1 ≠ []) :
    (decodeBleChunks sub).length ≤ (decodeBleChunks chunks).length ∧
      (sub ≠ chunks → (decodeBleChunks sub).length < (decodeBleChunks chunks).length) := by
  induction hsub with
  | slnil => exact ⟨le_rfl, fun h => (h rfl).elim⟩
  | cons c hsub ih =>
    obtain ⟨hle, -⟩ := ih (List.forall_mem_cons.mp hc).2
    have hpos := List.length_pos_iff.mpr (List.forall_mem_cons.mp hc).1
    rw [decodeBleChunks_cons, List.length_append]
    exact ⟨by omega, fun _ => by omega⟩
  | cons_cons c hsub ih =>
    obtain ⟨hle, hlt⟩ := ih (List.forall_mem_cons.mp hc).2
    simp only [decodeBleChunks_cons, List.length_append]
    exact ⟨by omega, fun hne => Nat.add_lt_add_left (hlt fun h => hne (h ▸ rfl)) _⟩

lemma declaredLength_append {xs : Bytes} (h : 10 ≤ xs.length) (ys : Bytes) :
    declaredLength (xs ++ ys) = declaredLength xs := by
  have hlen : 2 ≤ (xs.drop 8).length := by
    rw [List.length_drop]
    omega
  rw [declaredLength, declaredLength, List.drop_append_of_le_length (by omega), List.take_append_of_le_length hlen]

lemma decodePacket_short {data : Bytes} (h : data.length < 14 + declaredLength data) : decodePacket data = none := by
  by_contra hr
  obtain ⟨r, hr⟩ := Option.ne_none_iff_exists'.mp hr
  obtain ⟨l, rfl, -⟩ := exists_layout hr
  rw [declaredLength_bytes, l.bytes_length] at h
  omega

namespace Encoder

variable (e : Encoder) {data : Bytes}

lemma split_first (h : 10 ≤ data.length) :
    ∃ flag payload rest, e.split data = (flag :: payload) :: rest ∧ 10 ≤ payload.length := by
  have hne : data ≠ [] := by
    rintro rfl
    simp at h
  cases e with
  | encodeBleChunks =>
    obtain ⟨flag, rest, hs⟩ := encodeFrom_first bleMaxPayload hne
    exact ⟨flag, _, rest, hs, by rw [List.length_take]; exact le_min (by decide) h⟩
  | encodeChunks =>
    obtain ⟨flag, rest, hs⟩ := encodeFrom_first chunkSize hne
    exact ⟨flag, _, rest, hs, by rw [List.length_take]; exact le_min (by decide) h⟩

lemma split_flags (h : data ≠ []) :
    ∃ chunks last, e.split data = chunks ++ [bleChunkFinal :: last] ∧ last ≠ [] ∧
      ∀ c ∈ chunks, ∃ payload, payload ≠ [] ∧ c = bleChunkContinues :: payload := by
  have hpos := List.length_pos_iff.mpr h
  cases e with
  | encodeBleChunks => exact encodeFrom_flags bleMaxPayload hpos
  | encodeChunks => exact encodeFrom_flags chunkSize hpos

lemma split_content (h : data ≠ []) : ∀ c ∈ e.split data, c.drop 1 ≠ [] := by
  obtain ⟨chunks, last, hs, hlast, hchunks⟩ := e.split_flags h
  rw [hs]
  intro c hc
  rcases List.mem_append.mp hc with hc | hc
  · obtain ⟨payload, hpayload, rfl⟩ := hchunks c hc
    exact hpayload
  · rw [List.mem_singleton.mp hc]
    exact hlast

lemma declaredLength_kept (h : 10 ≤ data.length) {sub : List Bytes} (hfirst : sub.head? = (e.split data).head?) :
    declaredLength (decodeBleChunks sub) = declaredLength data := by
  obtain ⟨flag, first, rest, hs, hten⟩ := e.split_first h
  obtain ⟨kept, rfl⟩ : ∃ kept, sub = (flag :: first) :: kept := by
    rw [hs, List.head?_cons] at hfirst
    exact List.head?_eq_some_iff.mp hfirst
  have hwhole := e.decode_split data
  rw [hs, decodeBleChunks_cons] at hwhole
  rw [← hwhole]
  exact (declaredLength_append hten _).trans (declaredLength_append hten _).symm

lemma chunkPieces_content {chunks : List Bytes} (h : ∀ c ∈ chunks, c ≠ []) :
    (chunkPieces chunks).flatMap Piece.content = decodeBleChunks chunks := by
  induction chunks with
  | nil => rfl
  | cons c chunks ih =>
    obtain ⟨hc, hchunks⟩ := List.forall_mem_cons.mp h
    obtain ⟨flag, payload, rfl⟩ := List.exists_cons_of_ne_nil hc
    rw [chunkPieces_cons, List.flatMap_cons, ih hchunks]
    rfl

lemma assemble_kept {sub : List Bytes} (h : data ≠ []) (hsub : sub.Sublist (e.split data))
    (hlast : sub.getLast? = (e.split data).getLast?) :
    Reassembly.assemble [] (chunkPieces sub) = ([decodeBleChunks sub], []) := by
  have hfull : ∀ c ∈ sub, c ≠ [] := by
    rintro c hc rfl
    exact e.split_content h [] (hsub.subset hc) rfl
  obtain ⟨chunks, last, hs, -, hchunks⟩ := e.split_flags h
  rw [hs, List.getLast?_concat] at hlast
  obtain ⟨kept, rfl⟩ := List.getLast?_eq_some_iff.mp hlast
  rw [hs, List.append_sublist_append_right] at hsub
  have hkept : ∀ c ∈ kept, ∃ payload, payload ≠ [] ∧ c = bleChunkContinues :: payload := fun c hc =>
    hchunks c (hsub.subset hc)
  have hopen : ∀ p ∈ chunkPieces kept, p.last = false := by
    intro p hp
    obtain ⟨ev, hev, hpiece⟩ := List.mem_filterMap.mp hp
    obtain ⟨c, hc, rfl⟩ := List.mem_map.mp hev
    obtain ⟨payload, -, rfl⟩ := hkept c hc
    cases hpiece
    rfl
  have hq : (chunkPieces [bleChunkFinal :: last]) = [⟨true, last⟩] := rfl
  rw [chunkPieces_append, hq, Reassembly.assemble_closed hopen rfl, ← hq, ← chunkPieces_append,
    chunkPieces_content hfull, List.nil_append]

end Encoder

namespace GattServer

theorem lost_chunks_noticed {p c f : ℕ} {payload packet : Bytes} (henc : encodePacket p c payload f = .ok packet)
    (e : Encoder) {sub : List Bytes} (hsub : sub.Sublist (e.split packet)) (hne : sub ≠ e.split packet)
    (hfirst : sub.head? = (e.split packet).head?) (hlast : sub.getLast? = (e.split packet).getLast?)
    (s : GattServer) (hs : s.loop.isSome) (hb : s.rxBuf = []) :
    ∃ frame, (s.run (sub.map .write)).handed = s.handed ++ [frame] ∧ decodePacket frame = none := by
  obtain ⟨l, rfl, hslack, -, -⟩ := encodePacket_eq_ok.mp henc
  have hlen : l.bytes.length = 14 + l.payload.length := by
    rw [l.bytes_length, hslack, List.length_nil, Nat.add_zero]
  have hbytes : l.bytes ≠ [] := by
    intro h
    rw [h, List.length_nil] at hlen
    omega
  refine ⟨decodeBleChunks sub, ?_, decodePacket_short ?_⟩
  · obtain ⟨-, -, hhanded⟩ := s.run_reassembles (sub.map .write) hs
    rw [hhanded, hb]
    exact congrArg (s.handed ++ ·.1) (e.assemble_kept hbytes hsub hlast)
  · have hdecl : declaredLength (decodeBleChunks sub) = l.payload.length := by
      rw [e.declaredLength_kept (by omega) hfirst, declaredLength_bytes]
    have hshort := (decodeBleChunks_shortens hsub (e.split_content hbytes)).2 hne
    rw [e.decode_split] at hshort
    omega

theorem lost_chunks_noticed_middle :
    ∃ packet a b z, encodePacket 1 0x30 (List.replicate 700 0x41) 0 = .ok packet ∧
      Encoder.encodeChunks.split packet = [a, b, z] ∧
      ∃ frame, (init.start.run ([a, z].map .write)).handed = init.start.handed ++ [frame] ∧
        decodePacket frame = none := by
  obtain ⟨l, henc, hslack, hfields⟩ := @exists_encoding 1 0x30 0 (List.replicate 700 0x41) (by decide) (by decide)
    (by decide) (by rw [List.length_replicate]; decide)
  have hpayload : l.payload = List.replicate 700 0x41 := congrArg (fun r => r.2.2) hfields
  have hlen : l.bytes.length = 714 := by
    rw [l.bytes_length, hslack, hpayload, List.length_replicate, List.length_nil]
  have hthree : (Encoder.encodeChunks.split l.bytes).length = 3 := by
    rw [Encoder.split, encodeChunks, length_encodeFrom, hlen]
    decide
  obtain ⟨a, b, z, hsplit⟩ := List.length_eq_three.mp hthree
  refine ⟨l.bytes, a, b, z, henc, hsplit, ?_⟩
  apply lost_chunks_noticed henc .encodeChunks _ _ _ _ init.start rfl rfl
  · rw [hsplit]
    exact .cons_cons a (.cons b (.refl [z]))
  · rw [hsplit]
    simp
  · rw [hsplit]
    rfl
  · rw [hsplit]
    rfl

end GattServer

end HaBluetooth.Gatt
