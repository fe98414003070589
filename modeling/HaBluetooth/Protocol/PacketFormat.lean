import HaBluetooth.Protocol.Packets

/-! The byte strings the decoder accepts, field by field in wire order. Besides the fields of the
documented format they may carry slack bytes between the declared payload and the CRC. -/

namespace HaBluetooth.Protocol

open Python Support

structure Layout where
  passcode : Bytes
  cmd : UInt8
  flags : UInt8
  payloadLen : Bytes
  payload : Bytes
  slack : Bytes
  crc : Bytes
  passcode_length : passcode.length = 4
  payloadLen_length : payloadLen.length = 2
  crc_length : crc.length = 2
  payload_length : payload.length = BigEndian.value payloadLen
  crc_value : crc16Ccitt (passcode ++ [cmd, flags] ++ payloadLen ++ payload ++ slack) = BigEndian.value crc

namespace Layout

variable (l : Layout)

def inner : Bytes := l.passcode ++ [l.cmd, l.flags] ++ l.payloadLen ++ l.payload ++ l.slack

def bytes : Bytes := pktHeader ++ l.inner ++ l.crc ++ pktEnd

def fields : ℕ × ℕ × Bytes := (BigEndian.value l.passcode, l.cmd.toNat, l.payload)

lemma crc_inner : crc16Ccitt l.inner = BigEndian.value l.crc := l.crc_value

lemma inner_length : l.inner.length = 8 + l.payload.length + l.slack.length := by
  simp [inner, l.passcode_length, l.payloadLen_length]
  omega

lemma bytes_length : l.bytes.length = 14 + l.payload.length + l.slack.length := by
  simp [bytes, l.inner_length, l.crc_length, pktHeader, pktEnd]
  omega

end Layout

lemma take_framed (inner crc : Bytes) (hc : crc.length = 2) :
    let data := pktHeader ++ inner ++ crc ++ pktEnd
    data.take 2 = pktHeader ∧ data.drop (data.length - 2) = pktEnd ∧
      (data.take (data.length - 4)).drop 2 = inner ∧
      (data.take (data.length - 2)).drop (data.length - 4) = crc := by
  have hl : (pktHeader ++ inner ++ crc ++ pktEnd).length = inner.length + 6 := by
    simp [pktHeader, pktEnd, hc]
  have h4 : inner.length + 6 - 4 = (pktHeader ++ inner).length := by simp [pktHeader]
  have h2 : inner.length + 6 - 2 = (pktHeader ++ inner ++ crc).length := by simp [pktHeader, hc]
  simp only [hl]
  refine ⟨by simp [pktHeader], by rw [h2, List.drop_left], ?_, by rw [h2, List.take_left, h4, List.drop_left]⟩
  rw [h4, List.append_assoc (pktHeader ++ inner), List.take_left]
  exact List.drop_left' rfl

lemma framed_of_ends {data : Bytes} (hn : 14 ≤ data.length) (hh : data.take 2 = pktHeader)
    (he : data.drop (data.length - 2) = pktEnd) :
    data = pktHeader ++ (data.take (data.length - 4)).drop 2 ++
      (data.take (data.length - 2)).drop (data.length - 4) ++ pktEnd := by
  have h2 : (data.take (data.length - 4)).take 2 = data.take 2 := by
    rw [List.take_take]
    congr 1
    omega
  have h4 : (data.take (data.length - 2)).take (data.length - 4) = data.take (data.length - 4) := by
    rw [List.take_take]
    congr 1
    omega
  rw [← hh, ← h2, List.take_append_drop, ← h4, List.take_append_drop, ← he, List.take_append_drop]

lemma decodePacket_framed {inner crc : Bytes} (hi : 8 ≤ inner.length) (hc : crc.length = 2) :
    decodePacket (pktHeader ++ inner ++ crc ++ pktEnd) =
      if crc16Ccitt inner = BigEndian.value crc ∧ 8 + BigEndian.value ((inner.drop 6).take 2) ≤ inner.length
      then some (BigEndian.value (inner.take 4), BigEndian.value ((inner.drop 4).take 1),
        (inner.take (8 + BigEndian.value ((inner.drop 6).take 2))).drop 8)
      else none := by
  have hl : ¬ (pktHeader ++ inner ++ crc ++ pktEnd).length < 14 := by
    simp [pktHeader, pktEnd, hc]
    omega
  obtain ⟨ht, hd, hin, hcr⟩ := take_framed inner crc hc
  have hm : ¬ ((pktHeader ++ inner ++ crc ++ pktEnd).take 2 ≠ pktHeader ∨
      (pktHeader ++ inner ++ crc ++ pktEnd).drop ((pktHeader ++ inner ++ crc ++ pktEnd).length - 2) ≠ pktEnd) := by
    rw [ht, hd]
    simp
  rw [decodePacket, if_neg hl, if_neg hm]
  simp only [hin, hcr, pktInnerSize]
  by_cases hk : crc16Ccitt inner = BigEndian.value crc
  · rw [if_neg (not_not.mpr hk), if_neg (by omega)]
    by_cases hp : 8 + BigEndian.value ((inner.drop 6).take 2) ≤ inner.length
    · rw [if_neg (by omega), if_pos ⟨hk, hp⟩]
    · rw [if_pos (by omega), if_neg (fun hh => hp hh.2)]
  · rw [if_pos hk, if_neg (fun hh => hk hh.1)]

theorem decodePacket_bytes (l : Layout) : decodePacket l.bytes = some l.fields := by
  have hi := l.inner_length
  have hlen : (l.inner.drop 6).take 2 = l.payloadLen := by
    have h6 : (l.passcode ++ [l.cmd, l.flags]).length = 6 := by simp [l.passcode_length]
    rw [Layout.inner, List.append_assoc, List.append_assoc, ← h6, List.drop_left,
      ← l.payloadLen_length, List.take_left]
  have hpass : l.inner.take 4 = l.passcode := by
    rw [Layout.inner, List.append_assoc, List.append_assoc, List.append_assoc, ← l.passcode_length,
      List.take_left]
  have hcmd : (l.inner.drop 4).take 1 = [l.cmd] := by
    rw [Layout.inner, List.append_assoc, List.append_assoc, List.append_assoc, ← l.passcode_length,
      List.drop_left]
    rfl
  have hpay : (l.inner.take (8 + l.payload.length)).drop 8 = l.payload := by
    have h8 : (l.passcode ++ [l.cmd, l.flags] ++ l.payloadLen).length = 8 := by
      simp [l.passcode_length, l.payloadLen_length]
    have hn : (l.passcode ++ [l.cmd, l.flags] ++ l.payloadLen ++ l.payload).length = 8 + l.payload.length := by
      rw [List.length_append, h8]
    rw [Layout.inner, ← hn, List.take_left, ← h8, List.drop_left]
  rw [Layout.bytes, decodePacket_framed (by omega) l.crc_length, hlen, ← l.payload_length, hpass, hcmd, hpay,
    if_pos ⟨l.crc_value, by omega⟩]
  simp [Layout.fields, BigEndian.value]

lemma eight_fields {inner : Bytes} (hi : 8 ≤ inner.length) :
    ∃ a b c d cmd flags x y rest, inner = a :: b :: c :: d :: cmd :: flags :: x :: y :: rest := by
  match inner, hi with
  | a :: b :: c :: d :: cmd :: flags :: x :: y :: rest, _ => exact ⟨a, b, c, d, cmd, flags, x, y, rest, rfl⟩

theorem exists_layout {data : Bytes} {r : ℕ × ℕ × Bytes} (h : decodePacket data = some r) :
    ∃ l : Layout, l.bytes = data ∧ l.fields = r := by
  have hn : 14 ≤ data.length := by
    by_contra hh
    rw [decodePacket, if_pos (by omega)] at h
    cases h
  have hm : data.take 2 = pktHeader ∧ data.drop (data.length - 2) = pktEnd := by
    by_contra hh
    rw [decodePacket, if_neg (by omega), if_pos (by tauto)] at h
    cases h
  have hdata := framed_of_ends hn hm.1 hm.2
  set inner := (data.take (data.length - 4)).drop 2 with hinner
  set crc := (data.take (data.length - 2)).drop (data.length - 4) with hcrc
  have hi : 8 ≤ inner.length := by simp [hinner]; omega
  have hc : crc.length = 2 := by simp [hcrc]; omega
  rw [hdata, decodePacket_framed hi hc] at h
  obtain ⟨a, b, c, d, cmd, flags, x, y, rest, he⟩ := eight_fields hi
  rw [he] at h
  split at h
  · rename_i hh
    simp only [List.drop_succ_cons, List.drop_zero, List.take_succ_cons, List.take_zero] at hh h
    obtain ⟨hk, hp⟩ := hh
    simp only [List.length_cons] at hp
    refine ⟨⟨[a, b, c, d], cmd, flags, [x, y], rest.take (BigEndian.value [x, y]),
      rest.drop (BigEndian.value [x, y]), crc, rfl, rfl, hc, ?_, ?_⟩, ?_, ?_⟩
    · simp
      omega
    · simpa using hk
    · rw [hdata, he]
      simp [Layout.bytes, Layout.inner]
    · rw [← Option.some.inj h]
      simp [Layout.fields, Nat.add_comm 8]
  · cases h

lemma encodePacket_valid {p c f : ℕ} {payload : Bytes} (hp : p < 256 ^ 4) (hc : c < 256 ^ 1)
    (hf : f < 256 ^ 1) (hl : payload.length < 256 ^ 2) :
    encodePacket p c payload f =
      let inner := BigEndian.toBytes 4 p ++ BigEndian.toBytes 1 c ++ BigEndian.toBytes 1 f ++
        BigEndian.toBytes 2 payload.length ++ payload
      .ok (pktHeader ++ inner ++ BigEndian.toBytes 2 (crc16Ccitt inner) ++ pktEnd) := by
  have hn : ¬ payload.length > 0xFFFF := by omega
  simp only [encodePacket, packInner, if_neg hn, structPack_ok hp, structPack_ok hc, structPack_ok hf,
    structPack_ok hl, structPack_ok (crc16Ccitt_lt _)]
  rfl

lemma encodePacket_fields {p c f : ℕ} {payload data : Bytes} (h : encodePacket p c payload f = .ok data) :
    p < 256 ^ 4 ∧ c < 256 ^ 1 ∧ f < 256 ^ 1 ∧ payload.length < 256 ^ 2 := by
  by_cases hn : payload.length > 0xFFFF
  · simp only [encodePacket, if_pos hn] at h
    cases h
  · simp only [encodePacket, packInner, if_neg hn] at h
    obtain ⟨header, hh, -⟩ := bind_eq_ok.mp h
    obtain ⟨_, hp, hh⟩ := bind_eq_ok.mp hh
    obtain ⟨_, hc, hh⟩ := bind_eq_ok.mp hh
    obtain ⟨_, hf, -⟩ := bind_eq_ok.mp hh
    exact ⟨(structPack_eq_ok.mp hp).1, (structPack_eq_ok.mp hc).1, (structPack_eq_ok.mp hf).1, by omega⟩

lemma encodePacket_layout {p c f : ℕ} {payload data : Bytes} (h : encodePacket p c payload f = .ok data) :
    ∃ l : Layout, l.bytes = data ∧ l.slack = [] ∧ l.fields = (p, c, payload) ∧ l.flags.toNat = f := by
  obtain ⟨hp, hc, hf, hl⟩ := encodePacket_fields h
  have hcb : BigEndian.toBytes 1 c = [UInt8.ofNat c] := rfl
  have hfb : BigEndian.toBytes 1 f = [UInt8.ofNat f] := rfl
  rw [encodePacket_valid hp hc hf hl] at h
  refine ⟨⟨BigEndian.toBytes 4 p, UInt8.ofNat c, UInt8.ofNat f, BigEndian.toBytes 2 payload.length,
    payload, [], BigEndian.toBytes 2 (crc16Ccitt (BigEndian.toBytes 4 p ++ [UInt8.ofNat c, UInt8.ofNat f] ++
      BigEndian.toBytes 2 payload.length ++ payload)), by simp, by simp, by simp, ?_, ?_⟩, ?_, rfl, ?_, ?_⟩
  · exact (BigEndian.value_toBytes hl).symm
  · rw [List.append_nil, BigEndian.value_toBytes (crc16Ccitt_lt _)]
  · rw [← Except.ok.inj h]
    simp [Layout.bytes, Layout.inner, hcb, hfb]
  · simp only [Layout.fields, BigEndian.value_toBytes hp, UInt8.toNat_ofNat', Prod.mk.injEq, true_and, and_true]
    omega
  · simp only [UInt8.toNat_ofNat']
    omega

lemma Layout.encodePacket_bytes (l : Layout) (hs : l.slack = []) :
    encodePacket (BigEndian.value l.passcode) l.cmd.toNat l.payload l.flags.toNat = .ok l.bytes := by
  have hp := BigEndian.value_lt l.passcode
  have hn := BigEndian.value_lt l.payloadLen
  rw [l.passcode_length] at hp
  rw [l.payloadLen_length, ← l.payload_length] at hn
  have hlb : BigEndian.toBytes 2 l.payload.length = l.payloadLen := by
    rw [l.payload_length, BigEndian.toBytes_value l.payloadLen_length]
  have hinner : l.passcode ++ [l.cmd] ++ [l.flags] ++ l.payloadLen ++ l.payload = l.inner := by
    simp [Layout.inner, hs]
  have hcb : BigEndian.toBytes 2 (crc16Ccitt l.inner) = l.crc := by
    rw [l.crc_inner, BigEndian.toBytes_value l.crc_length]
  rw [encodePacket_valid hp l.cmd.toNat_lt l.flags.toNat_lt hn]
  simp only [BigEndian.toBytes_value l.passcode_length, hlb, BigEndian.toBytes_one, hinner, hcb]
  rfl

theorem encodePacket_eq_ok {p c f : ℕ} {payload data : Bytes} :
    encodePacket p c payload f = .ok data ↔
      ∃ l : Layout, l.bytes = data ∧ l.slack = [] ∧ l.fields = (p, c, payload) ∧ l.flags.toNat = f := by
  constructor
  · exact encodePacket_layout
  · rintro ⟨l, rfl, hs, hfields, rfl⟩
    obtain ⟨rfl, rfl, rfl⟩ := Prod.mk.inj hfields |>.imp_right Prod.mk.inj
    exact l.encodePacket_bytes hs

lemma exists_encoding {p c f : ℕ} {payload : Bytes} (hp : p < 256 ^ 4) (hc : c < 256 ^ 1)
    (hf : f < 256 ^ 1) (hl : payload.length < 256 ^ 2) :
    ∃ l : Layout, encodePacket p c payload f = .ok l.bytes ∧ l.slack = [] ∧ l.fields = (p, c, payload) := by
  have he := encodePacket_valid hp hc hf hl
  obtain ⟨l, hb, hs, hfields, -⟩ := encodePacket_eq_ok.mp he
  exact ⟨l, hb ▸ he, hs, hfields⟩

lemma encodePacket_reqAreas :
    encodePacket 1 0x10 [] 0 = .ok [0xAA, 0xBB, 0, 0, 0, 1, 0x10, 0, 0, 0, 0x80, 0xC8, 0xCC, 0xDD] := by
  decide +kernel

end HaBluetooth.Protocol
