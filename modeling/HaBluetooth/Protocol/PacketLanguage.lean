import HaBluetooth.Protocol.PacketFormat

/-! Encoding and decoding against each other: the round trip, and how far the accepted language
exceeds the documented format. -/

namespace HaBluetooth.Protocol

open Python Support

theorem decode_encode {p c f : ℕ} {payload : Bytes} (hp : p < 2 ^ 32) (hc : c < 256) (hf : f < 256)
    (hl : payload.length ≤ 65535) :
    decodePacket <$> encodePacket p c payload f = .ok (some (p, c, payload)) := by
  have hn : payload.length < 256 ^ 2 := by omega
  obtain ⟨l, he, -, hfields⟩ := exists_encoding (p := p) (c := c) (f := f) (by omega) (by omega) (by omega) hn
  rw [he, ← hfields]
  exact congrArg Except.ok (decodePacket_bytes l)

theorem decode_encode_embedded :
    decodePacket <$> encodePacket 0xDEADBEEF 0x12 [0xAA, 0xBB, 0x00, 0xCC, 0xDD] 0 =
      .ok (some (0xDEADBEEF, 0x12, [0xAA, 0xBB, 0x00, 0xCC, 0xDD])) :=
  decode_encode (by decide) (by decide) (by decide) (by decide)

def declaredLength (data : Bytes) : ℕ := BigEndian.value ((data.drop 8).take 2)

/-- Magic bytes and CRC are in order, but there is more between them than the declared payload. -/
def Padded (data : Bytes) : Prop :=
  14 + declaredLength data < data.length ∧
    data.take 2 = pktHeader ∧ data.drop (data.length - 2) = pktEnd ∧
    crc16Ccitt ((data.take (data.length - 4)).drop 2) =
      BigEndian.value ((data.take (data.length - 2)).drop (data.length - 4))

instance (data : Bytes) : Decidable (Padded data) := by unfold Padded; infer_instance

lemma declaredLength_bytes (l : Layout) : declaredLength l.bytes = l.payload.length := by
  have h8 : (pktHeader ++ l.passcode ++ [l.cmd, l.flags]).length = 8 := by
    simp [pktHeader, l.passcode_length]
  have he : l.bytes = (pktHeader ++ l.passcode ++ [l.cmd, l.flags]) ++
      (l.payloadLen ++ (l.payload ++ l.slack ++ l.crc ++ pktEnd)) := by
    simp [Layout.bytes, Layout.inner]
  rw [declaredLength, he, ← h8, List.drop_left, ← l.payloadLen_length, List.take_left, l.payload_length]

lemma padded_bytes (l : Layout) : Padded l.bytes ↔ l.slack ≠ [] := by
  obtain ⟨ht, hd, hin, hcr⟩ := take_framed l.inner l.crc l.crc_length
  have hs : 14 + declaredLength l.bytes < l.bytes.length ↔ l.slack ≠ [] := by
    rw [declaredLength_bytes, l.bytes_length, ← List.length_pos_iff]
    omega
  refine ⟨fun h => hs.mp h.1, fun h => ⟨hs.mpr h, ht, hd, ?_⟩⟩
  rw [Layout.bytes, hin, hcr]
  exact l.crc_value

lemma exists_layout_padded {data : Bytes} (h : Padded data) : ∃ l : Layout, l.bytes = data := by
  obtain ⟨hlen, hh, he, hk⟩ := h
  have hn : 14 ≤ data.length := by omega
  have hi : 8 ≤ ((data.take (data.length - 4)).drop 2).length := by simp; omega
  have hc : ((data.take (data.length - 2)).drop (data.length - 4)).length = 2 := by simp; omega
  have hd : (((data.take (data.length - 4)).drop 2).drop 6).take 2 = (data.drop 8).take 2 := by
    rw [List.drop_drop, List.drop_take, List.take_take]
    congr 1
    omega
  have hr := decodePacket_framed hi hc
  rw [← framed_of_ends hn hh he, hd, if_pos ⟨hk, by simp only [declaredLength] at hlen; simp; omega⟩] at hr
  obtain ⟨l, hl, -⟩ := exists_layout hr
  exact ⟨l, hl⟩

theorem accepted_encodes_iff (data : Bytes) :
    (∀ p c payload, decodePacket data = some (p, c, payload) →
      ∃ flags < 256, encodePacket p c payload flags = .ok data) ↔ ¬ Padded data := by
  constructor
  · intro h hpad
    obtain ⟨l, rfl⟩ := exists_layout_padded hpad
    obtain ⟨f, -, he⟩ := h _ _ _ (decodePacket_bytes l)
    obtain ⟨l', hb, hs, -, -⟩ := encodePacket_eq_ok.mp he
    exact (padded_bytes l').mp (hb ▸ hpad) hs
  · intro hpad p c payload hr
    obtain ⟨l, rfl, hfields⟩ := exists_layout hr
    have hs : l.slack = [] := not_not.mp (fun hh => hpad ((padded_bytes l).mpr hh))
    exact ⟨l.flags.toNat, l.flags.toNat_lt, encodePacket_eq_ok.mpr ⟨l, rfl, hs, hfields, rfl⟩⟩

def paddedPacket : Bytes := [0xAA, 0xBB, 0, 0, 0, 1, 0x10, 0, 0, 0, 0xFF, 0x47, 0x78, 0xCC, 0xDD]

theorem padded_accepted : decodePacket paddedPacket = some (1, 0x10, []) ∧
    ¬ ∃ flags < 256, encodePacket 1 0x10 [] flags = .ok paddedPacket := by
  refine ⟨by decide +kernel, ?_⟩
  rintro ⟨f, -, he⟩
  obtain ⟨l, hb, hs, -, -⟩ := encodePacket_eq_ok.mp he
  have hpad : Padded paddedPacket := by decide +kernel
  exact (padded_bytes l).mp (hb ▸ hpad) hs

end HaBluetooth.Protocol
