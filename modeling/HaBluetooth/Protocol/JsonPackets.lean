import HaBluetooth.Protocol.PacketFormat
import HaBluetooth.Python.JsonSize

/-! Packets whose payload is a JSON text. -/

namespace HaBluetooth.Protocol

open Python

/-- `None` stands for no object at all and leaves the payload empty. -/
def jsonPayload (obj : Value) : Result Bytes :=
  match obj with
  | .null => .ok []
  | obj => encodeUtf8 <$> dumps obj

def encodePacketJson (passcode cmd : ℕ) (obj : Value) : Result Bytes := do
  let payload ← jsonPayload obj
  encodePacket passcode cmd payload 0

variable {p c : ℕ} {v : Value}

lemma jsonPayload_of_ne (hn : v ≠ .null) : jsonPayload v = encodeUtf8 <$> dumps v := by
  cases v
  case null => exact (hn rfl).elim
  all_goals rfl

lemma jsonPayload_ok (h : v.Serialisable) :
    ∃ payload, jsonPayload v = .ok payload ∧ (payload.length ≤ 65535 ↔ jsonSize v ≤ 65535) := by
  by_cases hn : v = .null
  · subst hn
    exact ⟨[], rfl, by decide⟩
  · have hd : dumps v = .ok (text v) := by
      rw [dumps, h]
    refine ⟨encodeUtf8 (text v), ?_, by rw [length_text]⟩
    rw [jsonPayload_of_ne hn, hd]
    rfl

lemma jsonPayload_error (h : ¬ v.Serialisable) : ∃ e, jsonPayload v = .error e := by
  obtain ⟨t, ht⟩ := Option.ne_none_iff_exists'.mp h
  have hn : v ≠ .null := by
    rintro rfl
    exact h rfl
  rw [jsonPayload_of_ne hn, dumps, ht]
  exact ⟨_, rfl⟩

lemma encodePacketJson_ok (hp : p < 256 ^ 4) (hc : c < 256) (h : v.Serialisable) (hs : jsonSize v ≤ 65535) :
    ∃ packet payload, encodePacketJson p c v = .ok packet ∧ jsonPayload v = .ok payload ∧
      decodePacket packet = some (p, c, payload) := by
  obtain ⟨payload, hpay, hfits⟩ := jsonPayload_ok h
  have hl := hfits.mpr hs
  obtain ⟨l, he, -, hf⟩ := exists_encoding (p := p) (c := c) (f := 0) hp (by omega) (by decide)
    (show payload.length < 256 ^ 2 by omega)
  refine ⟨l.bytes, payload, ?_, hpay, hf ▸ decodePacket_bytes l⟩
  rw [encodePacketJson, hpay]
  exact he

lemma encodePacketJson_error (h : v.Serialisable → 65535 < jsonSize v) :
    ∃ e, encodePacketJson p c v = .error e := by
  by_cases hser : v.Serialisable
  · obtain ⟨payload, hpay, hfits⟩ := jsonPayload_ok hser
    have hl : payload.length > 0xFFFF := by
      have hlarge := h hser
      omega
    refine ⟨⟨.valueError, s!"Payload too large for uint16 length field: {payload.length} bytes"⟩, ?_⟩
    rw [encodePacketJson, hpay]
    change encodePacket p c payload 0 = _
    rw [encodePacket, if_pos hl]
    rfl
  · obtain ⟨e, he⟩ := jsonPayload_error hser
    exact ⟨e, by rw [encodePacketJson, he]; rfl⟩

end HaBluetooth.Protocol
