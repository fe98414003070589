import HaBluetooth.Protocol.JsonPackets
import HaBluetooth.Protocol.Resynchronisation
import HaBluetooth.Python.JsonRoundTrip

/-! Messages on the serial line, as packets in frames and as bare JSON in frames. -/

namespace HaBluetooth.Protocol

open Python Support

section

-- `repr(float(text))`
variable (floatRepr : List Char → String)

/-- What a peer finds in a frame: an empty payload is no object at all. -/
def readMessage (frame : Bytes) : Option (ℕ × ℕ × Value) := do
  let (passcode, cmd, payload) ← decodePacket frame
  if payload = [] then return (passcode, cmd, .null)
  else
    let content ← decodeUtf8 payload
    return (passcode, cmd, ← loadsText floatRepr content.toList)

end

def usbMessage (m : ℕ × ℕ × Value) : Result Bytes := encodePacketJson m.1 m.2.1 m.2.2 >>= frameForUsb

def usbMessages : List (ℕ × ℕ × Value) → Result Bytes
  | [] => .ok []
  | m :: messages => do
    let frame ← usbMessage m
    let stream ← usbMessages messages
    return frame ++ stream

variable {floatRepr : List Char → String}

lemma encodeUtf8_ne_nil {cs : List Char} (h : cs ≠ []) : encodeUtf8 cs ≠ [] := by
  intro hnil
  have hcs := decodeUtf8_encodeUtf8 cs
  rw [hnil, show ([] : Bytes) = encodeUtf8 [] from rfl, decodeUtf8_encodeUtf8] at hcs
  exact h (String.ofList_injective (Option.some.inj hcs)).symm

lemma readMessage_packet {p c : ℕ} {v : Value} {packet : Bytes} (hv : v.Readable floatRepr)
    (h : encodePacketJson p c v = .ok packet) : readMessage floatRepr packet = some (p, c, jsonValue v) := by
  obtain ⟨payload, hpay, hpacket⟩ := bind_eq_ok.mp h
  obtain ⟨l, rfl, -, hfields, -⟩ := encodePacket_eq_ok.mp hpacket
  have hdecode : decodePacket l.bytes = some (p, c, payload) := hfields ▸ decodePacket_bytes l
  rw [readMessage, hdecode]
  by_cases hn : v = .null
  · subst hn
    obtain rfl := Except.ok.inj hpay
    simp [jsonValue]
  · rw [jsonPayload_of_ne hn, dumps_readable hv] at hpay
    obtain rfl := Except.ok.inj hpay
    obtain ⟨c, ds, htext, -⟩ := valueHead_text hv
    have hne : encodeUtf8 (text v) ≠ [] := encodeUtf8_ne_nil (by rw [htext]; exact List.cons_ne_nil c ds)
    simp [hne, decodeUtf8_encodeUtf8, loadsText_text hv]

/-- What can be sent: the numbers fit their fields, and the text fits the packet. -/
def Sendable (m : ℕ × ℕ × Value) : Prop := m.1 < 256 ^ 4 ∧ m.2.1 < 256 ∧ jsonSize m.2.2 ≤ 65535

lemma usbMessage_ok {m : ℕ × ℕ × Value} (hv : m.2.2.Readable floatRepr) (hm : Sendable m) (rest : Bytes) :
    ∃ frame packet, usbMessage m = .ok frame ∧ rfcommReadFrame (frame ++ rest) = .ok packet rest ∧
      readMessage floatRepr packet = some (m.1, m.2.1, jsonValue m.2.2) := by
  obtain ⟨packet, payload, hpacket, -, -⟩ := encodePacketJson_ok hm.1 hm.2.1 (serialisable_readable _ hv) hm.2.2
  obtain ⟨payload, -, hp⟩ := bind_eq_ok.mp hpacket
  obtain ⟨l, rfl, hslack, -, -⟩ := encodePacket_eq_ok.mp hp
  have hlen := l.bytes_length
  have hpayload := BigEndian.value_lt l.payloadLen
  rw [l.payloadLen_length, ← l.payload_length] at hpayload
  rw [hslack, List.length_nil] at hlen
  have hframe := frameForUsb_ok (show l.bytes.length < 256 ^ 4 by omega)
  have hmax : l.bytes.length ≤ usbMaxFrame := by
    rw [usbMaxFrame]
    omega
  have hread :=
    reads_of_implausible (g := []) (show 0 < l.bytes.length by omega) hmax hframe (Nat.zero_le _) rest (by simp)
  exact ⟨_, l.bytes, by rw [usbMessage, hpacket]; exact hframe, hread, readMessage_packet hv hpacket⟩

theorem usb_messages_round_trip (messages : List (ℕ × ℕ × Value))
    (h : ∀ m ∈ messages, m.2.2.Readable floatRepr ∧ Sendable m) (rest : Bytes) :
    ∃ stream frames, usbMessages messages = .ok stream ∧
      readFrames messages.length (stream ++ rest) = .ok frames rest ∧
      frames.map (readMessage floatRepr) = messages.map fun m => some (m.1, m.2.1, jsonValue m.2.2) := by
  induction messages with
  | nil => exact ⟨[], [], rfl, rfl, rfl⟩
  | cons m messages ih =>
    obtain ⟨⟨hv, hm⟩, hmessages⟩ := List.forall_mem_cons.mp h
    obtain ⟨tail, frames, htail, hreads, hrest⟩ := ih hmessages
    obtain ⟨frame, packet, hframe, hread, hmessage⟩ := usbMessage_ok hv hm (tail ++ rest)
    refine ⟨frame ++ tail, packet :: frames, ?_, ?_, by rw [List.map_cons, List.map_cons, hmessage, hrest]⟩
    · rw [usbMessages, hframe, htail]
      rfl
    · rw [List.length_cons, readFrames, List.append_assoc, Reader.bind_ok _ hread, Reader.bind_ok _ hreads]
      rfl

theorem usb_messages_round_trip_states : ∃ stream frames,
    usbMessages [(1, 0x90, .dict [("t", .float "21.5"), ("n", .str "Küche"), ("d", .datetime "2024-01-01")]),
      (1, 0x91, .null)] = .ok stream ∧
    readFrames 2 (stream ++ [0]) = .ok frames [0] ∧
    frames.map (readMessage String.ofList) =
      [some (1, 0x90, .dict [("t", .float "21.5"), ("n", .str "Küche"), ("d", .str "2024-01-01")]),
        some (1, 0x91, .null)] := by
  refine usb_messages_round_trip _ ?_ _
  intro m hm
  simp only [List.mem_cons, List.not_mem_nil, or_false] at hm
  rcases hm with rfl | rfl
  · have hfloat : scanNumber String.ofList "21.5".toList = some (.float "21.5", []) := rfl
    simp only [Value.Readable, ReadableEntries, ReadableEntry, hfloat]
    exact ⟨⟨by decide, .inr (.inr (.inr trivial)), trivial, trivial, trivial⟩, by decide, by decide, by decide⟩
  · rw [Value.Readable]
    exact ⟨trivial, by decide, by decide, by decide⟩

end HaBluetooth.Protocol
