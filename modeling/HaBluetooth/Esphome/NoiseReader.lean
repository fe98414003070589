import HaBluetooth.Dispatcher.Handlers
import HaBluetooth.Esphome.Frames
import HaBluetooth.Python.StreamReader

/-! The receiving side of the noise framing, whose cipher state is the nonce it expects next. -/

namespace HaBluetooth.Esphome

open Python Support

def readRaw : Reader Bytes := do
  let header ← readexactly 3
  let indicator := BigEndian.value (header.take 1)
  if indicator ≠ 0x01 then
    throw ⟨.runtimeError, s!"Unexpected noise frame indicator 0x{Dispatcher.hex2 indicator} (plaintext device? remove the noise PSK from the entry)"⟩
  let length := BigEndian.value (header.drop 1)
  if length = 0 then return [] else readexactly length

def unpackPlain (plain : Bytes) : Result (ℕ × Bytes) := do
  if plain.length < 4 then
    throw ⟨.runtimeError, s!"Decrypted message too short: {plain.length} bytes"⟩
  let msgType := BigEndian.value (plain.take 2)
  let dataLen := BigEndian.value ((plain.take 4).drop 2)
  if plain.length - 4 < dataLen then
    throw ⟨.runtimeError, s!"Decrypted data_len {dataLen} exceeds remainder {plain.length - 4}"⟩
  return (msgType, (plain.take (4 + dataLen)).drop 4)

variable (decrypt : ℕ → Bytes → Result Bytes)

/-- `_NoiseFrame.read`, where no nonce means that there was no handshake. -/
def noiseRead : Option ℕ → Reader (ℕ × Bytes)
  | none => throw ⟨.runtimeError, "Noise transport not yet handshaken"⟩
  | some nonce => do
    let ciphertext ← readRaw
    let plain ← Reader.lift (decrypt nonce ciphertext)
    Reader.lift (unpackPlain plain)

def noiseReadMany (nonce : ℕ) : ℕ → Reader (List (ℕ × Bytes))
  | 0 => pure []
  | n + 1 => do
    let message ← noiseRead decrypt (some nonce)
    let messages ← noiseReadMany (nonce + 1) n
    return message :: messages

lemma readRaw_ok {ciphertext : Bytes} (h : ciphertext.length < 256 ^ 2) (rest : Bytes) :
    readRaw (0x01 :: BigEndian.toBytes 2 ciphertext.length ++ ciphertext ++ rest) = .ok ciphertext rest := by
  have hheader : (0x01 :: BigEndian.toBytes 2 ciphertext.length : Bytes).length = 3 := by simp
  have hlength : BigEndian.value ((0x01 :: BigEndian.toBytes 2 ciphertext.length : Bytes).drop 1) = ciphertext.length :=
    BigEndian.value_toBytes h
  have hind : BigEndian.value ((0x01 :: BigEndian.toBytes 2 ciphertext.length : Bytes).take 1) = 0x01 := rfl
  rw [readRaw, List.append_assoc, Reader.bind_ok _ (Reader.readexactly_append hheader _)]
  simp only [hind, hlength, ne_eq, not_true, if_false]
  by_cases hempty : ciphertext.length = 0
  · rw [if_pos hempty, List.length_eq_zero_iff.mp hempty]
    rfl
  · rw [if_neg hempty]
    exact Reader.readexactly_append rfl rest

lemma unpackPlain_ok {msgType : ℕ} {payload : Bytes} (ht : msgType < 256 ^ 2) (hl : payload.length < 256 ^ 2) :
    unpackPlain (BigEndian.toBytes 2 msgType ++ BigEndian.toBytes 2 payload.length ++ payload) =
      .ok (msgType, payload) := by
  set plain := BigEndian.toBytes 2 msgType ++ BigEndian.toBytes 2 payload.length ++ payload with hplain
  have hlen : plain.length = 4 + payload.length := by simp [hplain]; omega
  have htype : BigEndian.value (plain.take 2) = msgType := by
    rw [hplain, List.append_assoc, List.take_left' (by simp), BigEndian.value_toBytes ht]
  have hdata : BigEndian.value ((plain.take 4).drop 2) = payload.length := by
    rw [hplain, List.take_left' (by simp), List.drop_left' (by simp), BigEndian.value_toBytes hl]
  have hpayload : (plain.take (4 + payload.length)).drop 4 = payload := by
    rw [← hlen, List.take_length, hplain, List.drop_left' (by simp)]
  have hshort : ¬ plain.length < 4 := by omega
  have hfits : ¬ plain.length - 4 < payload.length := by omega
  simp only [unpackPlain, htype, hdata, hpayload, if_neg hshort, if_neg hfits]
  rfl

structure Sealed where
  nonce : ℕ
  bytes : Bytes
  deriving Repr

def Sealed.Carries (f : Sealed) (message : ℕ × Bytes) : Prop :=
  ∃ ciphertext, f.bytes = 0x01 :: BigEndian.toBytes 2 ciphertext.length ++ ciphertext ∧ ciphertext.length < 256 ^ 2 ∧
    ∃ plain, decrypt f.nonce ciphertext = .ok plain ∧ unpackPlain plain = .ok message

variable {decrypt}

lemma noiseRead_ok {f : Sealed} {message : ℕ × Bytes} (h : f.Carries decrypt message) (rest : Bytes) :
    noiseRead decrypt (some f.nonce) (f.bytes ++ rest) = .ok message rest := by
  obtain ⟨ciphertext, hbytes, hlen, plain, hplain, hunpack⟩ := h
  rw [hbytes, noiseRead, Reader.bind_ok _ (readRaw_ok hlen rest), hplain, Reader.lift_ok_bind, hunpack]
  rfl

lemma noiseReadMany_ok {nonce : ℕ} {fs : List Sealed} {messages : List (ℕ × Bytes)}
    (h : List.Forall₂ (Sealed.Carries decrypt) fs messages) (hn : fs.map Sealed.nonce = List.range' nonce fs.length) :
    noiseReadMany decrypt nonce fs.length (fs.flatMap Sealed.bytes) = .ok messages [] := by
  induction h generalizing nonce with
  | nil => rfl
  | @cons f message fs messages hf _ ih =>
    rw [List.length_cons, List.range'_succ, List.map_cons, List.cons.injEq] at hn
    obtain ⟨rfl, hrest⟩ := hn
    rw [List.length_cons, noiseReadMany, List.flatMap_cons, Reader.bind_ok _ (noiseRead_ok hf _),
      Reader.bind_ok _ (ih hrest)]
    rfl

end HaBluetooth.Esphome
