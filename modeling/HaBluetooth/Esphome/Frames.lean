import HaBluetooth.Python.Runtime
import Mathlib.Data.Nat.Bitwise

/-! The two framings of the ESPHome native API, and the protobuf message that carries a packet. -/

namespace HaBluetooth.Esphome

open Python Support

def bleServerSendFrameRequestId : ℕ := 151

def encodeVarint (value : ℕ) : Bytes :=
  if value > 0x7F then UInt8.ofNat (value &&& 0x7F ||| 0x80) :: encodeVarint (value >>> 7)
  else [UInt8.ofNat (value &&& 0x7F)]
termination_by value
decreasing_by
  rw [Nat.shiftRight_eq_div_pow]
  omega

/-- `BleServerSendFrameRequest(data=data).SerializeToString()`: field 1, length-delimited, left out
when empty. -/
def serializeSendFrame (data : Bytes) : Bytes :=
  if data = [] then [] else 0x0A :: encodeVarint data.length ++ data

/-- What the integration uses of a `NoiseConnection` whose state is a `σ`. -/
structure NoiseLibrary (σ : Type) where
  encrypt : σ → Bytes → Result Bytes × σ

structure NoiseLibrary.Accepting {σ : Type} (lib : NoiseLibrary σ) : Prop where
  encrypt_ok : ∀ st plain, plain.length ≤ 65535 →
    ∃ ciphertext, (lib.encrypt st plain).1 = .ok ciphertext ∧ ciphertext.length = plain.length + 16

/-- `_PlaintextFrame` or `_NoiseFrame`, the latter without a connection until the handshake. -/
inductive Frame (σ : Type)
  | plaintext
  | noise (connection : Option σ)

def packPlain (msgType : ℕ) (payload : Bytes) : Result Bytes := do
  let t ← intToBytes 2 msgType
  let l ← intToBytes 2 payload.length
  return t ++ l ++ payload

def wrapCiphertext (ciphertext : Bytes) : Result Bytes := do
  let l ← intToBytes 2 ciphertext.length
  return 0x01 :: l ++ ciphertext

def Frame.encode {σ : Type} (lib : NoiseLibrary σ) : Frame σ → ℕ → Bytes → Result Bytes × Frame σ
  | .plaintext, msgType, payload =>
    (.ok (0x00 :: encodeVarint payload.length ++ encodeVarint msgType ++ payload), .plaintext)
  | .noise none, _, _ => (.error ⟨.runtimeError, "Noise transport not yet handshaken"⟩, .noise none)
  | .noise (some st), msgType, payload =>
    match packPlain msgType payload with
    | .error e => (.error e, .noise (some st))
    | .ok plain =>
      match lib.encrypt st plain with
      | (.error e, st') => (.error e, .noise (some st'))
      | (.ok ciphertext, st') => (wrapCiphertext ciphertext, .noise (some st'))

lemma length_encodeVarint {n value : ℕ} (h : value < 128 ^ (n + 1)) : (encodeVarint value).length ≤ n + 1 := by
  induction n generalizing value with
  | zero =>
    rw [encodeVarint, if_neg (by omega)]
    simp
  | succ n ih =>
    rw [encodeVarint]
    split
    · have hv : value >>> 7 < 128 ^ (n + 1) := by
        rw [Nat.shiftRight_eq_div_pow]
        exact Nat.div_lt_of_lt_mul (by rw [pow_succ] at h; omega)
      simpa using ih hv
    · simp

lemma packPlain_ok {msgType : ℕ} {payload : Bytes} (ht : msgType < 256 ^ 2) (hl : payload.length < 256 ^ 2) :
    packPlain msgType payload = .ok (BigEndian.toBytes 2 msgType ++ BigEndian.toBytes 2 payload.length ++ payload) := by
  simp only [packPlain, intToBytes, if_pos ht, if_pos hl]
  rfl

lemma noise_encode_ok {σ : Type} {lib : NoiseLibrary σ} (hlib : lib.Accepting) (st : σ) {msgType : ℕ}
    {payload : Bytes} (ht : msgType < 256 ^ 2) (hl : payload.length ≤ 65515) :
    ∃ bytes, ((Frame.noise (some st)).encode lib msgType payload).1 = .ok bytes := by
  have hp := packPlain_ok ht (show payload.length < 256 ^ 2 by omega)
  set plain := BigEndian.toBytes 2 msgType ++ BigEndian.toBytes 2 payload.length ++ payload with hplain
  have hn : plain.length = 4 + payload.length := by simp [hplain]; omega
  obtain ⟨c, hc, hlen⟩ := hlib.encrypt_ok st plain (by omega)
  refine ⟨0x01 :: BigEndian.toBytes 2 c.length ++ c, ?_⟩
  rcases hr : lib.encrypt st plain with ⟨r, st'⟩
  rw [hr] at hc
  obtain rfl : r = .ok c := hc
  have hw : c.length < 256 ^ 2 := by omega
  simp only [Frame.encode, hp, hr, wrapCiphertext, intToBytes, if_pos hw]
  rfl

end HaBluetooth.Esphome
