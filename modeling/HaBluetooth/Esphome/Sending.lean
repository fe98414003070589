import HaBluetooth.Esphome.NoiseReader
import HaBluetooth.Support.FifoLock
import HaBluetooth.Support.Runs

/-! Concurrent calls of `_send_message` within one noise session. A call encodes its frame before it
asks for the write lock, and the frames reach the socket in the order in which they were encoded. -/

namespace HaBluetooth.Esphome

open Python Support

structure Session (σ : Type) where
  frame : Frame σ
  writeLock : FifoLock Sealed
  written : List Sealed
  encoded : List (ℕ × Bytes)

/-- `send` is a call up to its first suspension, `wake` the next waiter taking the lock and writing,
`drained` the holder's return from `drain`. -/
inductive Progress
  | send (msgType : ℕ) (payload : Bytes)
  | wake
  | drained
  deriving DecidableEq, Repr

section

variable {σ : Type} (lib : NoiseLibrary σ) (nonce : σ → ℕ)

def Frame.counter : Frame σ → ℕ
  | .noise (some st) => nonce st
  | .noise none | .plaintext => 0

namespace Session

def begin (st : σ) : Session σ := ⟨.noise (some st), .free, [], []⟩

def sendMessage (s : Session σ) (msgType : ℕ) (payload : Bytes) : Session σ :=
  match s.frame.encode lib msgType payload with
  | (.error _, frame) => { s with frame := frame }
  | (.ok bytes, frame) =>
    let (lock, granted) := s.writeLock.acquire ⟨s.frame.counter nonce, bytes⟩
    { frame := frame, writeLock := lock, written := s.written ++ granted.toList,
      encoded := s.encoded ++ [(msgType, payload)] }

def step (s : Session σ) : Progress → Session σ
  | .send msgType payload => s.sendMessage lib nonce msgType payload
  | .wake =>
    let (lock, granted) := s.writeLock.wake
    { s with writeLock := lock, written := s.written ++ granted.toList }
  | .drained => { s with writeLock := s.writeLock.release }

def run (s : Session σ) (ps : List Progress) : Session σ := ps.foldl (step lib nonce) s

end Session

/-- `encrypt` takes plaintexts up to 65535 bytes, adds 16 bytes and advances the nonce, and `decrypt`
inverts it under the same nonce. -/
structure NoiseLibrary.Inverts (decrypt : ℕ → Bytes → Result Bytes) : Prop where
  encrypt_ok : ∀ st plain, plain.length ≤ 65535 → ∃ ciphertext st', lib.encrypt st plain = (.ok ciphertext, st') ∧
    ciphertext.length = plain.length + 16 ∧ nonce st' = nonce st + 1 ∧ decrypt (nonce st) ciphertext = .ok plain

end

def Progress.message : Progress → Option (ℕ × Bytes)
  | .send msgType payload => some (msgType, payload)
  | .wake | .drained => none

def Progress.Bounded : Progress → Prop
  | .send msgType payload => msgType < 2 ^ 16 ∧ payload.length ≤ 65515
  | .wake | .drained => True

variable {σ : Type} {lib : NoiseLibrary σ} {nonce : σ → ℕ} {decrypt : ℕ → Bytes → Result Bytes}

lemma encode_carries (hlib : lib.Inverts nonce decrypt) (st : σ) {msgType : ℕ} {payload : Bytes}
    (ht : msgType < 256 ^ 2) (hl : payload.length ≤ 65515) :
    ∃ bytes st', (Frame.noise (some st)).encode lib msgType payload = (.ok bytes, .noise (some st')) ∧
      nonce st' = nonce st + 1 ∧ Sealed.Carries decrypt ⟨nonce st, bytes⟩ (msgType, payload) := by
  have hl' : payload.length < 256 ^ 2 := by omega
  have hplain := packPlain_ok ht hl'
  set plain := BigEndian.toBytes 2 msgType ++ BigEndian.toBytes 2 payload.length ++ payload with hdef
  have hn : plain.length = 4 + payload.length := by simp [hdef]; omega
  obtain ⟨ciphertext, st', hc, hlen, hnonce, hdec⟩ := hlib.encrypt_ok st plain (by omega)
  have hw : ciphertext.length < 256 ^ 2 := by omega
  refine ⟨0x01 :: BigEndian.toBytes 2 ciphertext.length ++ ciphertext, st', ?_, hnonce, ?_⟩
  · simp only [Frame.encode, hplain, hc, wrapCiphertext, intToBytes, if_pos hw]
    rfl
  · exact ⟨ciphertext, rfl, hw, plain, hdec, unpackPlain_ok ht hl'⟩

namespace Session

structure InOrder (decrypt : ℕ → Bytes → Result Bytes) (nonce : σ → ℕ) (start : ℕ) (s : Session σ) : Prop where
  handshaken : ∃ st, s.frame = .noise (some st) ∧ nonce st = start + s.encoded.length
  carries : List.Forall₂ (Sealed.Carries decrypt) (s.written ++ s.writeLock.waiters) s.encoded
  nonces : (s.written ++ s.writeLock.waiters).map Sealed.nonce = List.range' start s.encoded.length

variable {s : Session σ} {start : ℕ}

lemma begin_inOrder (st : σ) : (begin st).InOrder decrypt nonce (nonce st) where
  handshaken := ⟨st, rfl, rfl⟩
  carries := .nil
  nonces := rfl

lemma step_encoded (hlib : lib.Inverts nonce decrypt) (h : s.InOrder decrypt nonce start) {p : Progress}
    (hp : p.Bounded) : (s.step lib nonce p).encoded = s.encoded ++ p.message.toList := by
  cases p with
  | wake | drained => exact (List.append_nil _).symm
  | send msgType payload =>
    obtain ⟨st, hst, -⟩ := h.handshaken
    obtain ⟨bytes, st', henc, -⟩ := encode_carries hlib st hp.1 hp.2
    simp only [step, sendMessage, hst, henc]
    rfl

lemma step_inOrder (hlib : lib.Inverts nonce decrypt) (h : s.InOrder decrypt nonce start) {p : Progress}
    (hp : p.Bounded) :
    (s.step lib nonce p).InOrder decrypt nonce start := by
  cases p with
  | drained => exact ⟨h.handshaken, h.carries, h.nonces⟩
  | wake =>
    have hframes : (s.written ++ s.writeLock.wake.2.toList) ++ s.writeLock.wake.1.waiters =
        s.written ++ s.writeLock.waiters := by rw [List.append_assoc, FifoLock.wake_order]
    exact ⟨h.handshaken, hframes ▸ h.carries, hframes ▸ h.nonces⟩
  | send msgType payload =>
    obtain ⟨st, hst, hcount⟩ := h.handshaken
    obtain ⟨bytes, st', henc, hnonce, hcarries⟩ := encode_carries hlib st hp.1 hp.2
    have hframes : (s.written ++ (s.writeLock.acquire ⟨nonce st, bytes⟩).2.toList) ++
        (s.writeLock.acquire ⟨nonce st, bytes⟩).1.waiters =
          (s.written ++ s.writeLock.waiters) ++ [⟨nonce st, bytes⟩] := by
      rw [List.append_assoc, FifoLock.acquire_order, List.append_assoc]
    have hs : s.step lib nonce (.send msgType payload) =
        { frame := .noise (some st'), writeLock := (s.writeLock.acquire ⟨nonce st, bytes⟩).1,
          written := s.written ++ (s.writeLock.acquire ⟨nonce st, bytes⟩).2.toList,
          encoded := s.encoded ++ [(msgType, payload)] } := by
      simp only [step, sendMessage, hst, henc, Frame.counter]
    have hlen : (s.encoded ++ [(msgType, payload)]).length = s.encoded.length + 1 := by simp
    rw [hs]
    refine ⟨⟨st', rfl, ?_⟩, ?_, ?_⟩
    · rw [hnonce, hcount, hlen, Nat.add_assoc]
    · rw [hframes]
      exact List.rel_append h.carries (.cons hcarries .nil)
    · rw [hframes, List.map_append, h.nonces, hlen, List.range'_concat, Nat.one_mul, ← hcount]
      rfl

lemma run_inOrder (hlib : lib.Inverts nonce decrypt) (h : s.InOrder decrypt nonce start) {ps : List Progress}
    (hps : ∀ p ∈ ps, p.Bounded) : (s.run lib nonce ps).InOrder decrypt nonce start := by
  refine Runs.invariant (InOrder decrypt nonce start) (fun s p hs hp => ?_) h hps
  exact step_inOrder hlib hs hp

lemma run_encoded (hlib : lib.Inverts nonce decrypt) (h : s.InOrder decrypt nonce start) {ps : List Progress}
    (hps : ∀ p ∈ ps, p.Bounded) : (s.run lib nonce ps).encoded = s.encoded ++ ps.filterMap Progress.message := by
  induction ps generalizing s with
  | nil => exact (List.append_nil _).symm
  | cons p ps ih =>
    obtain ⟨hp, hrest⟩ := List.forall_mem_cons.mp hps
    have hstep := step_encoded hlib h hp
    refine (ih (step_inOrder hlib h hp) hrest).trans ?_
    rw [hstep, List.append_assoc]
    cases p <;> rfl

theorem noise_in_nonce_order (hlib : lib.Inverts nonce decrypt) (st : σ) {ps : List Progress}
    (hps : ∀ p ∈ ps, p.Bounded) :
    let s := (begin st).run lib nonce ps
    s.written.map Sealed.nonce = List.range' (nonce st) s.written.length ∧
      noiseReadMany decrypt (nonce st) s.written.length (s.written.flatMap Sealed.bytes) =
        .ok (s.encoded.take s.written.length) [] ∧
      (s.writeLock.waiters = [] → s.written.length = s.encoded.length) ∧
      s.encoded = ps.filterMap Progress.message := by
  intro s
  have h : s.InOrder decrypt nonce (nonce st) := run_inOrder hlib (begin_inOrder st) hps
  have hlen := h.carries.length_eq
  rw [List.length_append] at hlen
  have hcarries : List.Forall₂ (Sealed.Carries decrypt) s.written (s.encoded.take s.written.length) := by
    have ht := List.forall₂_take s.written.length h.carries
    rwa [List.take_left] at ht
  have hnonces : s.written.map Sealed.nonce = List.range' (nonce st) s.written.length := by
    have hall := h.nonces
    rw [List.map_append, ← hlen, ← List.range'_append_1] at hall
    exact List.append_inj_left hall (by rw [List.length_map, List.length_range'])
  refine ⟨hnonces, noiseReadMany_ok hcarries hnonces, fun hw => ?_, ?_⟩
  · rw [← hlen, hw, List.length_nil, Nat.add_zero]
  · exact run_encoded hlib (begin_inOrder st) hps

/-- Stands for the AEAD: the nonce in place of the tag, checked on receipt. -/
def stamping : NoiseLibrary ℕ where
  encrypt nonce plain :=
    if plain.length ≤ 65535 then (.ok (plain ++ BigEndian.toBytes 16 nonce), nonce + 1)
    else (.error ⟨.valueError, "message too long"⟩, nonce)

def unstamp (nonce : ℕ) (ciphertext : Bytes) : Result Bytes :=
  if ciphertext.drop (ciphertext.length - 16) = BigEndian.toBytes 16 nonce then
    .ok (ciphertext.take (ciphertext.length - 16))
  else .error ⟨.other "InvalidTag", ""⟩

lemma stamping_inverts : stamping.Inverts id unstamp where
  encrypt_ok st plain h := by
    refine ⟨plain ++ BigEndian.toBytes 16 st, st + 1, if_pos h, by simp, rfl, ?_⟩
    have hlen : (plain ++ BigEndian.toBytes 16 st).length - 16 = plain.length := by simp
    rw [unstamp, hlen, id, List.drop_left, List.take_left, if_pos rfl]

theorem noise_in_nonce_order_reply_and_push :
    let s := (begin 7).run stamping id [.send 151 [0x41], .send 151 [0x42], .drained, .wake]
    s.written.map Sealed.nonce = List.range' 7 s.written.length ∧
      noiseReadMany unstamp 7 s.written.length (s.written.flatMap Sealed.bytes) =
        .ok (s.encoded.take s.written.length) [] ∧
      (s.writeLock.waiters = [] → s.written.length = s.encoded.length) ∧
      s.encoded = [.send 151 [0x41], .send 151 [0x42], .drained, .wake].filterMap Progress.message :=
  noise_in_nonce_order stamping_inverts 7 (by simp [Progress.Bounded])

end Session

end HaBluetooth.Esphome
