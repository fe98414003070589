import HaBluetooth.Esphome.Conversation
import HaBluetooth.Esphome.PlaintextReader
import HaBluetooth.Esphome.Sending
import HaBluetooth.Python.Incremental

/-! A connection as a stream of messages in each direction, over either framing. -/

namespace HaBluetooth.Esphome

open Python Support

inductive Receiver
  | plaintext
  -- the nonce that the next message is decrypted with
  | noise (nonce : ℕ)
  deriving DecidableEq, Repr

namespace Receiver

def read (decrypt : ℕ → Bytes → Result Bytes) : Receiver → Reader Message
  | .plaintext => plaintextRead
  | .noise nonce => noiseRead decrypt (some nonce)

def next : Receiver → Receiver
  | .plaintext => .plaintext
  | .noise nonce => .noise (nonce + 1)

variable (decrypt : ℕ → Bytes → Result Bytes)

def readMany (r : Receiver) : ℕ → Reader (List Message)
  | 0 => pure []
  | n + 1 => do
    let message ← r.read decrypt
    let messages ← r.next.readMany n
    return message :: messages

inductive Delivers : Receiver → List Bytes → List Message → Prop
  | nil (r : Receiver) : Delivers r [] []
  | cons {r : Receiver} {frame : Bytes} {message : Message} {frames : List Bytes} {messages : List Message}
      (h : (r.read decrypt).Delimits frame message) (hs : Delivers r.next frames messages) :
      Delivers r (frame :: frames) (message :: messages)

def after (r : Receiver) (n : ℕ) : Receiver := next^[n] r

variable {decrypt}

lemma Delivers.length_eq {r : Receiver} {frames : List Bytes} {messages : List Message}
    (h : Delivers decrypt r frames messages) : frames.length = messages.length := by
  induction h with
  | nil r => rfl
  | cons h hs ih => exact congrArg (· + 1) ih

lemma Delivers.readMany {r : Receiver} {frames : List Bytes} {messages : List Message}
    (h : Delivers decrypt r frames messages) (rest : Bytes) :
    r.readMany decrypt frames.length (frames.flatten ++ rest) = .ok messages rest := by
  induction h with
  | nil r => rfl
  | cons h hs ih =>
    rw [List.length_cons, Receiver.readMany, List.flatten_cons, List.append_assoc, Reader.bind_ok _ (h _),
      Reader.bind_ok _ ih]
    rfl

lemma Delivers.snoc {r : Receiver} {frames : List Bytes} {messages : List Message}
    (h : Delivers decrypt r frames messages) {frame : Bytes} {message : Message}
    (hlast : ((r.after frames.length).read decrypt).Delimits frame message) :
    Delivers decrypt r (frames ++ [frame]) (messages ++ [message]) := by
  induction h with
  | nil r => exact .cons hlast (.nil _)
  | cons h hs ih => exact .cons h (ih hlast)

lemma after_succ (r : Receiver) (n : ℕ) : r.after (n + 1) = (r.after n).next := Function.iterate_succ_apply' next n r

lemma readVarintLoop_incremental (value shift : ℕ) : (readVarintLoop value shift).Incremental := by
  induction value, shift using readVarintLoop.induct with
  | case1 value shift ih =>
    rw [readVarintLoop]
    apply Reader.Incremental.bind
    · exact (Reader.readexactly_incremental 1).bind fun _ => Reader.pure_incremental _
    · intro byte
      apply Reader.Incremental.ite
      · exact Reader.pure_incremental _
      · by_cases hs : shift + 7 > 63
        · rw [if_pos hs]
          exact Reader.throw_incremental _
        · rw [if_neg hs]
          exact ih byte hs

lemma plaintextRead_incremental : plaintextRead.Incremental := by
  have hbyte : readByte.Incremental := (Reader.readexactly_incremental 1).bind fun _ => Reader.pure_incremental _
  apply hbyte.bind
  intro preamble
  apply Reader.Incremental.ite
  · exact Reader.throw_incremental _
  · apply (readVarintLoop_incremental 0 0).bind
    intro msgSize
    apply (readVarintLoop_incremental 0 0).bind
    intro msgType
    refine Reader.Incremental.bind ?_ fun _ => Reader.pure_incremental _
    exact (Reader.pure_incremental _).ite (Reader.readexactly_incremental _)

lemma readRaw_incremental : readRaw.Incremental := by
  apply (Reader.readexactly_incremental 3).bind
  intro header
  apply Reader.Incremental.ite
  · exact (Reader.throw_incremental _).bind fun _ => (Reader.pure_incremental _).ite (Reader.readexactly_incremental _)
  · exact (Reader.pure_incremental _).ite (Reader.readexactly_incremental _)

lemma noiseRead_incremental (nonce : ℕ) : (noiseRead decrypt (some nonce)).Incremental := by
  apply readRaw_incremental.bind
  intro ciphertext
  exact (Reader.lift_incremental _).bind fun _ => Reader.lift_incremental _

lemma read_incremental (r : Receiver) : (r.read decrypt).Incremental := by
  cases r with
  | plaintext => exact plaintextRead_incremental
  | noise nonce => exact noiseRead_incremental nonce

lemma read_nil (r : Receiver) : ∃ e, r.read decrypt [] = .error e [] ∧ e.kind = .incompleteReadError := by
  cases r with
  | plaintext => exact ⟨_, Reader.bind_error _ readByte_nil, rfl⟩
  | noise nonce => exact ⟨_, Reader.bind_error _ (Reader.bind_error _ rfl), rfl⟩

end Receiver

namespace Frame

variable {σ : Type} {lib : NoiseLibrary σ} {nonce : σ → ℕ} {decrypt : ℕ → Bytes → Result Bytes}

def Fits : Frame σ → Message → Prop
  | .plaintext, m => m.1 < 2 ^ 64 ∧ m.2.length < 2 ^ 64
  | .noise _, m => m.1 < 2 ^ 16 ∧ m.2.length ≤ 65515

def InStep (nonce : σ → ℕ) : Frame σ → Receiver → Prop
  | .plaintext, r => r = .plaintext
  | .noise (some st), r => r = .noise (nonce st)
  | .noise none, _ => False

lemma encode_delimits (hlib : lib.Inverts nonce decrypt) {frame : Frame σ} {r : Receiver} (h : frame.InStep nonce r)
    {m : Message} (hm : frame.Fits m) : ∃ bytes frame', frame.encode lib m.1 m.2 = (.ok bytes, frame') ∧
      (r.read decrypt).Delimits bytes m ∧ frame'.InStep nonce r.next ∧ frame'.Fits = frame.Fits := by
  cases frame with
  | plaintext =>
    obtain rfl : r = .plaintext := h
    exact ⟨_, .plaintext, rfl, plaintextRead_encode lib hm.1 hm.2 rfl, rfl, rfl⟩
  | noise connection =>
    cases connection with
    | none => exact h.elim
    | some st =>
      obtain rfl : r = .noise (nonce st) := h
      obtain ⟨bytes, st', hencode, hnonce, hcarries⟩ := encode_carries hlib st hm.1 hm.2
      exact ⟨bytes, .noise (some st'), hencode, noiseRead_ok hcarries, congrArg Receiver.noise hnonce.symm, rfl⟩

end Frame

end HaBluetooth.Esphome
