import HaBluetooth.Dispatcher.Handlers
import HaBluetooth.Esphome.Varints

/-! The receiving side of the plaintext framing: two varints in a row, then as many bytes as the first says. -/

namespace HaBluetooth.Esphome

open Python Support

def unexpectedPreamble (preamble : ℕ) : PyError :=
  ⟨.runtimeError, s!"Unexpected preamble 0x{Dispatcher.hex2 preamble}: device is using noise encryption " ++
    "but no PSK is configured for this entry"⟩

def plaintextRead : Reader (ℕ × Bytes) := do
  let preamble ← readByte
  if preamble ≠ 0x00 then throw (unexpectedPreamble preamble)
  else do
    let msgSize ← readVarint
    let msgType ← readVarint
    let data ← (if msgSize = 0 then pure [] else readexactly msgSize)
    return (msgType, data)

def plaintextReadMany : ℕ → Reader (List (ℕ × Bytes))
  | 0 => pure []
  | n + 1 => do
    let message ← plaintextRead
    let messages ← plaintextReadMany n
    return message :: messages

section Messages

variable {σ : Type} (lib : NoiseLibrary σ)

lemma plaintextRead_encode {msgType : ℕ} {payload frame : Bytes} (ht : msgType < 2 ^ 64) (hl : payload.length < 2 ^ 64)
    (hf : (Frame.plaintext.encode lib msgType payload).1 = .ok frame) (rest : Bytes) :
    plaintextRead (frame ++ rest) = .ok (msgType, payload) rest := by
  obtain rfl := Except.ok.inj hf
  have hpreamble : ¬ (0x00 : UInt8).toNat ≠ 0x00 := by simp
  rw [List.append_assoc, List.append_assoc, List.cons_append, plaintextRead, Reader.bind_ok _ (readByte_cons _ _),
    if_neg hpreamble, Reader.bind_ok _ (readVarint_encode hl _), Reader.bind_ok _ (readVarint_encode ht _)]
  split
  · next hempty =>
    obtain rfl := List.length_eq_zero_iff.mp hempty
    rfl
  · rw [Reader.bind_ok _ (Reader.readexactly_append rfl rest)]
    rfl

theorem plaintext_round_trip (messages : List (ℕ × Bytes))
    (h : ∀ m ∈ messages, m.1 < 2 ^ 64 ∧ m.2.length < 2 ^ 64) :
    ∃ frames, List.Forall₂ (fun m frame => (Frame.plaintext.encode lib m.1 m.2).1 = .ok frame) messages frames ∧
      plaintextReadMany messages.length frames.flatten = .ok messages [] := by
  induction messages with
  | nil => exact ⟨[], .nil, rfl⟩
  | cons m messages ih =>
    obtain ⟨frames, hframes, hread⟩ := ih fun m' hm => h m' (.tail _ hm)
    obtain ⟨ht, hl⟩ := h m (.head _)
    refine ⟨_ :: frames, .cons rfl hframes, ?_⟩
    rw [List.length_cons, plaintextReadMany, List.flatten_cons,
      Reader.bind_ok _ (plaintextRead_encode lib ht hl rfl _), Reader.bind_ok _ hread]
    rfl

end Messages

theorem ping_round_trip : ∃ frames,
    List.Forall₂
      (fun m frame => (Frame.plaintext.encode ⟨fun (st : Unit) plain => (.ok plain, st)⟩ m.1 m.2).1 = .ok frame)
      [(7, []), (300, [0x0A])] frames ∧
    plaintextReadMany 2 frames.flatten = .ok [(7, []), (300, [0x0A])] [] :=
  plaintext_round_trip _ [(7, []), (300, [0x0A])] (by simp)

end HaBluetooth.Esphome
