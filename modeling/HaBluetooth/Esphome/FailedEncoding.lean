import HaBluetooth.Esphome.Sending

/-! What a failed `encode` leaves behind. The length of the ciphertext is packed after the encryption, so a
payload whose plaintext still fits and whose ciphertext does not costs a nonce that no frame carries. -/

namespace HaBluetooth.Esphome

open Python Support

section

variable {σ : Type} (lib : NoiseLibrary σ) (nonce : σ → ℕ) (decrypt : ℕ → Bytes → Result Bytes)

/-- Longer plaintexts are rejected without an advance of the nonce. -/
structure NoiseLibrary.Documented : Prop extends lib.Inverts nonce decrypt where
  encrypt_rejects : ∀ st plain, 65535 < plain.length →
    ∃ e st', lib.encrypt st plain = (.error e, st') ∧ nonce st' = nonce st

/-- If this call raises, the counter is where it was and the peer can read whatever is sent next. -/
def InStep (st : σ) (msgType : ℕ) (payload : Bytes) : Prop :=
  ∀ e frame, (Frame.noise (some st)).encode lib msgType payload = (.error e, frame) →
    frame.counter nonce = nonce st ∧
      ∀ nextType next, nextType < 2 ^ 16 → next.length ≤ 65515 →
        ∃ bytes frame', frame.encode lib nextType next = (.ok bytes, frame') ∧
          noiseRead decrypt (some (nonce st)) bytes = .ok (nextType, next) []

end

variable {σ : Type} {lib : NoiseLibrary σ} {nonce : σ → ℕ} {decrypt : ℕ → Bytes → Result Bytes} (st : σ) {msgType : ℕ}
  {payload : Bytes}

lemma packPlain_fits {plain : Bytes} (h : packPlain msgType payload = .ok plain) :
    msgType < 2 ^ 16 ∧ payload.length < 2 ^ 16 := by
  obtain ⟨t, ht, h⟩ := bind_eq_ok.mp h
  obtain ⟨l, hl, -⟩ := bind_eq_ok.mp h
  rw [intToBytes] at ht hl
  split at ht
  · next hm =>
    split at hl
    · next hp => exact ⟨hm, hp⟩
    · cases hl
  · cases ht

lemma packPlain_length {plain : Bytes} (h : packPlain msgType payload = .ok plain) :
    plain.length = 4 + payload.length := by
  obtain ⟨ht, hl⟩ := packPlain_fits h
  rw [packPlain_ok ht hl] at h
  rw [← Except.ok.inj h]
  simp only [List.length_append, BigEndian.length_toBytes]

lemma encode_spends (hlib : lib.Documented nonce decrypt) (ht : msgType < 2 ^ 16) (hl : 65516 ≤ payload.length)
    (hu : payload.length ≤ 65531) :
    ∃ e st', (Frame.noise (some st)).encode lib msgType payload = (.error e, .noise (some st')) ∧
      nonce st' = nonce st + 1 := by
  have hplain := packPlain_ok (show msgType < 256 ^ 2 from ht) (show payload.length < 256 ^ 2 by omega)
  have hlen := packPlain_length hplain
  obtain ⟨ciphertext, st', hc, hcl, hnonce, -⟩ := hlib.encrypt_ok st _ (hlen.trans_le (by omega))
  have hwide : ¬ ciphertext.length < 256 ^ 2 := by omega
  -- the nonce is spent by now
  have hwrap : wrapCiphertext ciphertext = .error ⟨.overflowError, "int too big to convert"⟩ := by
    rw [wrapCiphertext, intToBytes, if_neg hwide]
    rfl
  exact ⟨⟨.overflowError, "int too big to convert"⟩, st', by simp only [Frame.encode, hplain, hc, hwrap], hnonce⟩

lemma encode_keeps (hlib : lib.Documented nonce decrypt)
    (h : ¬ (msgType < 2 ^ 16 ∧ 65516 ≤ payload.length ∧ payload.length ≤ 65531)) {e : PyError} {frame : Frame σ}
    (henc : (Frame.noise (some st)).encode lib msgType payload = (.error e, frame)) :
    ∃ st', frame = .noise (some st') ∧ nonce st' = nonce st := by
  cases hplain : packPlain msgType payload with
  | error e' =>
    simp only [Frame.encode, hplain] at henc
    obtain ⟨-, rfl⟩ := Prod.mk.inj henc
    exact ⟨st, rfl, rfl⟩
  | ok plain =>
    obtain ⟨ht, hp⟩ := packPlain_fits hplain
    have hlen := packPlain_length hplain
    by_cases hshort : payload.length ≤ 65515
    · obtain ⟨bytes, st', hok, -⟩ := encode_carries hlib.toInverts st ht hshort
      rw [hok] at henc
      cases henc
    · obtain ⟨e', st', hrej, hnonce⟩ := hlib.encrypt_rejects st plain (by omega)
      simp only [Frame.encode, hplain, hrej] at henc
      obtain ⟨-, rfl⟩ := Prod.mk.inj henc
      exact ⟨st', rfl, hnonce⟩

theorem failed_encode_in_step_iff (hlib : lib.Documented nonce decrypt) (st : σ) (msgType : ℕ) (payload : Bytes) :
    InStep lib nonce decrypt st msgType payload ↔
      ¬ (msgType < 2 ^ 16 ∧ 65516 ≤ payload.length ∧ payload.length ≤ 65531) := by
  constructor
  · rintro h ⟨ht, hl, hu⟩
    obtain ⟨e, st', henc, hnonce⟩ := encode_spends st hlib ht hl hu
    have hkept : nonce st' = nonce st := (h e _ henc).1
    omega
  · intro h e frame henc
    obtain ⟨st', rfl, hnonce⟩ := encode_keeps st hlib h henc
    refine ⟨hnonce, fun nextType next ht hl => ?_⟩
    obtain ⟨bytes, st'', hnext, -, hcarries⟩ := encode_carries hlib.toInverts st' ht hl
    have hread := noiseRead_ok hcarries []
    rw [hnonce, List.append_nil] at hread
    exact ⟨bytes, _, hnext, hread⟩

open Session

lemma stamping_documented : stamping.Documented id unstamp where
  toInverts := stamping_inverts
  encrypt_rejects st _ h := ⟨_, st, if_neg (not_le.mpr h), rfl⟩

theorem failed_encode_in_step_stamping :
    InStep stamping id unstamp 7 151 (List.replicate 65532 0) ↔
      ¬ (151 < 2 ^ 16 ∧ 65516 ≤ (List.replicate 65532 (0 : UInt8)).length ∧
        (List.replicate 65532 (0 : UInt8)).length ≤ 65531) :=
  failed_encode_in_step_iff stamping_documented 7 151 (List.replicate 65532 0)

theorem failed_encode_out_of_step : ¬ InStep stamping id unstamp 7 151 (List.replicate 65516 0) := by
  intro h
  have hlen := @List.length_replicate _ 65516 (0 : UInt8)
  obtain ⟨e, st', henc, hnonce⟩ := @encode_spends _ stamping id unstamp 7 151 (List.replicate 65516 0)
    stamping_documented (by decide) (by omega) (by omega)
  have hkept : st' = 7 := (h e _ henc).1
  simp [hkept] at hnonce

end HaBluetooth.Esphome
