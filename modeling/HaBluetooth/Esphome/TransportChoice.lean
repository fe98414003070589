import HaBluetooth.Esphome.Handshake
import HaBluetooth.Python.Text
import HaBluetooth.Support.Base64
import HaBluetooth.Support.Cleanup

/-! The configured key: whether there is one decides between plaintext and noise, and it is the key of the handshake. -/

namespace HaBluetooth.Esphome

open Python Support

inductive Transport
  | plaintext
  | noise (psk : Bytes)

inductive LinkEvent
  | opened
  | wrote (frame : Bytes)

section

variable {η : Type} (noise : NoiseInitiator η) (out : Bytes → Result Unit) (text : Bytes → String)
  -- the text of the exception with which a string is refused
  (reason : String → String)

def decodePsk (pskB64 : String) : Result Bytes :=
  match Base64.decode pskB64.toList with
  | none => .error ⟨.runtimeError, s!"noise_psk is not valid base64: {reason pskB64}"⟩
  | some psk =>
    if psk.length ≠ 32 then
      .error ⟨.runtimeError, s!"noise_psk must decode to 32 bytes (got {psk.length}); copy the value " ++
        "from the device's `api: encryption: key:` setting verbatim"⟩
    else .ok psk

def chooseTransport (noisePsk : String) : Result Transport :=
  if noisePsk ≠ "" then do
    let psk ← decodePsk reason noisePsk
    return .noise psk
  else .ok .plaintext

/-- There is no handshake below the API in plaintext. -/
def performHandshake (stream : Bytes) : Transport → Traced PyError LinkEvent (Option η × Bytes)
  | .plaintext => return (none, stream)
  | .noise psk => do
    let (n, rest) ← (doHandshake noise out text psk stream).mapEvents .wrote
    return (some n, rest)

/-- `_connect_and_pump` up to the end of the transport's handshake. `connect` is how opening the connection goes. -/
def openTransport (connect : Result Unit) (configured : String) (stream : Bytes) :
    Traced PyError LinkEvent (Option η × Bytes) := do
  -- `__init__` has stripped the key
  let transport ← .lift (chooseTransport reason (strip configured))
  .lift connect
  .emit .opened
  performHandshake noise out text stream transport

end

/-- 43 digits and a padding character. Their first 256 bits are the key. -/
def KeyText (text : List Char) (psk : Bytes) : Prop :=
  ∃ ds : List ℕ, (∀ d ∈ ds, d < 64) ∧ ds.length = 43 ∧ text = ds.map Base64.digit ++ [Base64.pad] ∧
    psk.length = 32 ∧ BigEndian.value psk = Base64.value ds / 4

lemma keyText_iff {text : List Char} {psk : Bytes} :
    KeyText text psk ↔ Base64.decode text = some psk ∧ psk.length = 32 := by
  constructor
  · rintro ⟨ds, hlt, hlength, htext, hpsk, hvalue⟩
    have hbytes : Base64.bytes ds = psk := by
      have hvalue' := Base64.value_bytes hlt
      have hlength' := Base64.length_bytes ds
      rw [hlength] at hvalue' hlength'
      rw [← BigEndian.toBytes_value hpsk, ← BigEndian.toBytes_value hlength', hvalue', hvalue]
      rfl
    refine ⟨Base64.decode_eq_some.mpr ⟨ds, hlt, ?_, ?_, hbytes⟩, hpsk⟩
    · rw [hlength]
      decide
    · rw [hlength]
      exact htext
  · rintro ⟨hdecode, hpsk⟩
    obtain ⟨ds, hlt, hone, htext, rfl⟩ := Base64.decode_eq_some.mp hdecode
    have hlength : ds.length = 43 := by
      rw [Base64.length_bytes] at hpsk
      omega
    have hvalue := Base64.value_bytes hlt
    rw [hlength] at htext hvalue
    exact ⟨ds, hlt, hlength, htext, hpsk, hvalue⟩

lemma keyText_encode {psk : Bytes} (h : psk.length = 32) : KeyText (Base64.encode psk) psk :=
  keyText_iff.mpr ⟨Base64.decode_encoded psk, h⟩

lemma KeyText.unique {text : List Char} {psk psk' : Bytes} (h : KeyText text psk) (h' : KeyText text psk') :
    psk = psk' :=
  Option.some.inj ((keyText_iff.mp h).1.symm.trans (keyText_iff.mp h').1)

lemma KeyText.ne_empty {text : String} {psk : Bytes} (h : KeyText text.toList psk) : text ≠ "" := by
  rintro rfl
  obtain ⟨ds, -, -, htext, -⟩ := h
  simp at htext

lemma digit_not_space {n : ℕ} (h : n < 64) : isSpace (Base64.digit n) = false := by
  have hall : ∀ n < 64, isSpace (Base64.digit n) = false := by decide +kernel
  exact hall n h

lemma keyText_not_space {text : List Char} {psk : Bytes} (h : KeyText text psk) : ∀ c ∈ text, isSpace c = false := by
  obtain ⟨ds, hlt, -, rfl, -⟩ := h
  intro c hc
  rcases List.mem_append.mp hc with hc | hc
  · obtain ⟨d, hd, rfl⟩ := List.mem_map.mp hc
    exact digit_not_space (hlt d hd)
  · obtain rfl := List.mem_singleton.mp hc
    rfl

lemma strip_keyText {before text after : List Char} {psk : Bytes} (h : KeyText text psk)
    (hb : ∀ c ∈ before, isSpace c = true) (ha : ∀ c ∈ after, isSpace c = true) :
    (strip (String.ofList (before ++ text ++ after))).toList = text := by
  have hne : text ≠ [] := by
    obtain ⟨ds, -, -, rfl, -⟩ := h
    exact List.append_ne_nil_of_right_ne_nil _ (List.cons_ne_nil _ _)
  rw [strip_padded hb ha hne (keyText_not_space h), String.toList_ofList]

section

variable {η : Type} {noise : NoiseInitiator η} {out : Bytes → Result Unit} {text : Bytes → String}
  {reason : String → String} {connect : Result Unit} {configured key : String} {stream : Bytes} {psk : Bytes}

lemma decodePsk_eq_ok : decodePsk reason key = .ok psk ↔ KeyText key.toList psk := by
  rw [keyText_iff, decodePsk]
  cases Base64.decode key.toList with
  | none => simp
  | some decoded =>
    dsimp only
    split
    · next hlength =>
      refine iff_of_false (fun h => by cases h) fun h => hlength ?_
      rw [Option.some.inj h.1, h.2]
    · next hlength =>
      constructor
      · intro h
        obtain rfl := Except.ok.inj h
        exact ⟨rfl, not_not.mp hlength⟩
      · rintro ⟨h, -⟩
        rw [Option.some.inj h]

lemma chooseTransport_plaintext : chooseTransport reason key = .ok .plaintext ↔ key = "" := by
  rw [chooseTransport]
  split
  · next hkey =>
    refine iff_of_false (fun h => ?_) hkey
    obtain ⟨psk, -, hpsk⟩ := bind_eq_ok.mp h
    cases hpsk
  · next hkey => exact iff_of_true rfl (not_not.mp hkey)

lemma chooseTransport_noise : chooseTransport reason key = .ok (.noise psk) ↔ KeyText key.toList psk := by
  rw [chooseTransport]
  split
  · constructor
    · intro h
      obtain ⟨psk', hpsk, hnoise⟩ := bind_eq_ok.mp h
      obtain rfl := Transport.noise.inj (Except.ok.inj hnoise)
      exact decodePsk_eq_ok.mp hpsk
    · intro h
      rw [decodePsk_eq_ok.mpr h]
      rfl
  · next hkey => exact iff_of_false (fun h => by cases h) fun h => h.ne_empty (not_not.mp hkey)

lemma performHandshake_noise {n : Option η} {rest : Bytes} :
    (performHandshake noise out text stream (.noise psk)).result = .ok (n, rest) ↔
      ∃ n', n = some n' ∧ Accepted noise out psk stream n' rest := by
  rw [performHandshake, Traced.bind_result_eq_ok]
  constructor
  · rintro ⟨⟨n', rest'⟩, hrun, hpair⟩
    obtain ⟨rfl, rfl⟩ := Prod.mk.inj (Except.ok.inj hpair)
    exact ⟨n', rfl, handshake_ok_iff.mp hrun⟩
  · rintro ⟨n', rfl, haccepted⟩
    exact ⟨(n', rest), handshake_ok_iff.mpr haccepted, rfl⟩

lemma openTransport_eq_ok {r : Option η × Bytes} :
    (openTransport noise out text reason connect configured stream).result = .ok r ↔
      ∃ transport, chooseTransport reason (strip configured) = .ok transport ∧ connect = .ok () ∧
        (performHandshake noise out text stream transport).result = .ok r := by
  rw [openTransport, Traced.bind_result_eq_ok]
  constructor
  · rintro ⟨transport, hchosen, hrun⟩
    obtain ⟨⟨⟩, hconnect, hrun⟩ := Traced.bind_result_eq_ok.mp hrun
    exact ⟨transport, hchosen, hconnect, hrun⟩
  · rintro ⟨transport, hchosen, hconnect, hrun⟩
    exact ⟨transport, hchosen, Traced.bind_result_eq_ok.mpr ⟨(), hconnect, hrun⟩⟩

lemma openTransport_plaintext {rest : Bytes} :
    (openTransport noise out text reason connect configured stream).result = .ok (none, rest) ↔
      strip configured = "" ∧ connect = .ok () ∧ rest = stream := by
  rw [openTransport_eq_ok]
  constructor
  · rintro ⟨transport, hchosen, hconnect, hrun⟩
    cases transport with
    | plaintext =>
      obtain ⟨-, rfl⟩ := Prod.mk.inj (Except.ok.inj hrun)
      exact ⟨chooseTransport_plaintext.mp hchosen, hconnect, rfl⟩
    | noise psk =>
      obtain ⟨n, hn, -⟩ := performHandshake_noise.mp hrun
      cases hn
  · rintro ⟨hblank, hconnect, rfl⟩
    exact ⟨.plaintext, chooseTransport_plaintext.mpr hblank, hconnect, rfl⟩

lemma openTransport_noise {n : η} {rest : Bytes} :
    (openTransport noise out text reason connect configured stream).result = .ok (some n, rest) ↔
      ∃ psk, KeyText (strip configured).toList psk ∧ connect = .ok () ∧ Accepted noise out psk stream n rest := by
  rw [openTransport_eq_ok]
  constructor
  · rintro ⟨transport, hchosen, hconnect, hrun⟩
    cases transport with
    | plaintext => cases hrun
    | noise psk =>
      obtain ⟨n', hn, haccepted⟩ := performHandshake_noise.mp hrun
      obtain rfl := Option.some.inj hn
      exact ⟨psk, chooseTransport_noise.mp hchosen, hconnect, haccepted⟩
  · rintro ⟨psk, hkey, hconnect, haccepted⟩
    exact ⟨.noise psk, chooseTransport_noise.mpr hkey, hconnect, performHandshake_noise.mpr ⟨n, rfl, haccepted⟩⟩

lemma openTransport_refused (hblank : strip configured ≠ "") (hkey : ∀ psk, ¬ KeyText (strip configured).toList psk) :
    ∃ e, openTransport noise out text reason connect configured stream = ⟨[], .error e⟩ := by
  rw [openTransport]
  cases hchosen : chooseTransport reason (strip configured) with
  | error e => exact ⟨e, rfl⟩
  | ok transport =>
    cases transport with
    | plaintext => exact absurd (chooseTransport_plaintext.mp hchosen) hblank
    | noise psk => exact absurd (chooseTransport_noise.mp hchosen) (hkey psk)

end

theorem key_decides_transport {η : Type} (noise : NoiseInitiator η) (out : Bytes → Result Unit) (text : Bytes → String)
    (reason : String → String) (connect : Result Unit) (configured : String) (stream : Bytes) :
    let run := openTransport noise out text reason connect configured stream
    let key := strip configured
    (∀ rest, run.result = .ok (none, rest) ↔ key = "" ∧ connect = .ok () ∧ rest = stream) ∧
      (∀ n rest, run.result = .ok (some n, rest) ↔
        ∃ psk, KeyText key.toList psk ∧ connect = .ok () ∧ Accepted noise out psk stream n rest) ∧
      (key ≠ "" → (∀ psk, ¬ KeyText key.toList psk) → ∃ e, run = ⟨[], .error e⟩) ∧
      ∀ psk before after, psk.length = 32 → (∀ c ∈ before, isSpace c = true) → (∀ c ∈ after, isSpace c = true) →
        configured = String.ofList (before ++ Base64.encode psk ++ after) →
          ∀ n rest, run.result = .ok (some n, rest) ↔ connect = .ok () ∧ Accepted noise out psk stream n rest := by
  intro run key
  refine ⟨fun _ => openTransport_plaintext, fun _ _ => openTransport_noise, openTransport_refused, ?_⟩
  intro psk before after hpsk hbefore hafter hconfigured n rest
  have hkey : KeyText key.toList psk := by
    change KeyText (strip configured).toList psk
    rw [hconfigured, strip_keyText (keyText_encode hpsk) hbefore hafter]
    exact keyText_encode hpsk
  refine openTransport_noise.trans ⟨?_, fun h => ⟨psk, hkey, h⟩⟩
  rintro ⟨psk', hkey', h⟩
  rwa [hkey.unique hkey']

end HaBluetooth.Esphome
