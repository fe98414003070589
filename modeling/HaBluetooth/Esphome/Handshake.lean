import HaBluetooth.Esphome.NoiseReader
import HaBluetooth.Support.Traced

/-! `_do_handshake`: the streams of a device that it accepts, and what it sends to any device. -/

namespace HaBluetooth.Esphome

open Python Support

/-- What the handshake uses of a `NoiseConnection` whose state is an `η`. -/
structure NoiseInitiator (η : Type) where
  -- an initiator with this key and prologue, when `start_handshake` has been called
  start : Bytes → Bytes → η
  writeMessage : η → Result (Bytes × η)
  readMessage : η → Bytes → Result η
  handshakeFinished : η → Bool

def rawFrame (payload : Bytes) : Result Bytes := do
  let l ← intToBytes 2 payload.length
  return 0x01 :: l ++ payload

def emptyHello : Bytes := [0x01, 0, 0]

/-- `Noise_NNpsk0` is bound to "NoiseAPIInit" and the empty client hello behind its length. -/
def prologue : Bytes := "NoiseAPIInit".toUTF8.toList ++ [0, 0]

def hexByte (b : UInt8) : String := String.ofList [Nat.digitChar (b.toNat / 16), Nat.digitChar (b.toNat % 16)]

def unexpectedHello (hello : Bytes) : PyError :=
  ⟨.runtimeError, "Server hello: chosen_proto byte missing/unexpected (got 0x" ++
    String.join ((hello.take 1).map hexByte) ++ ")"⟩

def receive {α : Type} (x : Reader α) (stream : Bytes) : Traced PyError Bytes (α × Bytes) :=
  match x stream with
  | .ok a rest => pure (a, rest)
  | .error e _ => .lift (.error e)

section

variable {η : Type} (noise : NoiseInitiator η) (out : Bytes → Result Unit)
  -- `decode("utf-8", "replace").strip()`
  (text : Bytes → String)

def writeRaw (payload : Bytes) : Traced PyError Bytes Unit := do
  let frame ← .lift (rawFrame payload)
  .emit frame
  .lift (out frame)

/-- What is made of the device's answer to the first handshake message. -/
def finishHandshake (n : η) (msg2 : Bytes) : Result η :=
  match msg2 with
  | [] => .error ⟨.runtimeError, "Empty handshake response from server"⟩
  | indicator :: body =>
    if indicator = 0x01 then .error ⟨.runtimeError, "Noise handshake rejected: " ++ text body⟩
    else if indicator ≠ 0x00 then
      .error ⟨.runtimeError, s!"Bad handshake indicator: 0x{Dispatcher.hex2 indicator.toNat}"⟩
    else do
      let n ← noise.readMessage n body
      if noise.handshakeFinished n then return n
      else .error ⟨.runtimeError, "Noise handshake did not complete after expected messages"⟩

/-- The connection that results, and what is left of the stream. -/
def doHandshake (psk stream : Bytes) : Traced PyError Bytes (η × Bytes) := do
  writeRaw out []
  let (hello, stream) ← receive readRaw stream
  if hello.head? = some 0x01 then do
    let (msg1, n) ← .lift (noise.writeMessage (noise.start psk prologue))
    writeRaw out (0x00 :: msg1)
    let (msg2, stream) ← receive readRaw stream
    let n ← .lift (finishHandshake noise text n msg2)
    return (n, stream)
  else .lift (.error (unexpectedHello hello))

end

lemma readRaw_eq_ok {stream payload rest : Bytes} :
    readRaw stream = .ok payload rest ↔ ∃ frame, rawFrame payload = .ok frame ∧ stream = frame ++ rest := by
  constructor
  · intro h
    obtain ⟨header, mid, hheader, hbody⟩ := Reader.bind_eq_ok.mp h
    obtain ⟨hlen, rfl⟩ := Reader.readexactly_eq_ok.mp hheader
    obtain ⟨indicator, hi, lo, rfl⟩ := List.length_eq_three.mp hlen
    have hsize : BigEndian.value [hi, lo] < 256 ^ 2 := BigEndian.value_lt [hi, lo]
    have hbytes : BigEndian.toBytes 2 (BigEndian.value [hi, lo]) = [hi, lo] := BigEndian.toBytes_value rfl
    change (if BigEndian.value [indicator] ≠ 0x01 then _ else _ : Reader Bytes) mid = _ at hbody
    split at hbody
    · cases hbody
    · rename_i hind
      have hone : indicator = 0x01 := UInt8.toNat_inj.mp (by simpa using hind)
      have htake : mid = payload ++ rest ∧ payload.length = BigEndian.value [hi, lo] := by
        change (if BigEndian.value [hi, lo] = 0 then _ else _ : Reader Bytes) mid = _ at hbody
        split at hbody
        · rename_i hzero
          cases hbody
          exact ⟨rfl, hzero.symm⟩
        · obtain ⟨hl, rfl⟩ := Reader.readexactly_eq_ok.mp hbody
          exact ⟨rfl, hl⟩
      obtain ⟨rfl, hpayload⟩ := htake
      refine ⟨[indicator, hi, lo] ++ payload, ?_, (List.append_assoc _ _ _).symm⟩
      rw [rawFrame, hpayload, intToBytes, if_pos hsize, hbytes, hone]
      rfl
  · rintro ⟨frame, hframe, rfl⟩
    obtain ⟨l, hl, hf⟩ := bind_eq_ok.mp hframe
    obtain rfl := Except.ok.inj hf
    rw [intToBytes] at hl
    split at hl
    · rename_i hlt
      obtain rfl := Except.ok.inj hl
      exact readRaw_ok hlt rest
    · cases hl

section

variable {η : Type} {noise : NoiseInitiator η} {out : Bytes → Result Unit} {text : Bytes → String}

def Greets (stream mid : Bytes) : Prop := ∃ hello frame, rawFrame (0x01 :: hello) = .ok frame ∧ stream = frame ++ mid

def Accepted (noise : NoiseInitiator η) (out : Bytes → Result Unit) (psk stream : Bytes) (n : η) (rest : Bytes) :
    Prop := ∃ mid msg1 n₁ frame₁ body frame₂, out emptyHello = .ok () ∧ Greets stream mid ∧
    noise.writeMessage (noise.start psk prologue) = .ok (msg1, n₁) ∧ rawFrame (0x00 :: msg1) = .ok frame₁ ∧
    out frame₁ = .ok () ∧ rawFrame (0x00 :: body) = .ok frame₂ ∧ mid = frame₂ ++ rest ∧
    noise.readMessage n₁ body = .ok n ∧ noise.handshakeFinished n = true

lemma finishHandshake_eq_ok {n n' : η} {msg2 : Bytes} : finishHandshake noise text n msg2 = .ok n' ↔
    ∃ body, msg2 = 0x00 :: body ∧ noise.readMessage n body = .ok n' ∧ noise.handshakeFinished n' = true := by
  cases msg2 with
  | nil =>
    refine ⟨fun h => (by cases h), ?_⟩
    rintro ⟨body, hbody, -⟩
    cases hbody
  | cons indicator body =>
    rw [finishHandshake]
    constructor
    · intro h
      split at h
      · cases h
      · split at h
        · cases h
        · rename_i hind
          obtain ⟨n'', hread, hfinished⟩ := bind_eq_ok.mp h
          split at hfinished
          · rename_i hdone
            obtain rfl := Except.ok.inj hfinished
            exact ⟨body, by rw [not_not.mp hind], hread, hdone⟩
          · cases hfinished
    · rintro ⟨body', hbody, hread, hdone⟩
      obtain ⟨rfl, rfl⟩ := List.cons.inj hbody
      rw [if_neg (by decide), if_neg (by decide), hread]
      exact if_pos hdone

lemma receive_eq_ok {α : Type} {x : Reader α} {stream rest : Bytes} {a : α} :
    (receive x stream).result = .ok (a, rest) ↔ x stream = .ok a rest := by
  rw [receive]
  cases x stream with
  | ok b rest' =>
    constructor
    · intro h
      cases h
      rfl
    · intro h
      cases h
      rfl
  | error e rest' => exact ⟨fun h => (by cases h), fun h => (by cases h)⟩

lemma writeRaw_eq {payload frame : Bytes} (h : rawFrame payload = .ok frame) :
    writeRaw out payload = ⟨[frame], out frame⟩ := by
  rw [writeRaw, h]
  rfl

lemma writeRaw_eq_ok {payload : Bytes} (h : (writeRaw out payload).result = .ok ()) :
    ∃ frame, rawFrame payload = .ok frame ∧ out frame = .ok () := by
  obtain ⟨frame, hframe, hwritten⟩ := Traced.bind_result_ok h
  obtain ⟨-, -, hout⟩ := Traced.bind_result_ok hwritten
  exact ⟨frame, hframe, hout⟩

lemma greets_iff {stream mid : Bytes} :
    Greets stream mid ↔ ∃ hello, readRaw stream = .ok hello mid ∧ hello.head? = some 0x01 := by
  constructor
  · rintro ⟨hello, frame, hframe, hstream⟩
    exact ⟨0x01 :: hello, readRaw_eq_ok.mpr ⟨frame, hframe, hstream⟩, rfl⟩
  · rintro ⟨hello, hread, hhead⟩
    obtain ⟨frame, hframe, hstream⟩ := readRaw_eq_ok.mp hread
    cases hello with
    | nil => cases hhead
    | cons b hello =>
      obtain rfl := Option.some.inj hhead
      exact ⟨hello, frame, hframe, hstream⟩

lemma doHandshake_heard (hhello : out emptyHello = .ok ()) {psk stream hello mid : Bytes}
    (hread : readRaw stream = .ok hello mid) : doHandshake noise out text psk stream = .emit emptyHello >>= fun _ => (
      if hello.head? = some 0x01 then do
        let (msg1, n) ← .lift (noise.writeMessage (noise.start psk prologue))
        writeRaw out (0x00 :: msg1)
        let (msg2, stream) ← receive readRaw mid
        let n ← .lift (finishHandshake noise text n msg2)
        return (n, stream)
      else .lift (.error (unexpectedHello hello))) := by
  have hfirst : rawFrame [] = .ok emptyHello := rfl
  have hwritten : writeRaw out [] = .emit emptyHello := by rw [writeRaw_eq hfirst, hhello]; rfl
  rw [doHandshake, hwritten, receive, hread]
  rfl

lemma doHandshake_greeted (hhello : out emptyHello = .ok ()) {psk stream mid msg1 frame : Bytes} {n : η}
    (hgreets : Greets stream mid) (hmsg1 : noise.writeMessage (noise.start psk prologue) = .ok (msg1, n))
    (hframe : rawFrame (0x00 :: msg1) = .ok frame) :
    doHandshake noise out text psk stream = ⟨[emptyHello, frame], (do
      out frame
      let (msg2, rest) ← (receive readRaw mid).result
      let n ← finishHandshake noise text n msg2
      return (n, rest))⟩ := by
  obtain ⟨hello, hread, hhead⟩ := greets_iff.mp hgreets
  rw [doHandshake_heard hhello hread, if_pos hhead, hmsg1, Traced.lift_ok_bind, Traced.emit_bind]
  dsimp only
  rw [writeRaw_eq hframe]
  cases hout : out frame with
  | error e => rfl
  | ok =>
    rw [receive]
    cases readRaw mid with
    | error e rest => rfl
    | ok msg2 rest =>
      rw [pure_bind]
      change _ = Traced.mk _ ((finishHandshake noise text n msg2).bind fun n => .ok (n, rest))
      cases finishHandshake noise text n msg2 <;> rfl

lemma handshake_ok_iff {psk stream rest : Bytes} {n : η} :
    (doHandshake noise out text psk stream).result = .ok (n, rest) ↔ Accepted noise out psk stream n rest := by
  constructor
  · intro h
    obtain ⟨_, hfirst, h⟩ := Traced.bind_result_ok h
    obtain ⟨hello₁, hhello₁, hout⟩ := writeRaw_eq_ok hfirst
    obtain rfl : emptyHello = hello₁ := Except.ok.inj hhello₁
    obtain ⟨⟨hello, mid⟩, hhello, h⟩ := Traced.bind_result_ok h
    have hread := receive_eq_ok.mp hhello
    dsimp only at h
    split at h
    · rename_i hhead
      obtain ⟨⟨msg1, n₁⟩, hmsg1, h⟩ := Traced.bind_result_ok h
      obtain ⟨_, hsecond, h⟩ := Traced.bind_result_ok h
      obtain ⟨frame₁, hframe₁, hout₁⟩ := writeRaw_eq_ok hsecond
      obtain ⟨⟨msg2, rest'⟩, hmsg2, h⟩ := Traced.bind_result_ok h
      obtain ⟨n', hfinish, h⟩ := Traced.bind_result_ok h
      obtain ⟨rfl, rfl⟩ := Prod.mk.inj (Except.ok.inj h)
      obtain ⟨body, rfl, hmessage, hdone⟩ := finishHandshake_eq_ok.mp hfinish
      obtain ⟨frame₂, hframe₂, rfl⟩ := readRaw_eq_ok.mp (receive_eq_ok.mp hmsg2)
      exact ⟨frame₂ ++ rest', msg1, n₁, frame₁, body, frame₂, hout, greets_iff.mpr ⟨hello, hread, hhead⟩, hmsg1,
        hframe₁, hout₁, hframe₂, rfl, hmessage, hdone⟩
    · cases h
  · rintro ⟨mid, msg1, n₁, frame₁, body, frame₂, hout, hgreets, hmsg1, hframe₁, hout₁, hframe₂, rfl, hmessage, hdone⟩
    have hmsg2 : readRaw (frame₂ ++ rest) = .ok (0x00 :: body) rest := readRaw_eq_ok.mpr ⟨frame₂, hframe₂, rfl⟩
    have hfinish := (@finishHandshake_eq_ok η noise text n₁ n _).mpr ⟨body, rfl, hmessage, hdone⟩
    rw [doHandshake_greeted hout hgreets hmsg1 hframe₁, hout₁, receive_eq_ok.mpr hmsg2]
    change (finishHandshake noise text n₁ (0x00 :: body)).bind _ = _
    rw [hfinish]
    rfl

lemma handshake_events (psk stream : Bytes) : (doHandshake noise out text psk stream).events = [emptyHello] ∨
    ∃ mid msg1 n₁ frame, Greets stream mid ∧ noise.writeMessage (noise.start psk prologue) = .ok (msg1, n₁) ∧
      rawFrame (0x00 :: msg1) = .ok frame ∧ (doHandshake noise out text psk stream).events = [emptyHello, frame] := by
  have hfirst : rawFrame [] = .ok emptyHello := rfl
  cases hout : out emptyHello with
  | error e =>
    left
    rw [doHandshake, writeRaw_eq hfirst, hout]
    rfl
  | ok =>
    cases hread : readRaw stream with
    | error e rest =>
      left
      rw [doHandshake, writeRaw_eq hfirst, hout, receive, hread]
      rfl
    | ok hello mid =>
      by_cases hhead : hello.head? = some 0x01
      · cases hmsg1 : noise.writeMessage (noise.start psk prologue) with
        | error e =>
          left
          rw [doHandshake_heard hout hread, if_pos hhead, hmsg1]
          rfl
        | ok r =>
          obtain ⟨msg1, n₁⟩ := r
          cases hframe : rawFrame (0x00 :: msg1) with
          | error e =>
            left
            rw [doHandshake_heard hout hread, if_pos hhead, hmsg1, Traced.lift_ok_bind]
            dsimp only
            rw [writeRaw, hframe]
            rfl
          | ok frame =>
            have hgreets := greets_iff.mpr ⟨hello, hread, hhead⟩
            exact .inr ⟨mid, msg1, n₁, frame, hgreets, rfl, hframe,
              congrArg Traced.events (doHandshake_greeted hout hgreets hmsg1 hframe)⟩
      · left
        rw [doHandshake_heard hout hread, if_neg hhead]
        rfl

end

theorem handshake_exact {η : Type} (noise : NoiseInitiator η) (out : Bytes → Result Unit) (text : Bytes → String)
    (psk stream : Bytes) :
    (∀ n rest, (doHandshake noise out text psk stream).result = .ok (n, rest) ↔ Accepted noise out psk stream n rest) ∧
      ((doHandshake noise out text psk stream).events = [emptyHello] ∨
        ∃ mid msg1 n₁ frame, Greets stream mid ∧ noise.writeMessage (noise.start psk prologue) = .ok (msg1, n₁) ∧
          rawFrame (0x00 :: msg1) = .ok frame ∧ (doHandshake noise out text psk stream).events = [emptyHello, frame]) :=
  ⟨fun _ _ => handshake_ok_iff, handshake_events psk stream⟩

end HaBluetooth.Esphome
