import HaBluetooth.Dispatcher.SendOutcomes
import HaBluetooth.Esphome.Dialogue
import HaBluetooth.Esphome.Wire
import HaBluetooth.Support.Refinement

/-! A connection of the bridge down to the bytes, whose stream arrives in pieces of any size. It refines
the conversation: framing and segmentation make no difference to what is taken and sent. -/

namespace HaBluetooth.Esphome

open Python Protocol Support Dispatcher

namespace Conversation

variable {pb : Protobuf} {py : Library} {passcode : UInt32} {out out' : Out} {c : Conversation}

lemma note_congr {deeds : List Deed} (h : ∀ m ∈ c.attempts deeds, out' m = out m) :
    c.note out' deeds = c.note out deeds := by
  have hsame : (c.attempts deeds).map (record out') = (c.attempts deeds).map (record out) :=
    List.map_congr_left fun m hm => by rw [record, record, h m hm]
  rw [note, note, hsame]

lemma conclude_congr {r : Traced PyError Deed Place} (h : ∀ m ∈ c.attempts r.events, out' m = out m) :
    c.conclude out' r = c.conclude out r := by
  rw [conclude, conclude, note_congr h]

lemma sendMessage_congr {m : Message} {place : Place}
    (h : ∀ m' ∈ (sendMessage out m >>= fun _ => pure place).events.filterMap Deed.message?, out' m' = out m') :
    (sendMessage out' m >>= fun _ => pure place) = sendMessage out m >>= fun _ => pure place := by
  rw [sendMessage_then] at h
  rw [sendMessage_then, sendMessage_then, h m (by simp [Deed.message?])]

lemma dispatcher_congr {α β : Type} {x y : Run α} {f : α → β}
    (hf : Dispatcher.Follows (fun data => out (sendFrameRequest data)) (fun data => out' (sendFrameRequest data)) x y)
    (h : ∀ m ∈ (x.mapEvents Deed.effect >>= fun a => pure (f a) : Traced PyError Deed β).events.filterMap Deed.message?,
      out' m = out m) : y = x := by
  rw [Traced.bind_pure_events] at h
  refine hf fun data hd => h _ ?_
  obtain ⟨e, he, hbytes⟩ := List.mem_filterMap.mp hd
  cases e with
  | raw data' =>
    obtain rfl := Option.some.inj hbytes
    exact List.mem_filterMap.mpr ⟨_, List.mem_map_of_mem he, rfl⟩
  | packet cmd obj => cases hbytes
  | service domain service data' => cases hbytes

lemma advance_congr {hass : Hass} {task : Task}
    (h : ∀ m ∈ (advance py passcode out hass task).events.filterMap Deed.message?, out' m = out m) :
    advance py passcode out' hass task = advance py passcode out hass task := by
  have hsame : (dispatcher passcode out' hass).advance py task = (dispatcher passcode out hass).advance py task :=
    dispatcher_congr ((dispatcher passcode out hass).advance_follows py _ task) h
  rw [advance, advance, hsame]

lemma handshake_congr {m : Message} (h : ∀ m' ∈ (handshake pb out m).events.filterMap Deed.message?, out' m' = out m') :
    handshake pb out' m = handshake pb out m := by
  rw [handshake] at h
  rw [handshake, handshake]
  split
  · rfl
  · rename_i hm
    rw [if_neg hm] at h
    cases hp : pb.parseHelloResponse m.2 with
    | error e => rfl
    | ok =>
      rw [hp, Traced.lift_ok_bind] at h
      exact sendMessage_congr h

lemma readerLoop_congr {hass : Hass} {m : Message}
    (h : ∀ m' ∈ (readerLoop pb py passcode out hass m).events.filterMap Deed.message?, out' m' = out m') :
    readerLoop pb py passcode out' hass m = readerLoop pb py passcode out hass m := by
  rw [readerLoop] at h
  rw [readerLoop, readerLoop]
  split
  · rename_i hm
    rw [if_pos hm] at h
    cases hp : pb.parseFrameResponse m.2 with
    | error e => rw [Traced.lift_error_bind, Traced.lift_error_bind]
    | ok data =>
      rw [hp, Traced.lift_ok_bind] at h
      have hsame : (dispatcher passcode out' hass).acknowledge py data =
          (dispatcher passcode out hass).acknowledge py data :=
        dispatcher_congr ((dispatcher passcode out hass).acknowledge_follows py _ data) h
      rw [Traced.lift_ok_bind, Traced.lift_ok_bind, hsame]
  · rename_i hm
    rw [if_neg hm] at h
    split
    · rename_i hping
      rw [if_pos hping] at h
      exact sendMessage_congr h
    · rename_i hping
      rw [if_neg hping] at h
      split
      · rfl
      · rename_i hpong
        rw [if_neg hpong] at h
        split
        · rename_i hdisconnect
          rw [if_pos hdisconnect] at h
          exact sendMessage_congr h
        · rfl

lemma push_events (out out' : Out) (hass : Hass) (obj : Value) :
    (advance py passcode out hass (.push obj)).events = (advance py passcode out' hass (.push obj)).events := by
  have hevents (out : Out) : (advance py passcode out hass (.push obj)).events =
      (((dispatcher passcode out hass).sendPacket cmdStateChange obj).mapEvents Deed.effect).events := by
    rw [advance, Traced.bind_pure_events]
    exact congrArg (List.map _) (Traced.bind_pure_events _ _)
  rw [hevents out, hevents out', Traced.mapEvents, Traced.mapEvents]
  cases he : encodePacketJson passcode.toNat cmdStateChange obj with
  | error e => simp only [PacketDispatcher.sendPacket, dispatcher, he, Traced.lift_error_bind, Traced.emit_bind]
  | ok packet => simp [PacketDispatcher.sendPacket, dispatcher, he]

lemma turn_congr {t : Turn} (h : ∀ m ∈ (c.turn pb py passcode out t).2, out' m = out m) :
    c.turn pb py passcode out' t = c.turn pb py passcode out t := by
  obtain ⟨phase, pinging, link, pushes, effects, log⟩ := c
  cases t with
  | stateChanged hass newState | fail | leave => rfl
  | take m hass =>
    cases phase with
    | handling task | leaving | closed => rfl
    | hello =>
      have hsame : handshake pb out' m = handshake pb out m := handshake_congr h
      have hconclude := @conclude_congr out out' ⟨.hello, pinging, link, pushes, effects, log ++ [.took m]⟩ _ h
      simp only [turn, hsame, hconclude]
    | reading =>
      have hsame : readerLoop pb py passcode out' hass m = readerLoop pb py passcode out hass m := readerLoop_congr h
      have hconclude := @conclude_congr out out' ⟨.reading, pinging, link, pushes, effects, log ++ [.took m]⟩ _ h
      simp only [turn, hsame, hconclude]
  | resume hass =>
    cases phase with
    | hello | reading | leaving | closed => rfl
    | handling task =>
      have hsame : advance py passcode out' hass task = advance py passcode out hass task := advance_congr h
      have hconclude := @conclude_congr out out' ⟨.handling task, pinging, link, pushes, effects, log⟩ _ h
      simp only [turn, hsame, hconclude]
  | push i hass =>
    simp only [turn] at h ⊢
    cases hpush : pushes[i]? with
    | none => rfl
    | some obj =>
      rw [hpush] at h
      dsimp only at h ⊢
      rw [push_events out' out, @note_congr out out' ⟨phase, pinging, link, pushes.eraseIdx i, effects, log⟩ _ h]
  | ping =>
    cases phase with
    | hello | leaving | closed => rfl
    | reading | handling task =>
      cases pinging with
      | false => rfl
      | true =>
        have hping : out' (msgPingRequest, []) = out (msgPingRequest, []) := h _ (List.mem_singleton.mpr rfl)
        simp [turn, note, attempts, isClosed, Deed.message?, record, hping]

/-! ### What was heard and said -/

def ideal : Out := fun _ => .ok ()

lemma failed_log (c : Conversation) : c.failed.log = c.log := by
  obtain ⟨phase, pinging, link, pushes, effects, log⟩ := c
  cases phase <;> rfl

lemma ideal_log (c : Conversation) (deeds : List Deed) :
    (c.note ideal deeds).log = c.log ++ (c.attempts deeds).map .sent := rfl

lemma conclude_log (out : Out) (c : Conversation) (r : Traced PyError Deed Place) :
    (c.conclude out r).log = (c.note out r.events).log := by
  rw [conclude]
  split
  · rfl
  · exact failed_log _

lemma turn_log (c : Conversation) (t : Turn) : ∃ taken : List Message,
    (c.turn pb py passcode ideal t).1.log =
        c.log ++ taken.map .took ++ (c.turn pb py passcode ideal t).2.map .sent ∧
      (∀ m hass, t = .take m hass → c.phase = .hello ∨ c.phase = .reading → taken = [m]) ∧
      ((∀ m hass, t ≠ .take m hass) → taken = []) := by
  obtain ⟨phase, pinging, link, pushes, effects, log⟩ := c
  cases t with
  | stateChanged hass newState => exact ⟨[], by simp [turn], by simp, fun _ => rfl⟩
  | fail => exact ⟨[], by simp [turn, failed_log], by simp, fun _ => rfl⟩
  | leave =>
    refine ⟨[], ?_, by simp, fun _ => rfl⟩
    cases phase <;> simp [turn]
  | take m hass =>
    cases phase with
    | handling task | leaving | closed => exact ⟨[], by simp [turn], by simp, fun h => absurd rfl (h m hass)⟩
    | hello =>
      refine ⟨[m], ?_, by simp, fun h => absurd rfl (h m hass)⟩
      simp only [turn]
      split <;> exact (conclude_log _ _ _).trans (ideal_log _ _)
    | reading =>
      refine ⟨[m], ?_, by simp, fun h => absurd rfl (h m hass)⟩
      exact (conclude_log _ _ _).trans (ideal_log _ _)
  | resume hass =>
    refine ⟨[], ?_, by simp, fun _ => rfl⟩
    rw [List.map_nil, List.append_nil]
    cases phase with
    | hello | reading | leaving | closed => exact (List.append_nil _).symm
    | handling task => exact (conclude_log _ _ _).trans (ideal_log _ _)
  | push i hass =>
    refine ⟨[], ?_, by simp, fun _ => rfl⟩
    rw [List.map_nil, List.append_nil]
    simp only [turn]
    cases pushes[i]? with
    | none => exact (List.append_nil _).symm
    | some obj => exact ideal_log _ _
  | ping =>
    refine ⟨[], ?_, by simp, fun _ => rfl⟩
    rw [List.map_nil, List.append_nil]
    cases phase with
    | hello | leaving | closed => exact (List.append_nil _).symm
    | reading | handling task =>
      cases pinging with
      | false => exact (List.append_nil _).symm
      | true => exact ideal_log _ _

lemma turn_said (c : Conversation) (t : Turn) :
    (c.turn pb py passcode ideal t).1.said = c.said ++ (c.turn pb py passcode ideal t).2 := by
  obtain ⟨taken, hlog, -⟩ := @turn_log pb py passcode c t
  rw [said, hlog, List.filterMap_append, List.filterMap_append]
  simp [said, Entry.said, List.filterMap_map, Function.comp_def]

lemma turn_heard {c : Conversation} {t : Turn} {taken : List Message}
    (hlog : (c.turn pb py passcode ideal t).1.log = c.log ++ taken.map .took ++
      (c.turn pb py passcode ideal t).2.map .sent) :
    (c.turn pb py passcode ideal t).1.heard = c.heard ++ taken := by
  rw [heard, hlog, List.filterMap_append, List.filterMap_append]
  simp [heard, Entry.heard, List.filterMap_map, Function.comp_def]

end Conversation

structure ApiSession (σ : Type) where
  conversation : Conversation
  frame : Frame σ
  receiver : Receiver
  buffer : Bytes
  eof : Bool
  written : List Bytes

/-- Each step comes with what becomes of the writes in it. -/
inductive ApiInput
  | arrive (bytes : Bytes)
  | eof
  | read (write : Result Unit) (hass : Hass)
  | turn (write : Result Unit) (t : Turn)

def ApiInput.bytes : ApiInput → Bytes
  | .arrive bytes => bytes
  | .eof | .read _ _ | .turn _ _ => []

namespace ApiSession

variable {σ : Type}

section

variable (lib : NoiseLibrary σ) (decrypt : ℕ → Bytes → Result Bytes) (pb : Protobuf) (py : Library) (passcode : UInt32)

def out (s : ApiSession σ) (write : Result Unit) : Out := fun m =>
  match (s.frame.encode lib m.1 m.2).1 with
  | .ok _ => write
  | .error e => .error e

def sendMessage (write : Result Unit) (s : ApiSession σ) (m : Message) : ApiSession σ :=
  match s.frame.encode lib m.1 m.2, write with
  | (.ok bytes, frame), .ok () => { s with frame := frame, written := s.written ++ [bytes] }
  | (_, frame), _ => { s with frame := frame }

def apply (s : ApiSession σ) (write : Result Unit) (t : Turn) : ApiSession σ :=
  let (conversation, messages) := s.conversation.turn pb py passcode (s.out lib write) t
  messages.foldl (sendMessage lib write) { s with conversation := conversation }

def isReading (s : ApiSession σ) : Bool :=
  match s.conversation.phase with
  | .hello | .reading => true
  | .handling _ | .leaving | .closed => false

def step (s : ApiSession σ) : ApiInput → ApiSession σ
  | .arrive bytes => { s with buffer := s.buffer ++ bytes }
  | .eof => { s with eof := true }
  | .read write hass =>
    if s.isReading then
      match arrived (s.receiver.read decrypt) s.eof s.buffer with
      | none => s
      | some (.error _) => s.apply lib pb py passcode write .fail
      | some (.ok (m, rest)) =>
        { s with buffer := rest, receiver := s.receiver.next }.apply lib pb py passcode write (.take m hass)
    else s
  | .turn _ (.take _ _) => s
  | .turn write t => s.apply lib pb py passcode write t

def run (s : ApiSession σ) (inputs : List ApiInput) : ApiSession σ :=
  inputs.foldl (step lib decrypt pb py passcode) s

/-- The connection when its framing is ready and the HelloRequest has been sent. -/
def opened (frame : Frame σ) (receiver : Receiver) (write : Result Unit) (link : ClientLink) : ApiSession σ :=
  let s : ApiSession σ := ⟨⟨.closed, false, link, [], [], []⟩, frame, receiver, [], false, []⟩
  { s with conversation := .opened pb (s.out lib write) link }.sendMessage lib write (msgHelloRequest, pb.helloRequest)

end

/-! ### The framing carries the conversation -/

/-- No write fails, and what is to be sent fits the framing. -/
def Carried (decrypt : ℕ → Bytes → Result Bytes) (pb : Protobuf) (py : Library) (passcode : UInt32) (s : ApiSession σ) :
    ApiInput → Prop
  | .arrive _ | .eof => True
  | .turn write t => write = .ok () ∧ ∀ m ∈ (s.conversation.turn pb py passcode Conversation.ideal t).2, s.frame.Fits m
  | .read write hass => write = .ok () ∧
    match s.receiver.read decrypt s.buffer with
    | .ok m _ => ∀ m' ∈ (s.conversation.turn pb py passcode Conversation.ideal (.take m hass)).2, s.frame.Fits m'
    | .error _ _ => True

variable {lib : NoiseLibrary σ} {nonce : σ → ℕ} {decrypt decrypt' : ℕ → Bytes → Result Bytes}
  {pb : Protobuf} {py : Library}
  {passcode : UInt32} {s : ApiSession σ} {peer : Receiver}

/-- The peer understands what was written as these messages, and is ready for the next. -/
structure Conveys (decrypt' : ℕ → Bytes → Result Bytes) (nonce : σ → ℕ) (peer : Receiver) (s : ApiSession σ)
    (messages : List Message) : Prop where
  delivers : Receiver.Delivers decrypt' peer s.written messages
  inStep : s.frame.InStep nonce (peer.after s.written.length)

lemma sendMessage_conveys (hlib : lib.Inverts nonce decrypt') {messages : List Message}
    (h : Conveys decrypt' nonce peer s messages) {m : Message} (hm : s.frame.Fits m) : ∃ frame bytes,
      s.sendMessage lib (.ok ()) m = { s with frame := frame, written := s.written ++ [bytes] } ∧
        frame.Fits = s.frame.Fits ∧ Conveys decrypt' nonce peer (s.sendMessage lib (.ok ()) m) (messages ++ [m]) := by
  obtain ⟨bytes, frame, hencode, hdelimits, hstep, hfits⟩ := Frame.encode_delimits hlib h.inStep hm
  have hsend : s.sendMessage lib (.ok ()) m = { s with frame := frame, written := s.written ++ [bytes] } := by
    simp only [sendMessage, hencode]
  refine ⟨frame, bytes, hsend, hfits, ?_⟩
  rw [hsend]
  refine ⟨h.delivers.snoc hdelimits, ?_⟩
  rw [List.length_append, List.length_singleton, Receiver.after_succ]
  exact hstep

lemma sendMessages_conveys (hlib : lib.Inverts nonce decrypt') {messages more : List Message}
    (h : Conveys decrypt' nonce peer s messages) (hm : ∀ m ∈ more, s.frame.Fits m) : ∃ frame written,
      more.foldl (sendMessage lib (.ok ())) s = { s with frame := frame, written := written } ∧
        Conveys decrypt' nonce peer (more.foldl (sendMessage lib (.ok ())) s) (messages ++ more) := by
  induction more generalizing s messages with
  | nil =>
    rw [List.append_nil]
    exact ⟨s.frame, s.written, rfl, h⟩
  | cons m more ih =>
    obtain ⟨hfirst, hrest⟩ := List.forall_mem_cons.mp hm
    obtain ⟨frame, bytes, hsend, hfits, hconveys⟩ := sendMessage_conveys hlib h hfirst
    have hmore : ∀ m' ∈ more, (s.sendMessage lib (.ok ()) m).frame.Fits m' := by
      rw [hsend]
      intro m' hm'
      change frame.Fits m'
      rw [hfits]
      exact hrest m' hm'
    obtain ⟨frame', written', hall, hlast⟩ := ih hconveys hmore
    rw [List.append_assoc] at hlast
    refine ⟨frame', written', ?_, hlast⟩
    rw [List.foldl_cons, hall, hsend]

lemma apply_conveys (hlib : lib.Inverts nonce decrypt') (h : Conveys decrypt' nonce peer s s.conversation.said)
    {t : Turn}
    (hm : ∀ m ∈ (s.conversation.turn pb py passcode Conversation.ideal t).2, s.frame.Fits m) :
    ∃ frame written, s.apply lib pb py passcode (.ok ()) t = { s with
        conversation := (s.conversation.turn pb py passcode Conversation.ideal t).1,
        frame := frame, written := written } ∧
      Conveys decrypt' nonce peer (s.apply lib pb py passcode (.ok ()) t)
        (s.apply lib pb py passcode (.ok ()) t).conversation.said := by
  have hout : ∀ m ∈ (s.conversation.turn pb py passcode Conversation.ideal t).2,
      s.out lib (.ok ()) m = Conversation.ideal m := by
    intro m hm'
    obtain ⟨bytes, frame, hencode, -⟩ := Frame.encode_delimits hlib h.inStep (hm m hm')
    rw [out, hencode]
    rfl
  have hturn := Conversation.turn_congr hout
  have hsame : Conveys decrypt' nonce peer
      { s with conversation := (s.conversation.turn pb py passcode Conversation.ideal t).1 } s.conversation.said :=
    ⟨h.delivers, h.inStep⟩
  obtain ⟨frame, written, hall, hlast⟩ := sendMessages_conveys hlib hsame hm
  have happly : s.apply lib pb py passcode (.ok ()) t = { s with
      conversation := (s.conversation.turn pb py passcode Conversation.ideal t).1,
      frame := frame, written := written } := by
    rw [apply, hturn]
    exact hall
  refine ⟨frame, written, happly, ?_⟩
  have hsaid : (s.apply lib pb py passcode (.ok ()) t).conversation.said =
      s.conversation.said ++ (s.conversation.turn pb py passcode Conversation.ideal t).2 := by
    rw [happly]
    exact Conversation.turn_said _ _
  rw [hsaid, apply, hturn]
  exact hlast

/-- What is still to come: the frames of the messages that the device sends, up to where they have arrived. -/
def Expects (decrypt : ℕ → Bytes → Result Bytes) (s : ApiSession σ) (later : Bytes) (messages : List Message) : Prop :=
  ∃ frames, s.buffer ++ later = frames.flatten ∧ Receiver.Delivers decrypt s.receiver frames messages

lemma arrived_cases {later : Bytes} {messages : List Message} (h : Expects decrypt s later messages) :
    arrived (s.receiver.read decrypt) s.eof s.buffer = none ∨
      (∃ e, arrived (s.receiver.read decrypt) s.eof s.buffer = some (.error e)) ∨
      ∃ m messages' rest, messages = m :: messages' ∧ s.receiver.read decrypt s.buffer = .ok m rest ∧
        Expects decrypt { s with buffer := rest, receiver := s.receiver.next } later messages' := by
  have hshort {e : PyError} {rest : Bytes} (hx : s.receiver.read decrypt s.buffer = .error e rest)
      (hkind : e.kind = .incompleteReadError) : arrived (s.receiver.read decrypt) s.eof s.buffer = none ∨
        ∃ e, arrived (s.receiver.read decrypt) s.eof s.buffer = some (.error e) := by
    rw [Reader.short_waits hx hkind]
    cases s.eof with
    | false => exact .inl rfl
    | true => exact .inr ⟨e, rfl⟩
  obtain ⟨frames, hstream, hdelivers⟩ := h
  cases hdelivers with
  | nil =>
    have hempty : s.buffer = [] := (List.append_eq_nil_iff.mp hstream).1
    obtain ⟨e, hnil, hkind⟩ := @Receiver.read_nil decrypt s.receiver
    rw [← hempty] at hnil
    exact (hshort hnil hkind).imp_right .inl
  | @cons _ frame m frames messages' hm hrest =>
    rw [List.flatten_cons] at hstream
    rcases hm.cases s.receiver.read_incremental hstream with ⟨e, rest, hx, hkind⟩ | ⟨left, hbuffer, hleft⟩
    · exact (hshort hx hkind).imp_right .inl
    · have hread : s.receiver.read decrypt s.buffer = .ok m left := by
        rw [hbuffer]
        exact hm left
      exact .inr (.inr ⟨m, messages', left, rfl, hread, ⟨frames, hleft, hrest⟩⟩)

structure Refines (decrypt decrypt' : ℕ → Bytes → Result Bytes) (nonce : σ → ℕ) (peer : Receiver) (pb : Protobuf)
    (py : Library) (passcode : UInt32) (later : Bytes) (messages : List Message) (s s' : ApiSession σ)
    (turns : List Turn) : Prop where
  conversation : s'.conversation = s.conversation.run pb py passcode (turns.map (Prod.mk Conversation.ideal))
  expects : ∃ taken messages', messages = taken ++ messages' ∧
    s'.conversation.heard = s.conversation.heard ++ taken ∧ s'.Expects decrypt later messages'
  conveys : Conveys decrypt' nonce peer s' s'.conversation.said

lemma refines_silent {later : Bytes} {messages : List Message} {s' : ApiSession σ}
    (hconversation : s'.conversation = s.conversation) (hin : s'.Expects decrypt later messages)
    (hout : Conveys decrypt' nonce peer s' s.conversation.said) :
    Refines decrypt decrypt' nonce peer pb py passcode later messages s s' [] where
  conversation := hconversation
  expects := ⟨[], messages, rfl, by rw [hconversation, List.append_nil], hin⟩
  conveys := by rwa [hconversation]

lemma refines_turn (hlib : lib.Inverts nonce decrypt') {later : Bytes} {messages : List Message} {t : Turn}
    (ht : ∀ m hass, t ≠ .take m hass) (hin : s.Expects decrypt later messages)
    (hout : Conveys decrypt' nonce peer s s.conversation.said)
    (hm : ∀ m ∈ (s.conversation.turn pb py passcode Conversation.ideal t).2, s.frame.Fits m) :
    Refines decrypt decrypt' nonce peer pb py passcode later messages s
      (s.apply lib pb py passcode (.ok ()) t) [t] := by
  obtain ⟨frame, written, happly, hconveys⟩ := apply_conveys hlib hout hm
  obtain ⟨taken, hlog, -, hnone⟩ := @Conversation.turn_log pb py passcode s.conversation t
  obtain rfl := hnone ht
  refine ⟨?_, ⟨[], messages, rfl, ?_, ?_⟩, hconveys⟩
  · rw [happly]
    rfl
  · rw [happly]
    exact Conversation.turn_heard hlog
  · rw [happly]
    exact hin

lemma refines_take (hlib : lib.Inverts nonce decrypt') {later rest : Bytes} {messages : List Message} {m : Message}
    {hass : Hass} (hreading : s.isReading = true)
    (hin : Expects decrypt { s with buffer := rest, receiver := s.receiver.next } later messages)
    (hout : Conveys decrypt' nonce peer s s.conversation.said)
    (hm : ∀ m' ∈ (s.conversation.turn pb py passcode Conversation.ideal (.take m hass)).2, s.frame.Fits m') :
    Refines decrypt decrypt' nonce peer pb py passcode later (m :: messages) s
      ({ s with buffer := rest, receiver := s.receiver.next }.apply lib pb py passcode (.ok ()) (.take m hass))
      [.take m hass] := by
  have hsame : Conveys decrypt' nonce peer { s with buffer := rest, receiver := s.receiver.next } s.conversation.said :=
    ⟨hout.delivers, hout.inStep⟩
  obtain ⟨frame, written, happly, hconveys⟩ := apply_conveys hlib hsame hm
  obtain ⟨taken, hlog, htaken, -⟩ := @Conversation.turn_log pb py passcode s.conversation (.take m hass)
  have hphase : s.conversation.phase = .hello ∨ s.conversation.phase = .reading := by
    rw [isReading] at hreading
    split at hreading
    · exact .inl ‹_›
    · exact .inr ‹_›
    all_goals cases hreading
  obtain rfl := htaken m hass rfl hphase
  refine ⟨?_, ⟨[m], messages, rfl, ?_, ?_⟩, hconveys⟩
  · rw [happly]
    rfl
  · rw [happly]
    exact Conversation.turn_heard hlog
  · rw [happly]
    exact hin

lemma step_refines (hlib : lib.Inverts nonce decrypt') {later : Bytes} {messages : List Message} {i : ApiInput}
    (hin : s.Expects decrypt (i.bytes ++ later) messages)
    (hout : Conveys decrypt' nonce peer s s.conversation.said) (hi : s.Carried decrypt pb py passcode i) :
    ∃ turns, Refines decrypt decrypt' nonce peer pb py passcode later messages s
      (s.step lib decrypt pb py passcode i) turns := by
  have hsilent (hin : s.Expects decrypt later messages) :
      Refines decrypt decrypt' nonce peer pb py passcode later messages s s [] := refines_silent rfl hin hout
  cases i with
  | eof => exact ⟨[], refines_silent rfl hin ⟨hout.delivers, hout.inStep⟩⟩
  | arrive bytes =>
    obtain ⟨frames, hstream, hdelivers⟩ := hin
    refine ⟨[], refines_silent rfl ⟨frames, ?_, hdelivers⟩ ⟨hout.delivers, hout.inStep⟩⟩
    exact (List.append_assoc _ _ _).trans hstream
  | turn write t =>
    obtain ⟨rfl, hm⟩ := hi
    cases t with
    | take m hass => exact ⟨[], hsilent hin⟩
    | resume hass | push i hass | ping | stateChanged hass newState | fail | leave =>
      exact ⟨_, refines_turn hlib (fun _ _ h => by cases h) hin hout hm⟩
  | read write hass =>
    obtain ⟨rfl, hm⟩ := hi
    rw [step]
    cases hreading : s.isReading with
    | false => exact ⟨[], hsilent hin⟩
    | true =>
      rw [if_pos rfl]
      rcases arrived_cases hin with hnone | ⟨e, herror⟩ | ⟨m, messages', rest, rfl, hread, hrest⟩
      · rw [hnone]
        exact ⟨[], hsilent hin⟩
      · rw [herror]
        exact ⟨_, refines_turn hlib (fun _ _ h => by cases h) hin hout fun m hm => absurd hm List.not_mem_nil⟩
      · rw [hread] at hm
        rw [arrived, hread]
        exact ⟨_, refines_take hlib hreading hrest hout hm⟩

lemma run_refines (hlib : lib.Inverts nonce decrypt') {inputs : List ApiInput} {later : Bytes} {messages : List Message}
    (hin : s.Expects decrypt (inputs.flatMap ApiInput.bytes ++ later) messages)
    (hout : Conveys decrypt' nonce peer s s.conversation.said)
    (hi : Admits (step lib decrypt pb py passcode) (Carried decrypt pb py passcode) s inputs) :
    ∃ turns, Refines decrypt decrypt' nonce peer pb py passcode later messages s
      (s.run lib decrypt pb py passcode inputs) turns := by
  induction inputs generalizing s messages with
  | nil => exact ⟨[], refines_silent rfl hin hout⟩
  | cons i inputs ih =>
    rw [List.flatMap_cons, List.append_assoc] at hin
    obtain ⟨turns, hconversation, ⟨taken, messages', rfl, hheard, hexpects⟩, hconveys⟩ :=
      step_refines hlib hin hout hi.1
    obtain ⟨turns', hconversation', ⟨taken', messages'', rfl, hheard', hexpects'⟩, hconveys'⟩ :=
      ih hexpects hconveys hi.2
    refine ⟨turns ++ turns', ?_, ⟨taken ++ taken', messages'', (List.append_assoc _ _ _).symm, ?_,
      hexpects'⟩, hconveys'⟩
    · refine hconversation'.trans ?_
      rw [hconversation, List.map_append, Conversation.run, Conversation.run, Conversation.run, List.foldl_append]
    · refine hheard'.trans ?_
      rw [hheard, List.append_assoc]

lemma opened_conveys (hlib : lib.Inverts nonce decrypt') {frame : Frame σ} (hstep : frame.InStep nonce peer)
    (hhello : frame.Fits (msgHelloRequest, pb.helloRequest)) (receiver : Receiver) (link : ClientLink) :
    (opened lib pb frame receiver (.ok ()) link).conversation = .opened pb Conversation.ideal link ∧
      (opened lib pb frame receiver (.ok ()) link).buffer = [] ∧
      (opened lib pb frame receiver (.ok ()) link).receiver = receiver ∧
      Conveys decrypt' nonce peer (opened lib pb frame receiver (.ok ()) link)
        (opened lib pb frame receiver (.ok ()) link).conversation.said := by
  let s : ApiSession σ := ⟨⟨.closed, false, link, [], [], []⟩, frame, receiver, [], false, []⟩
  obtain ⟨bytes, frame', hencode, -⟩ := Frame.encode_delimits hlib hstep hhello
  have hout : s.out lib (.ok ()) (msgHelloRequest, pb.helloRequest) = .ok () := by rw [out, hencode]
  have hopened : Conversation.opened pb (s.out lib (.ok ())) link = .opened pb Conversation.ideal link := by
    simp [Conversation.opened, Conversation.note, Conversation.attempts, Conversation.isClosed, Deed.message?,
      record, hout, Conversation.ideal, Except.isOk, Except.toBool]
  have hnothing : Conveys decrypt' nonce peer { s with conversation := .opened pb Conversation.ideal link } [] :=
    ⟨.nil _, hstep⟩
  obtain ⟨frame', bytes', hsend, -, hconveys⟩ := sendMessage_conveys hlib hnothing hhello
  have hsession : opened lib pb frame receiver (.ok ()) link = { s with
      conversation := .opened pb Conversation.ideal link, frame := frame', written := [] ++ [bytes'] } := by
    rw [opened, hopened]
    exact hsend
  have hsaid : (Conversation.opened pb Conversation.ideal link).said = [(msgHelloRequest, pb.helloRequest)] := by
    simp [Conversation.opened, Conversation.note, Conversation.attempts, Conversation.isClosed, Deed.message?,
      record, Conversation.ideal, Conversation.said, Entry.said, Except.isOk, Except.toBool]
  rw [hsend] at hconveys
  rw [hsession]
  refine ⟨rfl, rfl, rfl, ?_⟩
  rw [hsaid]
  exact hconveys

def welcome : Sealed := ⟨5, [0x01, 0, 20, 0, 2, 0, 0] ++ BigEndian.toBytes 16 5⟩

def pinging : Sealed := ⟨6, [0x01, 0, 20, 0, 7, 0, 0] ++ BigEndian.toBytes 16 6⟩

def pinged : List Bytes := [welcome.bytes, pinging.bytes]

def pingInputs : List ApiInput :=
  [.arrive (pinged.flatten.take 10), .read (.ok ()) .empty, .arrive (pinged.flatten.drop 10), .read (.ok ()) .empty,
    .read (.ok ()) .empty, .turn (.ok ()) .ping]

def emptyMessages : Protobuf := ⟨[0x10, 0x01], fun _ => .ok (), fun _ => .ok []⟩

lemma pinged_delivers : Receiver.Delivers Session.unstamp (.noise 5) pinged [(2, []), (7, [])] := by
  have hwelcome : welcome.Carries Session.unstamp (2, []) :=
    ⟨[0, 2, 0, 0] ++ BigEndian.toBytes 16 5, by decide +kernel, by decide, [0, 2, 0, 0], by decide +kernel, by decide⟩
  have hpinging : pinging.Carries Session.unstamp (7, []) :=
    ⟨[0, 7, 0, 0] ++ BigEndian.toBytes 16 6, by decide +kernel, by decide, [0, 7, 0, 0], by decide +kernel, by decide⟩
  have hping : Receiver.Delivers Session.unstamp (.noise 6) [pinging.bytes] [(7, [])] :=
    .cons (noiseRead_ok hpinging) (.nil _)
  exact .cons (noiseRead_ok hwelcome) hping

instance (frame : Frame σ) (m : Message) : Decidable (frame.Fits m) :=
  match frame with
  | .plaintext | .noise _ => inferInstanceAs (Decidable (_ ∧ _))

instance (s : ApiSession σ) : ∀ i, Decidable (s.Carried decrypt pb py passcode i)
  | .arrive _ | .eof => isTrue trivial
  | .turn _ _ => inferInstanceAs (Decidable (_ ∧ _))
  | .read write hass =>
    match h : s.receiver.read decrypt s.buffer with
    | .ok m rest =>
      decidable_of_iff (write = .ok () ∧
        ∀ m' ∈ (s.conversation.turn pb py passcode Conversation.ideal (.take m hass)).2, s.frame.Fits m') (by
          rw [Carried, h])
    | .error e rest => decidable_of_iff (write = .ok ()) (by rw [Carried, h]; exact (and_iff_left trivial).symm)

end ApiSession

end HaBluetooth.Esphome
