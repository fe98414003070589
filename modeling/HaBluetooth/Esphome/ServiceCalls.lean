import HaBluetooth.Esphome.ApiSession
import HaBluetooth.Transports.ServiceCalls

/-! Every connection keeps to the order of messages, and calls a service only for a frame of the device that
asks for it. Nothing is assumed of the bytes, of the framing or of the writes. -/

namespace HaBluetooth.Esphome

open Python Protocol Support Dispatcher

def Protobuf.frame? (pb : Protobuf) (m : Message) : Option Bytes :=
  if m.1 = bleServerFrameResponseId then (pb.parseFrameResponse m.2).toOption else none

namespace Conversation

variable (pb : Protobuf) (py : Library) (passcode : UInt32)

def frames (c : Conversation) : List Bytes := c.heard.filterMap pb.frame?

def calls (c : Conversation) : List ServiceCall := c.effects.filterMap Effect.call

/-- A handler that has been acknowledged and not yet begun. -/
def Acknowledged (raw : Bytes) (task : Task) : Prop := ∃ cmd payloadBytes,
  decodePacket raw = some (passcode.toNat, cmd, payloadBytes) ∧
    cmd ∈ [cmdReqAreas, cmdReqDevices, cmdReqDashboards, cmdReqState, cmdCallService] ∧
    task = .reply cmd (parsePayload py payloadBytes)

/-- The services called were asked for by the frames, and the last frame may be waiting to be handled. -/
def Accounted (c : Conversation) : Prop :=
  match c.phase with
  | .handling task => task.IsCalled ∧ List.SublistForall₂ (Requests py passcode) c.calls (c.frames pb) ∨
      ∃ earlier raw, c.frames pb = earlier ++ [raw] ∧ List.SublistForall₂ (Requests py passcode) c.calls earlier ∧
        Acknowledged py passcode raw task
  | .hello | .reading | .leaving | .closed => List.SublistForall₂ (Requests py passcode) c.calls (c.frames pb)

variable {pb py passcode} {out : Out} {c : Conversation}

lemma Accounted.matched (h : c.Accounted pb py passcode) :
    List.SublistForall₂ (Requests py passcode) c.calls (c.frames pb) := by
  obtain ⟨phase, pinging, link, pushes, effects, log⟩ := c
  cases phase with
  | hello | reading | leaving | closed => exact h
  | handling task =>
    rcases h with ⟨-, h⟩ | ⟨earlier, raw, hframes, h, -⟩
    · exact h
    · rw [hframes]
      exact Matching.extend h [raw]

lemma record_heard (out : Out) (m : Message) : (record out m).heard = none := by
  rw [record]
  split <;> rfl

lemma note_heard (out : Out) (c : Conversation) (deeds : List Deed) : (c.note out deeds).heard = c.heard := by
  simp [note, heard, List.filterMap_append, List.filterMap_map, record_heard]

lemma failed_accounted (h : List.SublistForall₂ (Requests py passcode) c.calls (c.frames pb)) :
    c.failed.Accounted pb py passcode := by
  obtain ⟨phase, pinging, link, pushes, effects, log⟩ := c
  cases phase <;> exact h

def made (deeds : List Deed) : List ServiceCall := (deeds.filterMap Deed.effect?).filterMap Effect.call

lemma made_effects {α β : Type} (r : Run α) (f : α → β) :
    made (r.mapEvents Deed.effect >>= fun a => pure (f a) : Traced PyError Deed β).events = r.observed Effect.call := by
  rw [Traced.bind_pure_events, made, Traced.mapEvents, List.filterMap_map]
  have hall : Deed.effect? ∘ Deed.effect = some := rfl
  rw [hall, List.filterMap_some]
  rfl

lemma note_matched {deeds : List Deed} {raws : List Bytes}
    (h : List.SublistForall₂ (Requests py passcode) (c.calls ++ made deeds) raws) :
    List.SublistForall₂ (Requests py passcode) (c.note out deeds).calls raws := by
  have hcalls : (c.note out deeds).calls = c.calls ++ made deeds := List.filterMap_append
  rw [hcalls]
  exact h

lemma note_frames (out : Out) (c : Conversation) (deeds : List Deed) : (c.note out deeds).frames pb = c.frames pb := by
  rw [frames, note_heard, frames]

lemma conclude_accounted {r : Traced PyError Deed Place}
    (h : List.SublistForall₂ (Requests py passcode) (c.calls ++ made r.events) (c.frames pb))
    (hr : ∀ task, r.result = .ok (.handling task) → task.IsCalled) : (c.conclude out r).Accounted pb py passcode := by
  have hnote := @note_matched py passcode out c r.events _ h
  rw [← @note_frames pb out c r.events] at hnote
  rw [conclude]
  cases hres : r.result with
  | error e => exact failed_accounted hnote
  | ok place =>
    cases place with
    | handling task => exact .inl ⟨hr task hres, hnote⟩
    | hello | reading | leaving | closed => exact hnote

lemma conclude_quiet {r : Traced PyError Deed Place}
    (h : List.SublistForall₂ (Requests py passcode) c.calls (c.frames pb))
    (hquiet : made r.events = []) (hr : ∀ task, r.result ≠ .ok (.handling task)) :
    (c.conclude out r).Accounted pb py passcode := by
  refine conclude_accounted ?_ fun task htask => absurd htask (hr task)
  rw [hquiet, List.append_nil]
  exact h

lemma sendMessage_quiet (out : Out) (m : Message) (place : Place) (hplace : ∀ task, place ≠ .handling task) :
    made (sendMessage out m >>= fun _ => pure place).events = [] ∧
      ∀ task, (sendMessage out m >>= fun _ => pure place).result ≠ .ok (.handling task) := by
  rw [sendMessage_then]
  refine ⟨rfl, fun task htask => ?_⟩
  cases hout : out m with
  | error e =>
    rw [hout] at htask
    cases htask
  | ok =>
    rw [hout] at htask
    exact hplace task (Except.ok.inj htask)

lemma took_frames {log : List Entry} {phase : Place} {pinging : Bool} {link : ClientLink} {pushes : List Value}
    {effects : List Effect} (m : Message) : (⟨phase, pinging, link, pushes, effects, log ++ [.took m]⟩ :
      Conversation).frames pb = (⟨phase, pinging, link, pushes, effects, log⟩ : Conversation).frames pb ++
        (pb.frame? m).toList := by
  rw [frames, frames, heard, heard, List.filterMap_append, List.filterMap_append]
  cases h : pb.frame? m with
  | none => simp [Entry.heard, h]
  | some raw => simp [Entry.heard, h]

lemma handshake_quiet (out : Out) (m : Message) : made (handshake pb out m).events = [] ∧
    ∀ task, (handshake pb out m).result ≠ .ok (.handling task) := by
  rw [handshake]
  split
  · exact ⟨rfl, fun task h => by cases h⟩
  · cases pb.parseHelloResponse m.2 with
    | error e => exact ⟨rfl, fun task h => by cases h⟩
    | ok =>
      rw [Traced.lift_ok_bind]
      exact sendMessage_quiet out _ _ fun task h => by cases h

lemma readerLoop_accounted {log : List Entry} {link : ClientLink} {pushes : List Value} {effects : List Effect}
    {pinging : Bool} (h : (⟨.reading, pinging, link, pushes, effects, log⟩ : Conversation).Accounted pb py passcode)
    (m : Message) (hass : Hass) : (conclude out ⟨.reading, pinging, link, pushes, effects, log ++ [.took m]⟩
      (readerLoop pb py passcode out hass m)).Accounted pb py passcode := by
  have hmatched : List.SublistForall₂ (Requests py passcode)
      (⟨.reading, pinging, link, pushes, effects, log ++ [.took m]⟩ : Conversation).calls
      ((⟨.reading, pinging, link, pushes, effects, log ++ [.took m]⟩ : Conversation).frames pb) := by
    rw [took_frames]
    exact Matching.extend h.matched _
  rw [readerLoop]
  split
  · rename_i hm
    cases hparse : pb.parseFrameResponse m.2 with
    | error e => exact conclude_quiet hmatched rfl fun task ht => by cases ht
    | ok raw =>
      rw [Traced.lift_ok_bind]
      have hframe : pb.frame? m = some raw := by
        rw [Protobuf.frame?, if_pos hm, hparse]
        rfl
      have hquiet := made_effects ((dispatcher passcode out hass).acknowledge py raw) suspended
      rw [PacketDispatcher.acknowledge_calls] at hquiet
      cases hres : ((dispatcher passcode out hass).acknowledge py raw).result with
      | error e =>
        refine conclude_quiet hmatched hquiet fun task ht => ?_
        obtain ⟨task', htask', -⟩ := Traced.bind_result_ok ht
        have hboth := hres.symm.trans htask'
        cases hboth
      | ok task =>
        cases task with
        | none =>
          refine conclude_quiet hmatched hquiet fun task ht => ?_
          obtain ⟨task', htask', hend⟩ := Traced.bind_result_ok ht
          obtain rfl := Except.ok.inj (hres.symm.trans htask')
          cases hend
        | some task =>
          obtain ⟨cmd, payloadBytes, hdec, hcmd, htask⟩ := PacketDispatcher.acknowledge_task hres
          have hrun : (((dispatcher passcode out hass).acknowledge py raw).mapEvents Deed.effect >>= fun task =>
              pure (suspended task) : Traced PyError Deed Place).result = .ok (.handling task) := by
            have hmapped : (((dispatcher passcode out hass).acknowledge py raw).mapEvents Deed.effect).result =
                .ok (some task) := hres
            rw [Traced.bind_ok _ hmapped]
            rfl
          rw [conclude, hrun]
          refine .inr ⟨(⟨.reading, pinging, link, pushes, effects, log⟩ : Conversation).frames pb, raw, ?_, ?_, cmd,
            payloadBytes, hdec, hcmd, htask⟩
          · refine (note_frames out _ _).trans ((took_frames m).trans ?_)
            rw [hframe]
            rfl
          · refine @note_matched py passcode out _ _ _ ?_
            rw [hquiet, List.append_nil]
            exact h.matched
  · split
    · obtain ⟨hquiet, hplace⟩ := sendMessage_quiet out (msgPingResponse, []) .reading fun task h => by cases h
      exact conclude_quiet hmatched hquiet hplace
    · split
      · exact conclude_quiet hmatched rfl fun task ht => by cases ht
      · split
        · obtain ⟨hquiet, hplace⟩ := sendMessage_quiet out (msgDisconnectResponse, []) .leaving fun task h => by cases h
          exact conclude_quiet hmatched hquiet hplace
        · exact conclude_quiet hmatched rfl fun task ht => by cases ht

lemma resume_accounted {log : List Entry} {link : ClientLink} {pushes : List Value} {effects : List Effect}
    {pinging : Bool} {task : Task}
    (h : (⟨.handling task, pinging, link, pushes, effects, log⟩ : Conversation).Accounted pb py passcode)
    (hass : Hass) :
    (conclude out ⟨.handling task, pinging, link, pushes, effects, log⟩
      (advance py passcode out hass task)).Accounted pb py passcode := by
  have hmade : made (advance py passcode out hass task).events =
      ((dispatcher passcode out hass).advance py task).observed Effect.call := made_effects _ suspended
  refine conclude_accounted ?_ fun task' htask' => ?_
  · rw [hmade]
    rcases h with ⟨hcalled, h⟩ | ⟨earlier, raw, hframes, h, cmd, payloadBytes, hdec, hcmd, rfl⟩
    · rw [PacketDispatcher.called_calls hcalled, List.append_nil]
      exact h
    · rw [hframes]
      apply Matching.append h
      rcases (dispatcher passcode out hass).advance_reply_calls cmd (parsePayload py payloadBytes) with
        hn | ⟨call, hcall, hnot, hreq⟩
      · rw [hn]
        exact .nil
      · have hservice : cmd = cmdCallService := by
          simp only [List.mem_cons, List.not_mem_nil, or_false] at hcmd hnot
          tauto
        rw [hcall]
        exact .cons ⟨decodePacket_crc hdec, payloadBytes, hservice ▸ hdec, hreq⟩ .nil
  · obtain ⟨next, hnext, hend⟩ := Traced.bind_result_ok htask'
    cases next with
    | none => cases hend
    | some next =>
      cases hend
      exact PacketDispatcher.advance_leaves hnext

lemma push_accounted (h : c.Accounted pb py passcode) (i : ℕ) (hass : Hass) :
    (c.turn pb py passcode out (.push i hass)).1.Accounted pb py passcode := by
  rw [turn]
  dsimp only
  cases c.pushes[i]? with
  | none => exact h
  | some obj =>
    have hquiet : made (advance py passcode out hass (.push obj)).events = [] :=
      (made_effects _ suspended).trans
        (Traced.observed_bind_nil (PacketDispatcher.sendPacket_calls _ _) fun _ => rfl)
    have hcalls :
      (note out { c with pushes := c.pushes.eraseIdx i } (advance py passcode out hass (.push obj)).events).calls =
        c.calls := by
      refine List.filterMap_append.trans ?_
      change c.calls ++ made _ = c.calls
      rw [hquiet, List.append_nil]
    have hframes : (note out { c with pushes := c.pushes.eraseIdx i }
        (advance py passcode out hass (.push obj)).events).frames pb = c.frames pb := note_frames _ _ _
    dsimp only
    rw [Accounted, hcalls, hframes]
    exact h

lemma ping_accounted (h : c.Accounted pb py passcode) :
    (c.turn pb py passcode out .ping).1.Accounted pb py passcode := by
  obtain ⟨phase, pinging, link, pushes, effects, log⟩ := c
  have hsame (pinging : Bool) (deeds : List Deed) (hd : made deeds = []) :
      (note out ⟨phase, pinging, link, pushes, effects, log⟩ deeds).Accounted pb py passcode := by
    have hcalls : (note out ⟨phase, pinging, link, pushes, effects, log⟩ deeds).calls =
      effects.filterMap Effect.call := by
      refine List.filterMap_append.trans ?_
      change _ ++ made deeds = _
      rw [hd, List.append_nil]
    rw [Accounted, hcalls, note_frames]
    exact h
  cases phase with
  | hello | leaving | closed => exact h
  | reading | handling task =>
    cases pinging with
    | false => exact h
    | true => exact hsame _ _ rfl

lemma turn_accounted (h : c.Accounted pb py passcode) (t : Turn) :
    (c.turn pb py passcode out t).1.Accounted pb py passcode := by
  cases t with
  | push i hass => exact push_accounted h i hass
  | ping => exact ping_accounted h
  | fail => exact failed_accounted h.matched
  | stateChanged hass newState => exact h
  | leave =>
    obtain ⟨phase, pinging, link, pushes, effects, log⟩ := c
    cases phase with
    | hello | reading | handling task | leaving | closed => exact h
  | resume hass =>
    obtain ⟨phase, pinging, link, pushes, effects, log⟩ := c
    cases phase with
    | hello | reading | leaving | closed => exact h
    | handling task => exact resume_accounted h hass
  | take m hass =>
    obtain ⟨phase, pinging, link, pushes, effects, log⟩ := c
    cases phase with
    | handling task | leaving | closed => exact h
    | reading => exact readerLoop_accounted h m hass
    | hello =>
      obtain ⟨hquiet, hplace⟩ := @handshake_quiet pb out m
      have hmatched : List.SublistForall₂ (Requests py passcode)
          (⟨.hello, pinging, link, pushes, effects, log ++ [.took m]⟩ : Conversation).calls
          ((⟨.hello, pinging, link, pushes, effects, log ++ [.took m]⟩ : Conversation).frames pb) := by
        rw [took_frames]
        exact Matching.extend h.matched _
      have hconclude := @conclude_quiet pb py passcode out _ _ hmatched hquiet hplace
      change Accounted pb py passcode (if _ then _ else _)
      split
      · exact hconclude
      · exact hconclude

lemma run_accounted (h : c.Accounted pb py passcode) (turns : List (Out × Turn)) :
    (c.run pb py passcode turns).Accounted pb py passcode := by
  induction turns generalizing c with
  | nil => exact h
  | cons t turns ih => exact ih (turn_accounted h t.2)

end Conversation

namespace ApiSession

variable {σ : Type} (lib : NoiseLibrary σ) (decrypt : ℕ → Bytes → Result Bytes) (pb : Protobuf) (py : Library)
  (passcode : UInt32)

lemma sendMessages_conversation (write : Result Unit) (messages : List Message) (s : ApiSession σ) :
    (messages.foldl (sendMessage lib write) s).conversation = s.conversation := by
  induction messages generalizing s with
  | nil => rfl
  | cons m messages ih =>
    refine (ih (s.sendMessage lib write m)).trans ?_
    simp only [sendMessage]
    split <;> rfl

lemma apply_conversation (s : ApiSession σ) (write : Result Unit) (t : Turn) :
    (s.apply lib pb py passcode write t).conversation =
      (s.conversation.turn pb py passcode (s.out lib write) t).1 := sendMessages_conversation lib write _ _

lemma step_turns (s : ApiSession σ) (i : ApiInput) : ∃ turns : List (Out × Turn),
    (s.step lib decrypt pb py passcode i).conversation = s.conversation.run pb py passcode turns := by
  have hnone : ∃ turns : List (Out × Turn), s.conversation = s.conversation.run pb py passcode turns := ⟨[], rfl⟩
  have hturn (s : ApiSession σ) (write : Result Unit) (t : Turn) : ∃ turns : List (Out × Turn),
      (s.apply lib pb py passcode write t).conversation = s.conversation.run pb py passcode turns :=
    ⟨[(s.out lib write, t)], apply_conversation lib pb py passcode s write t⟩
  cases i with
  | arrive bytes | eof => exact hnone
  | turn write t =>
    cases t with
    | take m hass => exact hnone
    | resume hass | push i hass | ping | stateChanged hass newState | fail | leave => exact hturn s write _
  | read write hass =>
    rw [step]
    split
    · split
      · exact hnone
      · exact hturn s write _
      · exact hturn { s with buffer := _, receiver := _ } write _
    · exact hnone

lemma run_turns (s : ApiSession σ) (inputs : List ApiInput) : ∃ turns : List (Out × Turn),
    (s.run lib decrypt pb py passcode inputs).conversation = s.conversation.run pb py passcode turns := by
  induction inputs generalizing s with
  | nil => exact ⟨[], rfl⟩
  | cons i inputs ih =>
    obtain ⟨turns, hturns⟩ := s.step_turns lib decrypt pb py passcode i
    obtain ⟨turns', hturns'⟩ := ih (s.step lib decrypt pb py passcode i)
    refine ⟨turns ++ turns', hturns'.trans ?_⟩
    rw [hturns, Conversation.run, Conversation.run, Conversation.run, List.foldl_append]

lemma opened_conversation (frame : Frame σ) (receiver : Receiver) (write : Result Unit) (link : ClientLink) :
    ∃ out, (opened lib pb frame receiver write link).conversation = .opened pb out link :=
  ⟨_, sendMessages_conversation lib write [(msgHelloRequest, pb.helloRequest)] _⟩

theorem session_dialogue (frame : Frame σ) (receiver : Receiver) (write : Result Unit) (inputs : List ApiInput) :
    ∃ stage, Dialogue pb passcode
      ((opened lib pb frame receiver write .init).run lib decrypt pb py passcode inputs).conversation.log stage := by
  obtain ⟨out, hopened⟩ := opened_conversation lib pb frame receiver write .init
  obtain ⟨turns, hturns⟩ := (opened lib pb frame receiver write .init).run_turns lib decrypt pb py passcode inputs
  rw [hturns, hopened]
  exact (Conversation.run_orderly (Conversation.opened_orderly out) turns).dialogue

end ApiSession

/-- One connection after another, each with the framing that its handshake led to. -/
structure Connection (σ : Type) where
  frame : Frame σ
  receiver : Receiver
  write : Result Unit
  inputs : List ApiInput

section

variable {σ : Type} (lib : NoiseLibrary σ) (decrypt : ℕ → Bytes → Result Bytes) (pb : Protobuf) (py : Library)
  (passcode : UInt32)

def Connection.conversation (n : Connection σ) : Conversation :=
  ((ApiSession.opened lib pb n.frame n.receiver n.write .init).run lib decrypt pb py passcode n.inputs).conversation

lemma connection_matched (n : Connection σ) : List.SublistForall₂ (Requests py passcode)
    (n.conversation lib decrypt pb py passcode).calls ((n.conversation lib decrypt pb py passcode).frames pb) := by
  obtain ⟨out, hopened⟩ := ApiSession.opened_conversation lib pb n.frame n.receiver n.write .init
  obtain ⟨turns, hturns⟩ :=
    (ApiSession.opened lib pb n.frame n.receiver n.write .init).run_turns lib decrypt pb py passcode n.inputs
  have hstart : (Conversation.opened pb out .init).Accounted pb py passcode := by
    rw [Conversation.opened]
    split
    · exact .nil
    · exact .nil
  rw [Connection.conversation, hturns, hopened]
  exact (Conversation.run_accounted hstart turns).matched

end

end HaBluetooth.Esphome
