import HaBluetooth.Dispatcher.SentPackets
import HaBluetooth.Esphome.Conversation

/-! The order of messages on a connection: the hello and its answer, the subscription, then packets and
pings with an answer to each request, until the device asks to disconnect. -/

namespace HaBluetooth.Esphome

open Python Support Dispatcher

inductive Stage
  | greeting
  | up
  -- nothing but packets is sent any more
  | parting
  -- neither side says anything any more
  | over
  deriving DecidableEq, Repr

inductive Dialogue (pb : Protobuf) (passcode : UInt32) : List Entry → Stage → Prop
  | unsaid : Dialogue pb passcode [.lost (msgHelloRequest, pb.helloRequest)] .over
  | hello : Dialogue pb passcode [.sent (msgHelloRequest, pb.helloRequest)] .greeting
  | welcome {log : List Entry} (h : Dialogue pb passcode log .greeting) (m : Message) (hm : m.1 = msgHelloResponse)
      (hp : pb.parseHelloResponse m.2 = .ok ()) :
      Dialogue pb passcode (log ++ [.took m, .sent (bleServerSubscribeRequestId, [])]) .up
  | unsubscribed {log : List Entry} (h : Dialogue pb passcode log .greeting) (m : Message)
      (hm : m.1 = msgHelloResponse) (hp : pb.parseHelloResponse m.2 = .ok ()) :
      Dialogue pb passcode (log ++ [.took m, .lost (bleServerSubscribeRequestId, [])]) .over
  | refused {log : List Entry} (h : Dialogue pb passcode log .greeting) (m : Message)
      (hm : m.1 = msgHelloResponse → pb.parseHelloResponse m.2 ≠ .ok ()) :
      Dialogue pb passcode (log ++ [.took m]) .over
  | took {log : List Entry} (h : Dialogue pb passcode log .up) (m : Message) (hp : m.1 ≠ msgPingRequest)
      (hd : m.1 ≠ msgDisconnectRequest) : Dialogue pb passcode (log ++ [.took m]) .up
  | pong {log : List Entry} (h : Dialogue pb passcode log .up) (m : Message) (hm : m.1 = msgPingRequest) :
      Dialogue pb passcode (log ++ [.took m, .sent (msgPingResponse, [])]) .up
  | unponged {log : List Entry} (h : Dialogue pb passcode log .up) (m : Message) (hm : m.1 = msgPingRequest) :
      Dialogue pb passcode (log ++ [.took m, .lost (msgPingResponse, [])]) .parting
  | goodbye {log : List Entry} (h : Dialogue pb passcode log .up) (m : Message) (hm : m.1 = msgDisconnectRequest)
      {e : Entry} (he : e.tried = some (msgDisconnectResponse, [])) :
      Dialogue pb passcode (log ++ [.took m, e]) .parting
  | ping {log : List Entry} (h : Dialogue pb passcode log .up) {e : Entry} (he : e.tried = some (msgPingRequest, [])) :
      Dialogue pb passcode (log ++ [e]) .up
  | packet {log : List Entry} {stage : Stage} (h : Dialogue pb passcode log stage) (hs : stage = .up ∨ stage = .parting)
      {data : Bytes} (he : Encoded passcode data) {e : Entry} (hd : e.tried = some (sendFrameRequest data)) :
      Dialogue pb passcode (log ++ [e]) stage

lemma record_tried (out : Out) (m : Message) : (record out m).tried = some m := by
  rw [record]
  split <;> rfl

namespace Conversation

variable {pb : Protobuf} {py : Library} {passcode : UInt32} {out : Out}

lemma packets {log : List Entry} {stage : Stage} (h : Dialogue pb passcode log stage)
    (hs : stage = .up ∨ stage = .parting) {ms : List Message}
    (hms : ∀ m ∈ ms, ∃ data, m = sendFrameRequest data ∧ Encoded passcode data) :
    Dialogue pb passcode (log ++ ms.map (record out)) stage := by
  induction ms generalizing log with
  | nil =>
    rw [List.map_nil, List.append_nil]
    exact h
  | cons m ms ih =>
    obtain ⟨⟨data, hm, he⟩, hrest⟩ := List.forall_mem_cons.mp hms
    rw [List.map_cons, ← List.singleton_append, ← List.append_assoc]
    exact ih (.packet h hs he ((record_tried out m).trans (congrArg some hm))) hrest

lemma deeds_packets {α β : Type} {r : Run α} (hr : r.Throughout (AllEncoded passcode)) (f : α → β) :
    ∀ m ∈ (r.mapEvents Deed.effect >>= fun a => pure (f a) : Traced PyError Deed β).events.filterMap Deed.message?,
      ∃ data, m = sendFrameRequest data ∧ Encoded passcode data := by
  rw [Traced.bind_pure_events]
  intro m hm
  obtain ⟨d, hd, hmd⟩ := List.mem_filterMap.mp hm
  obtain ⟨e, he, rfl⟩ := List.mem_map.mp hd
  cases e with
  | raw data =>
    have hencoded := hr r.events List.prefix_rfl data (List.mem_filterMap.mpr ⟨_, he, rfl⟩)
    exact ⟨data, (Option.some.inj hmd).symm, hencoded⟩
  | packet cmd obj => cases hmd
  | service domain service data => cases hmd

def Orderly (pb : Protobuf) (passcode : UInt32) (c : Conversation) : Prop :=
  match c.phase with
  | .hello => Dialogue pb passcode c.log .greeting ∧ c.link = .init ∧ c.pushes = []
  | .reading | .handling _ => Dialogue pb passcode c.log .up
  | .leaving => Dialogue pb passcode c.log .up ∨ Dialogue pb passcode c.log .parting
  | .closed => ∃ stage, Dialogue pb passcode c.log stage

lemma Orderly.dialogue {c : Conversation} (h : c.Orderly pb passcode) : ∃ stage, Dialogue pb passcode c.log stage := by
  obtain ⟨phase, pinging, link, pushes, effects, log⟩ := c
  cases phase with
  | hello => exact ⟨_, h.1⟩
  | reading | handling => exact ⟨_, h⟩
  | leaving => exact h.elim (fun h => ⟨_, h⟩) fun h => ⟨_, h⟩
  | closed => exact h

lemma failed_orderly {c : Conversation} (h : c.Orderly pb passcode) : c.failed.Orderly pb passcode := by
  obtain ⟨phase, pinging, link, pushes, effects, log⟩ := c
  cases phase with
  | hello => exact ⟨_, h.1⟩
  | reading | handling => exact .inl h
  | leaving | closed => exact h

lemma opened_orderly (out : Out) : (opened pb out .init).Orderly pb passcode := by
  rw [opened]
  cases hout : (out (msgHelloRequest, pb.helloRequest)).isOk with
  | true =>
    have hlog : (note out ⟨.hello, false, .init, [], [], []⟩ [.message (msgHelloRequest, pb.helloRequest)]).log =
        [.sent (msgHelloRequest, pb.helloRequest)] := by
      simp [note, attempts, isClosed, Deed.message?, record, hout]
    refine ⟨?_, rfl, rfl⟩
    rw [if_pos rfl, hlog]
    exact .hello
  | false =>
    refine ⟨.over, ?_⟩
    have hlog : (note out ⟨.hello, false, .init, [], [], []⟩ [.message (msgHelloRequest, pb.helloRequest)]).log =
        [.lost (msgHelloRequest, pb.helloRequest)] := by
      simp [note, attempts, isClosed, Deed.message?, record, hout]
    change Dialogue pb passcode (note out _ _).log .over
    rw [hlog]
    exact .unsaid

section

variable {c : Conversation} {r : Traced PyError Deed Place} {m : Message}

lemma note_log (h : c.isClosed = false) (deeds : List Deed) :
    (c.note out deeds).log =
      c.log ++ (deeds.filterMap Deed.message?).map (record out) := by
  rw [note, attempts, h]
  rfl

lemma conclude_ok {place : Place} (h : r.result = .ok place) :
    c.conclude out r = { c.note out r.events with phase := place } := by
  rw [conclude, h]

lemma conclude_error {e : PyError} (h : r.result = .error e) : c.conclude out r = (c.note out r.events).failed := by
  rw [conclude, h]

lemma note_packets {stage : Stage} (hopen : c.isClosed = false) (h : Dialogue pb passcode c.log stage)
    (hs : stage = .up ∨ stage = .parting) {deeds : List Deed}
    (hdeeds : ∀ m ∈ deeds.filterMap Deed.message?, ∃ data, m = sendFrameRequest data ∧ Encoded passcode data) :
    Dialogue pb passcode (c.note out deeds).log stage := by
  rw [note_log hopen]
  exact packets h hs hdeeds

lemma conclude_packets (hphase : c.phase = .reading ∨ ∃ task, c.phase = .handling task)
    (h : Dialogue pb passcode c.log .up)
    (hdeeds : ∀ m ∈ r.events.filterMap Deed.message?, ∃ data, m = sendFrameRequest data ∧ Encoded passcode data)
    (hr : ∀ place, r.result = .ok place → ∃ task, place = suspended task) :
    (c.conclude out r).Orderly pb passcode := by
  have hopen : c.isClosed = false := by
    rw [isClosed]
    rcases hphase with hphase | ⟨task, hphase⟩
    · rw [hphase]
    · rw [hphase]
  have hlog := @note_packets pb passcode out c .up hopen h (.inl rfl) r.events hdeeds
  cases hres : r.result with
  | ok place =>
    rw [conclude_ok hres]
    obtain ⟨task, rfl⟩ := hr place hres
    cases task with
    | none => exact hlog
    | some task => exact hlog
  | error e =>
    rw [conclude_error hres]
    apply failed_orderly
    rcases hphase with hphase | ⟨task, hphase⟩
    · simpa only [Orderly, note, hphase] using hlog
    · simpa only [Orderly, note, hphase] using hlog

lemma sendMessage_then (out : Out) (m : Message) (place : Place) :
    (sendMessage out m >>= fun _ => pure place) = ⟨[.message m], (out m).map fun _ => place⟩ := by
  have hsend : sendMessage out m = ⟨[.message m], out m⟩ := rfl
  rw [hsend]
  cases out m with
  | ok => rfl
  | error e => rfl

lemma handshake_orderly {log : List Entry} {link : ClientLink} {pushes : List Value} {effects : List Effect}
    {pinging : Bool} (h : Dialogue pb passcode log .greeting) :
    (conclude out
      ⟨.hello, pinging, link, pushes, effects, log ++ [.took m]⟩ (handshake pb out m)).Orderly pb passcode := by
  have hfails {x : Traced PyError Deed Place} {e : PyError} (hx : x = .lift (.error e))
      (hm : m.1 = msgHelloResponse → pb.parseHelloResponse m.2 ≠ .ok ()) :
      (conclude out ⟨.hello, pinging, link, pushes, effects, log ++ [.took m]⟩ x).Orderly pb passcode := by
    subst hx
    refine ⟨.over, ?_⟩
    simpa [conclude, note, attempts, failed] using Dialogue.refused h m hm
  rw [handshake]
  by_cases hm : m.1 = msgHelloResponse
  · rw [if_neg (not_not.mpr hm)]
    cases hp : pb.parseHelloResponse m.2 with
    | error e => exact hfails rfl fun _ => by simp [hp]
    | ok =>
      rw [Traced.lift_ok_bind, sendMessage_then]
      cases hout : out (bleServerSubscribeRequestId, []) with
      | ok =>
        have hup := Dialogue.welcome h m hm hp
        change Dialogue pb passcode _ .up
        simpa [conclude, note, attempts, isClosed, Deed.message?, record, hout, Except.map, Except.isOk,
          Except.toBool] using hup
      | error e =>
        refine ⟨.over, ?_⟩
        simpa [conclude, note, attempts, isClosed, Deed.message?, record, hout, Except.map, Except.isOk, Except.toBool,
          failed] using Dialogue.unsubscribed h m hm hp
  · rw [if_pos hm]
    exact hfails rfl fun hm' => absurd hm' hm

lemma reply_orderly {log : List Entry} {link : ClientLink} {pushes : List Value} {effects : List Effect}
    {pinging : Bool} {reply : Message} {place : Place}
    (hgood : ∀ effects', Orderly pb passcode ⟨place, pinging, link, pushes, effects', log ++ [.took m, .sent reply]⟩)
    (hlost : Dialogue pb passcode (log ++ [.took m, .lost reply]) .parting) :
    (conclude out ⟨.reading, pinging, link, pushes, effects, log ++ [.took m]⟩
      (sendMessage out reply >>= fun _ => pure place)).Orderly pb passcode := by
  rw [sendMessage_then]
  cases hout : out reply with
  | ok =>
    simpa [conclude, note, attempts, isClosed, Deed.message?, record, hout, Except.map, Except.isOk,
      Except.toBool] using hgood (effects ++ [.message reply].filterMap Deed.effect?)
  | error e =>
    refine .inr ?_
    simpa [conclude, note, attempts, isClosed, Deed.message?, record, hout, Except.map, Except.isOk, Except.toBool,
      failed] using hlost

lemma readerLoop_orderly {log : List Entry} {link : ClientLink} {pushes : List Value} {effects : List Effect}
    {pinging : Bool} (h : Dialogue pb passcode log .up) (hass : Hass) :
    (conclude out ⟨.reading, pinging, link, pushes, effects, log ++ [.took m]⟩
      (readerLoop pb py passcode out hass m)).Orderly pb passcode := by
  have hplain (hp : m.1 ≠ msgPingRequest) (hd : m.1 ≠ msgDisconnectRequest) :
      (conclude out
        ⟨.reading, pinging, link, pushes, effects, log ++ [.took m]⟩ (pure .reading)).Orderly pb passcode := by
    have htook := Dialogue.took h m hp hd
    change Dialogue pb passcode _ .up
    simpa [conclude, note, attempts] using htook
  rw [readerLoop]
  split
  · rename_i hframe
    have hp : m.1 ≠ msgPingRequest := by rw [hframe]; decide
    have hd : m.1 ≠ msgDisconnectRequest := by rw [hframe]; decide
    have htook := Dialogue.took h m hp hd
    apply conclude_packets (.inl rfl) htook
    · cases hparse : pb.parseFrameResponse m.2 with
      | error e => exact fun m' hm' => absurd hm' List.not_mem_nil
      | ok data =>
        rw [Traced.lift_ok_bind]
        exact deeds_packets ((dispatcher passcode out hass).acknowledge_encoded py data) suspended
    · intro place hplace
      obtain ⟨data, -, hrest⟩ := Traced.bind_result_ok hplace
      obtain ⟨task, -, hend⟩ := Traced.bind_result_ok hrest
      exact ⟨task, (Except.ok.inj hend).symm⟩
  · split
    · rename_i hping
      exact reply_orderly (fun _ => .pong h m hping) (.unponged h m hping)
    · rename_i hping
      split
      · rename_i hresponse
        exact hplain hping (by rw [hresponse]; decide)
      · split
        · rename_i hdisconnect
          exact reply_orderly (fun _ => .inr (.goodbye h m hdisconnect rfl)) (.goodbye h m hdisconnect rfl)
        · rename_i hdisconnect
          exact hplain hping hdisconnect

lemma advance_deeds (hass : Hass) (task : Task) :
    (∀ m ∈ (advance py passcode out hass task).events.filterMap Deed.message?,
      ∃ data, m = sendFrameRequest data ∧ Encoded passcode data) ∧
      ∀ place, (advance py passcode out hass task).result = .ok place → ∃ task, place = suspended task := by
  refine ⟨deeds_packets ((dispatcher passcode out hass).advance_encoded py task) suspended, fun place hplace => ?_⟩
  obtain ⟨task, -, hend⟩ := Traced.bind_result_ok hplace
  exact ⟨task, (Except.ok.inj hend).symm⟩

lemma take_orderly (h : c.Orderly pb passcode) (m : Message) (hass : Hass) :
    (c.turn pb py passcode out (.take m hass)).1.Orderly pb passcode := by
  obtain ⟨phase, pinging, link, pushes, effects, log⟩ := c
  cases phase with
  | handling task | leaving | closed => exact h
  | reading => exact readerLoop_orderly h hass
  | hello =>
    obtain ⟨hlog, rfl, rfl⟩ := h
    have hnext := @handshake_orderly pb passcode out m log .init [] effects pinging hlog
    change Orderly pb passcode (if _ then _ else _)
    split
    · rename_i hok
      obtain ⟨place, hplace⟩ : ∃ place, (handshake pb out m).result = .ok place := by
        cases hr : (handshake pb out m).result with
        | ok place => exact ⟨place, rfl⟩
        | error e =>
          rw [hr] at hok
          cases hok
      have hreading : place = .reading := by
        rw [handshake] at hplace
        split at hplace
        · cases hplace
        · obtain ⟨-, -, hrest⟩ := Traced.bind_result_ok hplace
          obtain ⟨-, -, hend⟩ := Traced.bind_result_ok hrest
          exact (Except.ok.inj hend).symm
      rw [conclude_ok hplace, hreading] at hnext ⊢
      exact hnext
    · exact hnext

lemma push_orderly (h : c.Orderly pb passcode) (i : ℕ) (hass : Hass) :
    (c.turn pb py passcode out (.push i hass)).1.Orderly pb passcode := by
  obtain ⟨phase, pinging, link, pushes, effects, log⟩ := c
  rw [turn]
  dsimp only
  cases hpush : pushes[i]? with
  | none => exact h
  | some obj =>
    obtain ⟨hdeeds, -⟩ := @advance_deeds py passcode out hass (.push obj)
    cases phase with
    | hello =>
      obtain ⟨-, -, rfl⟩ := h
      cases hpush
    | reading | handling task => exact note_packets rfl h (.inl rfl) hdeeds
    | leaving =>
      rcases h with h | h
      · exact .inl (note_packets rfl h (.inl rfl) hdeeds)
      · exact .inr (note_packets rfl h (.inr rfl) hdeeds)
    | closed =>
      obtain ⟨stage, h⟩ := h
      refine ⟨stage, ?_⟩
      simpa [note, attempts, isClosed] using h

lemma ping_orderly (h : c.Orderly pb passcode) : (c.turn pb py passcode out .ping).1.Orderly pb passcode := by
  have hlog {c : Conversation} (hopen : c.isClosed = false) (hup : Dialogue pb passcode c.log .up) :
      Dialogue pb passcode (note out c [.message (msgPingRequest, [])]).log .up := by
    rw [note_log hopen]
    exact hup.ping (record_tried out _)
  obtain ⟨phase, pinging, link, pushes, effects, log⟩ := c
  cases phase with
  | hello | leaving | closed => exact h
  | reading | handling task =>
    cases pinging with
    | true => exact hlog rfl h
    | false => exact h

lemma turn_orderly (h : c.Orderly pb passcode) (t : Turn) : (c.turn pb py passcode out t).1.Orderly pb passcode := by
  cases t with
  | take m hass => exact take_orderly h m hass
  | push i hass => exact push_orderly h i hass
  | ping => exact ping_orderly h
  | fail => exact failed_orderly h
  | resume hass =>
    obtain ⟨phase, pinging, link, pushes, effects, log⟩ := c
    cases phase with
    | hello | reading | leaving | closed => exact h
    | handling task =>
      obtain ⟨hdeeds, hplace⟩ := @advance_deeds py passcode out hass task
      exact conclude_packets (.inr ⟨task, rfl⟩) h hdeeds hplace
  | stateChanged hass newState =>
    obtain ⟨phase, pinging, link, pushes, effects, log⟩ := c
    cases phase with
    | hello =>
      obtain ⟨hlog, rfl, rfl⟩ := h
      exact ⟨hlog, rfl, rfl⟩
    | reading | handling task | leaving | closed => exact h
  | leave =>
    obtain ⟨phase, pinging, link, pushes, effects, log⟩ := c
    cases phase with
    | leaving => exact h.elim (fun h => ⟨_, h⟩) fun h => ⟨_, h⟩
    | hello | reading | handling task | closed => exact h

lemma run_orderly (h : c.Orderly pb passcode) (turns : List (Out × Turn)) :
    (c.run pb py passcode turns).Orderly pb passcode := by
  induction turns generalizing c with
  | nil => exact h
  | cons t turns ih => exact ih (turn_orderly h t.2)

end

end Conversation

end HaBluetooth.Esphome
