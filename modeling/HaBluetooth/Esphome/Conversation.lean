import HaBluetooth.Dispatcher.Tasks
import HaBluetooth.Esphome.Frames

/-! One connection of the bridge, message by message: what it does with each message that it takes, and
what it sends by itself. How messages travel, and which sends raise, is left open. -/

namespace HaBluetooth.Esphome

open Python Support Dispatcher

abbrev Message := ℕ × Bytes

def msgHelloRequest : ℕ := 1
def msgHelloResponse : ℕ := 2
def msgDisconnectRequest : ℕ := 5
def msgDisconnectResponse : ℕ := 6
def msgPingRequest : ℕ := 7
def msgPingResponse : ℕ := 8
def bleServerSubscribeRequestId : ℕ := 149
def bleServerFrameResponseId : ℕ := 150

/-- What the bridge uses of the generated protobuf classes. -/
structure Protobuf where
  -- the serialised HelloRequest
  helloRequest : Bytes
  parseHelloResponse : Bytes → Result Unit
  -- the `data` field of a BleServerFrameResponse
  parseFrameResponse : Bytes → Result Bytes

inductive Entry
  | took (m : Message)
  | sent (m : Message)
  -- the send raised
  | lost (m : Message)
  deriving DecidableEq, Repr

namespace Entry

def heard : Entry → Option Message
  | .took m => some m
  | .sent _ | .lost _ => none

def said : Entry → Option Message
  | .sent m => some m
  | .took _ | .lost _ => none

def tried : Entry → Option Message
  | .sent m | .lost m => some m
  | .took _ => none

end Entry

/-- What a stretch of the program does: a call of `_send_message`, or something the dispatcher does. -/
inductive Deed
  | message (m : Message)
  | effect (e : Effect)

def sendFrameRequest (data : Bytes) : Message := (bleServerSendFrameRequestId, serializeSendFrame data)

namespace Deed

/-- `_send_raw` calls `_send_message`. -/
def message? : Deed → Option Message
  | .message m => some m
  | .effect (.raw data) => some (sendFrameRequest data)
  | .effect (.packet _ _) | .effect (.service _ _ _) => none

def effect? : Deed → Option Effect
  | .effect e => some e
  | .message _ => none

end Deed

abbrev Out := Message → Result Unit

def record (out : Out) (m : Message) : Entry := if (out m).isOk then .sent m else .lost m

inductive Place
  -- in `_handshake`, until the HelloResponse has come
  | hello
  | reading
  -- in `_handle_incoming_packet`
  | handling (task : Task)
  -- in the inner `finally`, until the ping task has ended
  | leaving
  | closed

structure Conversation where
  phase : Place
  -- whether the ping loop has not failed yet
  pinging : Bool
  link : ClientLink
  pushes : List Value
  effects : List Effect
  log : List Entry

/-- `fail` is a timeout, a read that raises, or the cancellation of the reader. -/
inductive Turn
  | take (m : Message) (hass : Hass)
  | resume (hass : Hass)
  | push (i : ℕ) (hass : Hass)
  | ping
  | stateChanged (hass : Hass) (newState : Option State)
  | fail
  | leave

namespace Conversation

def heard (c : Conversation) : List Message := c.log.filterMap Entry.heard

def said (c : Conversation) : List Message := c.log.filterMap Entry.said

def isClosed (c : Conversation) : Bool :=
  match c.phase with
  | .closed => true
  | .hello | .reading | .handling _ | .leaving => false

/-- Once the connection is closed there is no writer any more. -/
def attempts (c : Conversation) (deeds : List Deed) : List Message :=
  if c.isClosed then [] else deeds.filterMap Deed.message?

def note (out : Out) (c : Conversation) (deeds : List Deed) : Conversation :=
  { c with
    effects := c.effects ++ deeds.filterMap Deed.effect?
    log := c.log ++ (c.attempts deeds).map (record out) }

def failed (c : Conversation) : Conversation :=
  match c.phase with
  | .hello => { c with phase := .closed, link := c.link.onBleClientDisconnected }
  | .reading | .handling _ => { c with phase := .leaving }
  | .leaving | .closed => c

def conclude (out : Out) (c : Conversation) (r : Traced PyError Deed Place) : Conversation :=
  let c := c.note out r.events
  match r.result with
  | .ok phase => { c with phase := phase }
  | .error _ => c.failed

def sendMessage (out : Out) (m : Message) : Traced PyError Deed Unit := do
  .emit (.message m)
  .lift (out m)

def suspended : Option Task → Place
  | none => .reading
  | some task => .handling task

variable (pb : Protobuf) (py : Library) (passcode : UInt32)

/-- `_handshake` from its answer on, and the subscription to frames. -/
def handshake (out : Out) (m : Message) : Traced PyError Deed Place :=
  if m.1 ≠ msgHelloResponse then .lift (.error ⟨.runtimeError, s!"Expected HelloResponse, got msg_type={m.1}"⟩)
  else do
    .lift (pb.parseHelloResponse m.2)
    sendMessage out (bleServerSubscribeRequestId, [])
    return .reading

def dispatcher (out : Out) (hass : Hass) : PacketDispatcher :=
  ⟨hass, passcode, fun data => out (sendFrameRequest data)⟩

/-- The body of `_reader_loop`. -/
def readerLoop (out : Out) (hass : Hass) (m : Message) : Traced PyError Deed Place :=
  if m.1 = bleServerFrameResponseId then do
    let data ← .lift (pb.parseFrameResponse m.2)
    let task ← ((dispatcher passcode out hass).acknowledge py data).mapEvents .effect
    return suspended task
  else if m.1 = msgPingRequest then do
    sendMessage out (msgPingResponse, [])
    return .reading
  else if m.1 = msgPingResponse then pure .reading
  else if m.1 = msgDisconnectRequest then do
    sendMessage out (msgDisconnectResponse, [])
    return .leaving
  else pure .reading

def advance (out : Out) (hass : Hass) (task : Task) : Traced PyError Deed Place := do
  let task ← ((dispatcher passcode out hass).advance py task).mapEvents .effect
  return suspended task

def turn (out : Out) (c : Conversation) : Turn → Conversation × List Message
  | .take m hass =>
    let taken : Conversation := { c with log := c.log ++ [.took m] }
    match c.phase with
    | .hello =>
      let r := handshake pb out m
      let c' := taken.conclude out r
      (if r.result.isOk then { c' with link := c'.link.onBleClientConnected, pinging := true } else c',
        c.attempts r.events)
    | .reading =>
      let r := readerLoop pb py passcode out hass m
      (taken.conclude out r, c.attempts r.events)
    | .handling _ | .leaving | .closed => (c, [])
  | .resume hass =>
    match c.phase with
    | .handling task =>
      let r := advance py passcode out hass task
      (c.conclude out r, c.attempts r.events)
    | .hello | .reading | .leaving | .closed => (c, [])
  | .push i hass =>
    match c.pushes[i]? with
    | none => (c, [])
    | some obj =>
      -- what a push raises stays in its task
      let r := advance py passcode out hass (.push obj)
      ({ c with pushes := c.pushes.eraseIdx i }.note out r.events, c.attempts r.events)
  | .ping =>
    match c.phase, c.pinging with
    | .reading, true | .handling _, true =>
      ({ c with pinging := (out (msgPingRequest, [])).isOk }.note out [.message (msgPingRequest, [])],
        [(msgPingRequest, [])])
    | _, _ => (c, [])
  | .stateChanged hass newState => ({ c with pushes := c.pushes ++ c.link.stateChanged hass newState }, [])
  | .fail => (c.failed, [])
  | .leave =>
    match c.phase with
    | .leaving => ({ c with phase := .closed, link := c.link.onBleClientDisconnected }, [])
    | .hello | .reading | .handling _ | .closed => (c, [])

def run (c : Conversation) (turns : List (Out × Turn)) : Conversation :=
  turns.foldl (fun c t => (c.turn pb py passcode t.1 t.2).1) c

def opened (out : Out) (link : ClientLink) : Conversation :=
  let c : Conversation := ⟨.hello, false, link, [], [], []⟩
  let c' := c.note out [.message (msgHelloRequest, pb.helloRequest)]
  if (out (msgHelloRequest, pb.helloRequest)).isOk then c' else c'.failed

end Conversation

end HaBluetooth.Esphome
