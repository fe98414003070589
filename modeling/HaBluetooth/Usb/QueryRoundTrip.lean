import HaBluetooth.Dispatcher.Answering
import HaBluetooth.Protocol.JsonMessages
import HaBluetooth.Support.Refinement
import HaBluetooth.Usb.BrokenWriter

/-! Queries on the serial line, among boot logs and control messages, and what the ESP32 reads back. -/

namespace HaBluetooth.Usb

open Python Protocol Support Dispatcher

/-- What becomes of `_send_raw` while a bridge is up. -/
def usbSend (data : Bytes) : Result Unit := frameForUsb data >>= fun _ => .ok ()

lemma sendRaw_put {s : UsbServer} {queue : BoundedQueue (Option Bytes) 64} (hq : s.writeQueue = some queue)
    {data frame : Bytes} (hframe : frameForUsb data = .ok frame) :
    s.sendRaw data = .ok ((queue.put (some frame)).elim s fun queue' => { s with writeQueue := some queue' }) := by
  rw [UsbServer.sendRaw, hq, hframe]
  cases hput : queue.put (some frame) with
  | none =>
    simp only [bind, Except.bind, hput]
    rfl
  | some queue' =>
    simp only [bind, Except.bind, hput]
    rfl

lemma sendRaw_outcome {s : UsbServer} (h : s.writeQueue.isSome) (data : Bytes) :
    (s.sendRaw data >>= fun _ => .ok ()) = usbSend data := by
  obtain ⟨queue, hq⟩ := Option.isSome_iff_exists.mp h
  rw [usbSend]
  cases hframe : frameForUsb data with
  | error e =>
    rw [UsbServer.sendRaw, hq, hframe]
    rfl
  | ok frame =>
    rw [sendRaw_put hq hframe]
    rfl

def BridgeEffect.bytes : BridgeEffect → Option Bytes
  | .dispatcher e => e.bytes
  | .received _ | .clientConnected | .clientDisconnected | .notification _ => none

/-- A frame from the ESP32 behind some garbage, with the home that it finds. Without a query it is a control message. -/
structure Incoming where
  garbage : Bytes
  raw : Bytes
  query : Option Query
  hass : Hass
  notify : Value → Result Unit

namespace Incoming

def surroundings (a : Incoming) : Surroundings := ⟨a.hass, usbSend, a.notify⟩

def bytes (a : Incoming) : Bytes := a.garbage ++ (BigEndian.toBytes 4 a.raw.length ++ a.raw)

variable (py : Library) (passcode : UInt32) (floatRepr : List Char → String)

def Understood (a : Incoming) : Prop :=
  match a.query with
  | none => a.raw.take 1 = [0x7B] ∧ (handleControl py a.surroundings a.raw).Completes
  | some q => (∃ payloadBytes, decodePacket a.raw = some (passcode.toNat, q.cmd, payloadBytes) ∧
      q.Asks (parsePayload py payloadBytes)) ∧
    (a.hass.reply py q).2.Readable floatRepr ∧ jsonSize (a.hass.reply py q).2 ≤ 65535

/-- No four bytes that begin in the garbage can be a length. -/
structure Clear (a : Incoming) : Prop where
  nonempty : 0 < a.raw.length
  size : a.raw.length ≤ usbMaxFrame
  garbage : a.garbage.length ≤ usbMaxResyncBytes
  implausible : ∀ i < a.garbage.length, ¬ Plausible (window a.bytes i)

def answers (a : Incoming) : List (Option (ℕ × ℕ × Value)) :=
  match a.query with
  | none => []
  | some q => [some (passcode.toNat, cmdAck, .null),
      some (passcode.toNat, (a.hass.reply py q).1, jsonValue (a.hass.reply py q).2)]

end Incoming

/-! ### One frame -/

lemma length_encoded {p c : ℕ} {v : Value} {packet : Bytes} (h : encodePacketJson p c v = .ok packet) :
    0 < packet.length ∧ packet.length ≤ usbMaxFrame := by
  obtain ⟨payload, -, hp⟩ := bind_eq_ok.mp h
  obtain ⟨l, rfl, hslack, -, -⟩ := encodePacket_eq_ok.mp hp
  have hlen := l.bytes_length
  have hpayload := BigEndian.value_lt l.payloadLen
  rw [l.payloadLen_length, ← l.payload_length] at hpayload
  rw [hslack, List.length_nil] at hlen
  rw [usbMaxFrame]
  omega

lemma usbSend_ok {data : Bytes} (h : data.length ≤ usbMaxFrame) : usbSend data = .ok () := by
  rw [usbMaxFrame] at h
  rw [usbSend, frameForUsb_ok (by omega)]
  rfl

variable {py : Library} {passcode : UInt32} {floatRepr : List Char → String} {a : Incoming}

lemma Incoming.Clear.read (h : a.Clear) (rest : Bytes) : rfcommReadFrame (a.bytes ++ rest) = .ok a.raw rest := by
  have hlt : a.raw.length < 256 ^ 4 := lt_of_le_of_lt h.size (by norm_num [usbMaxFrame])
  exact reads_of_implausible h.nonempty h.size (frameForUsb_ok hlt) h.garbage rest h.implausible

lemma handleMessage_sends (env : Surroundings) (msg msgType : Value) :
    (handleMessage py env msg msgType).observed BridgeEffect.bytes = [] := by
  rw [handleMessage.eq_def]
  split
  · exact Traced.observed_bind_nil rfl fun _ => rfl
  · rfl
  · rfl
  · exact Traced.observed_bind_nil rfl fun _ => Traced.observed_bind_nil rfl fun _ => rfl
  · exact Traced.observed_bind_nil rfl fun _ => rfl
  · rfl

lemma handleControl_sends (env : Surroundings) (raw : Bytes) :
    (handleControl py env raw).observed BridgeEffect.bytes = [] := by
  rw [handleControl]
  cases (decodeUtf8 raw).bind py.loads with
  | none => rfl
  | some msg => exact Traced.observed_bind_nil rfl fun _ => handleMessage_sends _ _ _

lemma decoded_not_control {raw : Bytes} {r : ℕ × ℕ × Bytes} (h : decodePacket raw = some r) : raw.take 1 ≠ [0x7B] := by
  obtain ⟨l, rfl, -⟩ := exists_layout h
  intro hbrace
  cases hbrace

lemma sendPacket_usb {self : PacketDispatcher} (hsend : self.sendRaw = usbSend) {c : ℕ} {v : Value} {packet : Bytes}
    (h : encodePacketJson self.passcode.toNat c v = .ok packet) :
    self.sendPacket c v = ⟨[.packet c v, .raw packet], .ok ()⟩ := by
  simp only [PacketDispatcher.sendPacket, h, Traced.lift_ok_bind, Traced.emit_bind, Traced.lift_events,
    Traced.lift_result, hsend, usbSend_ok (length_encoded h).2]

lemma handleFrame_answers (h : a.Understood py passcode floatRepr) : ∃ frames,
    (handleFrame py passcode a.surroundings a.raw).Completes ∧
      (handleFrame py passcode a.surroundings a.raw).observed BridgeEffect.bytes = frames ∧
      frames.map (readMessage floatRepr) = a.answers py passcode ∧
      ∀ frame ∈ frames, 0 < frame.length ∧ frame.length ≤ usbMaxFrame := by
  obtain ⟨garbage, raw, query, hass, notify⟩ := a
  cases query with
  | none =>
    obtain ⟨hbrace, hcompletes⟩ := h
    rw [handleFrame, if_pos hbrace]
    exact ⟨[], hcompletes, handleControl_sends _ _, rfl, by simp⟩
  | some q =>
    obtain ⟨⟨payloadBytes, hraw, hq⟩, hreadable, hsize⟩ := h
    have hnull : Value.Readable floatRepr .null := by
      rw [Value.Readable]
      trivial
    obtain ⟨ack, -, hack, -, -⟩ := @encodePacketJson_ok passcode.toNat cmdAck .null passcode.toNat_lt (by decide) rfl
      (by decide)
    obtain ⟨reply, -, hreply, -, -⟩ := @encodePacketJson_ok passcode.toNat _ _ passcode.toNat_lt
      (hass.reply_cmd_lt py q) (serialisable_readable _ hreadable) hsize
    have hrun : PacketDispatcher.handleIncomingPacket py ⟨hass, passcode, usbSend⟩ raw =
        ⟨[.packet cmdAck .null, .raw ack, .packet (hass.reply py q).1 (hass.reply py q).2, .raw reply], .ok ()⟩ := by
      rw [PacketDispatcher.handle_query py _ hraw hq, sendPacket_usb rfl hack, sendPacket_usb rfl hreply]
      rfl
    rw [handleFrame, if_neg (decoded_not_control hraw), Incoming.surroundings]
    dsimp only
    rw [hrun]
    refine ⟨[ack, reply], Traced.completes_ok _ _, rfl, ?_, ?_⟩
    · simp only [List.map_cons, List.map_nil, readMessage_packet hnull hack, readMessage_packet hreadable hreply]
      rfl
    · simpa using ⟨length_encoded hack, length_encoded hreply⟩

/-! ### The reader loop -/

lemma readerLoop_read {around : ℕ → Surroundings} {n : ℕ} {stream raw rest : Bytes}
    (h : rfcommReadFrame stream = .ok raw rest) :
    readerLoop py passcode around n stream = (.emit (.received raw) >>= fun _ =>
      handleFrame py passcode (around n) raw >>= fun _ => readerLoop py passcode around (n + 1) rest) := by
  rw [readerLoop]
  split
  · next e rest' he => cases h.symm.trans he
  · next raw' rest' he =>
    cases h.symm.trans he
    rfl

lemma readerLoop_ended {around : ℕ → Surroundings} {n : ℕ} {stream rest : Bytes} {e : PyError}
    (h : rfcommReadFrame stream = .error e rest) :
    readerLoop py passcode around n stream = .lift (.error e) := by
  rw [readerLoop]
  split
  · next e' rest' he =>
    cases h.symm.trans he
    rfl
  · next raw' rest' he => cases h.symm.trans he

lemma readerLoop_answers {asks : List Incoming} (ha : ∀ a ∈ asks, a.Clear ∧ a.Understood py passcode floatRepr)
    {rest left : Bytes} {e : PyError} (hrest : rfcommReadFrame rest = .error e left) (around : ℕ → Surroundings) (n : ℕ)
    (haround : ∀ i (h : i < asks.length), around (n + i) = asks[i].surroundings) : ∃ frames,
      (readerLoop py passcode around n (asks.flatMap Incoming.bytes ++ rest)).observed BridgeEffect.bytes = frames ∧
      frames.map (readMessage floatRepr) = asks.flatMap (Incoming.answers py passcode) ∧
      ∀ frame ∈ frames, 0 < frame.length ∧ frame.length ≤ usbMaxFrame := by
  induction asks generalizing n with
  | nil =>
    rw [List.flatMap_nil, List.nil_append, readerLoop_ended hrest]
    exact ⟨[], rfl, rfl, by simp⟩
  | cons a asks ih =>
    obtain ⟨⟨hclear, hunderstood⟩, hasks⟩ := List.forall_mem_cons.mp ha
    obtain ⟨frames, ⟨_, hcompletes⟩, hsent, hread, hsizes⟩ := handleFrame_answers hunderstood
    obtain ⟨more, hmore, hreadmore, hsizesmore⟩ := ih hasks (n + 1) fun i hi => by
      have hnext := haround (i + 1) (Nat.succ_lt_succ hi)
      rw [show n + 1 + i = n + (i + 1) by omega]
      exact hnext
    have hfirst : around n = a.surroundings := haround 0 (Nat.succ_pos _)
    rw [List.flatMap_cons, List.append_assoc, readerLoop_read (hclear.read _), hfirst]
    refine ⟨frames ++ more, ?_, ?_, List.forall_mem_append.mpr ⟨hsizes, hsizesmore⟩⟩
    · change (handleFrame py passcode a.surroundings a.raw >>= _).observed BridgeEffect.bytes = _
      rw [Traced.observed_bind_ok _ _ hcompletes, hsent, hmore]
    · rw [List.map_append, hread, hreadmore, List.flatMap_cons]

def serving (asks : List Incoming) (n : ℕ) : Surroundings :=
  ((asks[n]?).map Incoming.surroundings).getD ⟨.empty, usbSend, fun _ => .ok ()⟩

lemma serving_sendRaw (asks : List Incoming) (n : ℕ) : (serving asks n).sendRaw = usbSend := by
  rw [serving]
  cases asks[n]? <;> rfl

lemma serving_get (asks : List Incoming) (n : ℕ) (h : n < asks.length) : serving asks n = asks[n].surroundings := by
  rw [serving, List.getElem?_eq_getElem h]
  rfl

lemma bridge_answers {asks : List Incoming} (ha : ∀ a ∈ asks, a.Clear ∧ a.Understood py passcode floatRepr)
    {rest left : Bytes} {e : PyError} (hrest : rfcommReadFrame rest = .error e left) : ∃ frames,
      (bridge py passcode (serving asks) (asks.flatMap Incoming.bytes ++ rest)).observed BridgeEffect.bytes =
        restartAdv :: frames ∧
      frames.map (readMessage floatRepr) = asks.flatMap (Incoming.answers py passcode) ∧
      ∀ frame ∈ frames, 0 < frame.length ∧ frame.length ≤ usbMaxFrame := by
  obtain ⟨frames, hsent, hread, hsizes⟩ := readerLoop_answers ha hrest (serving asks) 0 fun i hi => by
    rw [zero_add, serving_get asks i hi]
  refine ⟨frames, ?_, hread, hsizes⟩
  have hrestart : usbSend restartAdv = .ok () := by decide
  let loop : Bridge Unit := readerLoop py passcode (serving asks) 0 (asks.flatMap Incoming.bytes ++ rest)
  have hloop : (Traced.handle loop fun _ => pure ()).observed BridgeEffect.bytes = frames := by
    cases hl : loop.result with
    | ok _ =>
      rw [Traced.handle_ok _ hl]
      exact hsent
    | error e =>
      rw [Traced.handle_error _ hl]
      simpa [Traced.observed] using hsent
  obtain ⟨_, hcompletes⟩ : (Traced.handle loop fun _ => pure ()).Completes := by
    cases hl : loop.result with
    | ok _ => exact ⟨(), by rw [Traced.handle_ok _ hl, hl]⟩
    | error e => exact ⟨(), by rw [Traced.handle_error _ hl]; rfl⟩
  rw [bridge, serving_sendRaw, hrestart]
  change restartAdv :: ((Traced.handle loop fun _ => pure ()) >>= fun _ => .emit .clientDisconnected).observed
    BridgeEffect.bytes = _
  rw [Traced.observed_bind_ok _ _ hcompletes, hloop]
  exact congrArg _ (List.append_nil _)

/-! ### Through the write queue -/

def WriteInput.sent : WriteInput → Option Bytes
  | .send data => some data
  | .work _ => none

/-- The worker's writes succeed, and it leaves a slot for everything that is sent. -/
def KeepsUp (s : WriteSession) : WriteInput → Prop
  | .send _ => s.server.queued.length < 64
  | .work write => write = .ok ()

namespace WriteSession

lemma send_accepted {s : WriteSession} (h : s.Open) {data : Bytes} (hd : data.length ≤ usbMaxFrame)
    (hroom : s.server.queued.length < 64) : (s.send data).accepted = s.accepted ++ [data] := by
  obtain ⟨queue, hq⟩ := Option.isSome_iff_exists.mp h.queue
  have hitems : s.server.queued = queue.items := by rw [UsbServer.queued, hq]; rfl
  have hlt : data.length < 256 ^ 4 := lt_of_le_of_lt hd (by norm_num [usbMaxFrame])
  rw [hitems] at hroom
  cases hput : queue.put (some (BigEndian.toBytes 4 data.length ++ data)) with
  | none => exact absurd (BoundedQueue.put_eq_none.mp hput) hroom.ne
  | some queue' =>
    have hsend : s.server.sendRaw data = .ok { s.server with writeQueue := some queue' } := by
      rw [sendRaw_put hq (frameForUsb_ok hlt), hput]
      rfl
    have hmore : s.server.queued.length < queue'.items.length := by
      rw [hitems, (BoundedQueue.put_eq_some.mp hput).2, List.length_append, List.length_singleton]
      omega
    rw [send, hsend]
    exact congrArg WriteSession.accepted (if_pos hmore)

lemma work_accepted {s : WriteSession} (h : s.Open) (write : Result Unit) : (s.work write).accepted = s.accepted := by
  rcases work_cases h write with ⟨hs, -⟩ | ⟨frame, queue, -, -, ⟨-, hs⟩ | ⟨-, hs⟩⟩
  · rw [hs]
  · rw [hs]
  · rw [hs]
    rfl

lemma run_accepts {inputs : List WriteInput} {s : WriteSession} (hc : s.Clean) (ho : s.Open)
    (hi : Admits step KeepsUp s inputs)
    (hs : ∀ data ∈ inputs.filterMap WriteInput.sent, 0 < data.length ∧ data.length ≤ usbMaxFrame) :
    (inputs.foldl step s).Clean ∧ (inputs.foldl step s).accepted = s.accepted ++ inputs.filterMap WriteInput.sent := by
  induction inputs generalizing s with
  | nil => exact ⟨hc, (List.append_nil _).symm⟩
  | cons i inputs ih =>
    cases i with
    | send data =>
      obtain ⟨hd, hrest⟩ := List.forall_mem_cons.mp hs
      obtain ⟨hclean, haccepted⟩ := ih (send_clean hc hd) (send_open ho data) hi.2 hrest
      refine ⟨hclean, haccepted.trans ?_⟩
      change (s.send data).accepted ++ _ = s.accepted ++ data :: _
      rw [send_accepted ho hd.2 hi.1, List.append_assoc]
      rfl
    | work write =>
      obtain rfl : write = .ok () := hi.1
      obtain ⟨hclean, haccepted⟩ := ih (work_clean hc) (work_open ho _) hi.2 hs
      refine ⟨hclean, haccepted.trans ?_⟩
      rw [work_accepted ho]
      rfl

lemma Clean.reads {s : WriteSession} (h : s.Clean) :
    readFrames s.accepted.length (s.written ++ s.outstanding) = .ok s.accepted [] := by
  obtain ⟨done, waiting, hframed, hwritten, hqueue⟩ := h.frames
  have hstream : s.written ++ s.outstanding = (done ++ waiting).flatten := by
    rw [outstanding, hwritten, hqueue, List.flatten_append]
    simp
  rw [hstream]
  exact readFrames_framed hframed h.sizes

end WriteSession

def bootLine : List Incoming :=
  [⟨encodeUtf8 "ok".toList, encodeUtf8 "\x7b\x7d".toList, none, .empty, fun _ => .ok ()⟩,
    ⟨[], PacketDispatcher.askAreas, some .areas, .empty, fun _ => .ok ()⟩]

end HaBluetooth.Usb
