import HaBluetooth.Dispatcher.Answering
import HaBluetooth.Dispatcher.ExposurePaths
import HaBluetooth.Native.ClientView
import HaBluetooth.Protocol.JsonMessages

/-! A query from the client's chunks to the value that it reads in the answer. -/

namespace HaBluetooth.Native

open Python Protocol Support Dispatcher Gatt

section Sending

variable {gatt : GattServer} {datas : List Bytes}

lemma sendFrame_fit (hc : gatt.connected = true) (hv : gatt.server = true) {data : Bytes} {more : ℕ}
    (h : gatt.txQueue.items.length + (chunkCount data + more) ≤ 256) :
    ∃ queue, gatt.sendFrame data = ({ gatt with txQueue := queue }, true) ∧
      queue.items = gatt.txQueue.items ++ (encodeChunks data).map some ∧ queue.items.length + more ≤ 256 := by
  have hok : (gatt.sendFrame data).2 = true := (gatt.sendFrame_accepts data hc hv).mpr (by omega)
  have hitems := (gatt.sendFrame_accepted data hok).2
  have hlen := congrArg List.length hitems
  rw [List.length_append, List.length_map, length_encodeChunks] at hlen
  refine ⟨(gatt.sendFrame data).1.txQueue, Prod.ext ?_ hok, hitems, by omega⟩
  rw [gatt.sendFrame_online data hc hv]

lemma sendFrames_fit (hc : gatt.connected = true) (hv : gatt.server = true)
    (h : gatt.txQueue.items.length + (datas.map chunkCount).sum ≤ 256) :
    NativeBleServer.Fits gatt datas ∧ ∃ queue, NativeBleServer.sendFrames gatt datas = { gatt with txQueue := queue } ∧
      queue.items = gatt.txQueue.items ++ (datas.flatMap encodeChunks).map some := by
  induction datas generalizing gatt with
  | nil => exact ⟨trivial, gatt.txQueue, rfl, (List.append_nil _).symm⟩
  | cons data datas ih =>
    rw [List.map_cons, List.sum_cons] at h
    obtain ⟨queue, hsend, hitems, hlen⟩ := sendFrame_fit hc hv h
    have hnext : (gatt.sendFrame data).1 = { gatt with txQueue := queue } := congrArg Prod.fst hsend
    obtain ⟨hfits, queue', hqueue, hall⟩ := @ih { gatt with txQueue := queue } hc hv hlen
    refine ⟨⟨fun hover => ?_, ?_⟩, queue', ?_, ?_⟩
    · have hlate := hover.2.2.2
      omega
    · change NativeBleServer.Fits (gatt.sendFrame data).1 datas
      rw [hnext]
      exact hfits
    · rw [← hqueue, ← hnext]
      rfl
    · rw [hall, hitems, List.flatMap_cons, List.map_append, List.append_assoc]

lemma run_accepts {d : Delivery} (hc : d.tx.gatt.connected = true) (hv : d.tx.gatt.server = true)
    (h : d.tx.gatt.txQueue.items.length + (datas.map chunkCount).sum ≤ 256) :
    (d.run (datas.map .send)).current.accepted = d.current.accepted ++ datas := by
  induction datas generalizing d with
  | nil => exact (List.append_nil _).symm
  | cons data datas ih =>
    rw [List.map_cons, List.sum_cons] at h
    obtain ⟨queue, hsend, -, hlen⟩ := sendFrame_fit hc hv h
    have hstep : d.step (.send data) = _ := Delivery.step_same rfl
    have htx : (d.step (.send data)).tx.gatt = { d.tx.gatt with txQueue := queue } := by
      rw [hstep]
      exact congrArg Prod.fst hsend
    have haccepted : (d.step (.send data)).current.accepted = d.current.accepted ++ [data] := by
      rw [hstep, TxEvent.acceptedFrames, hsend]
      rfl
    refine (@ih (d.step (.send data)) (by rw [htx]; exact hc)
      (by rw [htx]; exact hv) (by rw [htx]; exact hlen)).trans ?_
    rw [haccepted, List.append_assoc]
    rfl

end Sending

/-- Nothing is under way: no job, no partial frame and no chunk is waiting. -/
structure NativeBleServer.Idle (s : NativeBleServer) : Prop where
  server : s.gatt.server = true
  running : s.gatt.running = true
  loop : s.gatt.loop = some []
  rxBuf : s.gatt.rxBuf = []
  txQueue : s.gatt.txQueue.items = []
  worker : s.worker = .getting
  ready : s.ready = []

namespace NativeBleServer

variable {s : NativeBleServer}

def taken (s : NativeBleServer) (frame : Bytes) : NativeBleServer :=
  let session := if s.gatt.connected then s.session else s.session + 1
  { s with
    gatt := { s.gatt with connected := true, rxBuf := [] }
    session := session
    authenticated := s.gatt.connected && s.authenticated
    ready := s.ready ++ (if s.gatt.connected then [] else [.callback .onConnect session]) ++
      [.callback (.onFrame frame) session] }

lemma handleWrite_final (hl : s.gatt.loop = some []) (payload : Bytes) :
    s.handleWrite (bleChunkFinal :: payload) = s.taken (s.gatt.rxBuf ++ payload) := by
  obtain ⟨⟨server, running, connected, rxBuf, queue, loop, called⟩, worker, link, ready, calls, effects, session,
    authenticated, handed⟩ := s
  obtain rfl : loop = some [] := hl
  cases connected
  · simp [handleWrite, GattServer.handleWrite, GattServer.callSoon, scheduling, taken]
  · simp [handleWrite, GattServer.handleWrite, GattServer.callSoon, scheduling, taken]

lemma handleWrite_more (hl : s.gatt.loop = some []) (payload : Bytes) :
    s.handleWrite (bleChunkContinues :: payload) =
      { s with gatt := { s.gatt with rxBuf := s.gatt.rxBuf ++ payload } } := by
  obtain ⟨⟨server, running, connected, rxBuf, queue, loop, called⟩, worker, link, ready, calls, effects, session,
    authenticated, handed⟩ := s
  obtain rfl : loop = some [] := hl
  have hflag : bleChunkContinues ≠ bleChunkFinal := by decide
  cases connected
  · simp [handleWrite, GattServer.handleWrite, hflag, scheduling]
  · simp [handleWrite, GattServer.handleWrite, hflag, scheduling]

variable (py : Library) (passcode : UInt32)

lemma run_encodeFrom (size : ℕ) [NeZero size] (data : Bytes) {offset : ℕ} (h : offset < data.length) :
    ∀ s : NativeBleServer, s.gatt.loop = some [] →
      s.run py passcode ((encodeFrom size data offset).map .write) = s.taken (s.gatt.rxBuf ++ data.drop offset) := by
  induction offset using encodeFrom.induct size data with
  | case1 offset _ stop ih =>
    have hsize := NeZero.pos size
    intro s hl
    rw [encodeFrom, if_pos h, List.map_cons]
    change (s.handleWrite _).run py passcode _ = _
    by_cases hstop : stop = data.length
    · have hall : (data.take stop).drop offset = data.drop offset := by rw [hstop, List.take_length]
      rw [if_pos hstop, encodeFrom_done hstop.ge, hall, handleWrite_final hl]
      rfl
    · have hle : offset ≤ stop := by omega
      rw [if_neg hstop, handleWrite_more hl]
      let buffered : NativeBleServer :=
        { s with gatt := { s.gatt with rxBuf := s.gatt.rxBuf ++ (data.take stop).drop offset } }
      refine (ih (by omega) buffered hl).trans ?_
      have hbuf : buffered.gatt.rxBuf ++ data.drop stop = s.gatt.rxBuf ++ data.drop offset := by
        rw [← slice_append data hle, ← List.append_assoc]
      rw [hbuf]
      rfl
  | case2 offset hn => exact (hn h).elim

lemma run_split (e : Encoder) {raw : Bytes} (hraw : raw ≠ []) (hi : s.Idle) :
    s.run py passcode ((e.split raw).map .write) = s.taken raw := by
  have hlen := List.length_pos_iff.mpr hraw
  have hbuf : s.gatt.rxBuf ++ raw.drop 0 = raw := by rw [hi.rxBuf]; rfl
  cases e with
  | encodeBleChunks => exact (run_encodeFrom py passcode bleMaxPayload raw hlen s hi.loop).trans (congrArg _ hbuf)
  | encodeChunks => exact (run_encodeFrom py passcode chunkSize raw hlen s hi.loop).trans (congrArg _ hbuf)

end NativeBleServer

namespace Watched

variable {py : Library} {passcode : UInt32} {w : Watched}

lemma writes_current (values : List Bytes) : ∀ w : Watched, w.Tracks passcode →
    (w.run py passcode (values.map .write)).server.gatt.connected = true →
      (w.run py passcode (values.map .write)).delivery.current =
        if w.server.gatt.connected then w.delivery.current else ⟨[], []⟩ := by
  induction values with
  | nil =>
    intro w _ hc
    exact (if_pos hc).symm
  | cons value values ih =>
    intro w h hc
    refine (ih (w.step py passcode (.write value)) (write_tracks h value) hc).trans ?_
    obtain ⟨cs, cs', -, hgatt⟩ := h.gatt.exists
    obtain ⟨connected, rxBuf, loop, hw, hconn⟩ := w.server.gatt.handleWrite_frame value
    obtain ⟨cs₁, cs₂, -, hgatt'⟩ := (h.gatt.handleWrite value).exists
    have hnext : (w.step py passcode (.write value)).server.gatt.connected = connected := by
      change (w.server.handleWrite value).gatt.connected = connected
      rw [NativeBleServer.handleWrite, hw]
      split <;> rfl
    rw [hnext]
    change (if connected then (w.delivery.step (.write value)).current else _) = _
    have hflags : (!w.delivery.tx.gatt.connected && (w.delivery.tx.gatt.handleWrite value).connected) =
        (!w.server.gatt.connected && connected) := by
      rw [hgatt', hgatt, hw]
    rcases w.delivery.write_step value with ⟨-, hold, hstep⟩ | ⟨-, hnew, hstep⟩
    · rw [hflags] at hold
      rw [hstep]
      cases hwas : w.server.gatt.connected with
      | true => rw [hconn hwas]
      | false =>
        rw [hwas] at hold
        rw [show connected = false from hold]
    · rw [hflags, Bool.and_eq_true, Bool.not_eq_true'] at hnew
      rw [hstep, hnew.1, hnew.2]
      rfl

lemma next_handle {server : NativeBleServer} {d : Delivery} {frame : Bytes} {n : ℕ}
    (hready : server.ready = [.handle frame n]) (hass : Hass) : ∃ authenticated,
      Watched.step py passcode ⟨server, d⟩ (.next hass) =
        ⟨{ server with authenticated := authenticated, ready := [] }.perform (some n)
            ((NativeBleServer.dispatcher passcode hass).startHandling py frame),
          d.run (((NativeBleServer.dispatcher passcode hass).startHandling py frame).sent.map .send)⟩ := by
  refine ⟨server.authenticated || decide (n = server.session ∧ CarriesPasscode passcode frame), ?_⟩
  rw [@next_cons py passcode ⟨server, d⟩ _ _ hready]
  rfl

lemma next_onFrame {server : NativeBleServer} {d : Delivery} {frame : Bytes} {n : ℕ}
    (hready : server.ready = [.callback (.onFrame frame) n]) (hass : Hass) :
    Watched.step py passcode ⟨server, d⟩ (.next hass) = ⟨{ server with ready := [.handle frame n] }, d⟩ := by
  rw [@next_cons py passcode ⟨server, d⟩ _ _ hready]
  rfl

lemma nexts_handle {server : NativeBleServer} {frame : Bytes} {d : Delivery}
    (hready : server.ready = []) (hass : Hass) :
    ∃ link authenticated session, Watched.run py passcode ⟨server.taken frame, d⟩ (List.replicate 3 (.next hass)) =
      ⟨{ server.taken frame with link := link, authenticated := authenticated, ready := [] }.perform (some session)
          ((NativeBleServer.dispatcher passcode hass).startHandling py frame),
        d.run (((NativeBleServer.dispatcher passcode hass).startHandling py frame).sent.map .send)⟩ := by
  change ∃ link authenticated session, Watched.step py passcode (Watched.step py passcode
    (Watched.step py passcode ⟨server.taken frame, d⟩ (.next hass)) (.next hass)) (.next hass) = _
  cases hconn : server.gatt.connected with
  | true =>
    have hfirst : (server.taken frame).ready = [.callback (.onFrame frame) server.session] := by
      simp [NativeBleServer.taken, hready, hconn]
    rw [next_onFrame hfirst]
    obtain ⟨authenticated, hstep⟩ := @next_handle py passcode
      { server.taken frame with ready := [.handle frame server.session] } d frame server.session rfl hass
    rw [hstep, next_empty rfl]
    exact ⟨_, authenticated, _, rfl⟩
  | false =>
    have hfirst : (server.taken frame).ready =
        [.callback .onConnect (server.session + 1), .callback (.onFrame frame) (server.session + 1)] := by
      simp [NativeBleServer.taken, hready, hconn]
    rw [@next_cons py passcode ⟨server.taken frame, d⟩ _ _ hfirst]
    let linked : NativeBleServer :=
      { server.taken frame with
        ready := [.callback (.onFrame frame) (server.session + 1)]
        link := (server.taken frame).link.onBleClientConnected }
    change ∃ link authenticated session, Watched.step py passcode (Watched.step py passcode ⟨linked, d⟩ (.next hass))
      (.next hass) = _
    rw [@next_onFrame py passcode linked d frame _ rfl]
    obtain ⟨authenticated, hstep⟩ :=
      @next_handle py passcode { linked with ready := [.handle frame (server.session + 1)] }
      d frame (server.session + 1) rfl hass
    rw [hstep]
    exact ⟨_, authenticated, _, rfl⟩

/-! ### The worker empties the queue -/

lemma tx_accepted (w : Watched) (u : Update) :
    (w.step py passcode (.tx u)).delivery.current.accepted = w.delivery.current.accepted := by
  change (w.delivery.step (.resume u)).current.accepted = _
  rw [Delivery.step_same rfl]
  exact List.append_nil _

lemma txs_accepted (m : ℕ) (u : Update) : ∀ w : Watched,
    (w.run py passcode (List.replicate m (.tx u))).delivery.current.accepted = w.delivery.current.accepted := by
  induction m with
  | zero => exact fun _ => rfl
  | succ m ih => exact fun w => (ih (w.step py passcode (.tx u))).trans (tx_accepted w u)

end Watched

namespace NativeBleServer

variable (py : Library) (passcode : UInt32) {s : NativeBleServer}

lemma tx_idle (hl : s.gatt.loop = some []) (hq : s.gatt.txQueue = .empty _ _) (hw : s.worker = .getting) (m : ℕ) :
    s.run py passcode (List.replicate m (.tx (.returned true))) = s := by
  obtain ⟨⟨server, running, connected, rxBuf, queue, loop, called⟩, worker, link, ready, calls, effects, session,
    authenticated, handed⟩ := s
  obtain rfl : loop = some [] := hl
  obtain rfl : queue = .empty _ _ := hq
  obtain rfl : worker = .getting := hw
  induction m with
  | zero => rfl
  | succ m ih =>
    refine Eq.trans ?_ ih
    simp [List.replicate_succ, run, step, GattServer.resume, BoundedQueue.get, BoundedQueue.empty, scheduling]

lemma tx_pop (hl : s.gatt.loop = some []) (hv : s.gatt.server = true) (hr : s.gatt.running = true)
    (hc : s.gatt.connected = true) (hw : s.worker = .getting) {chunk : Bytes} {chunks : List Bytes}
    (hq : s.gatt.txQueue.items = some chunk :: chunks.map some) :
    ∃ queue, queue.items = chunks.map some ∧ (s.step py passcode (.tx (.returned true))).step py passcode
      (.tx (.returned true)) = { s with gatt := { s.gatt with txQueue := queue } } := by
  obtain ⟨⟨server, running, connected, rxBuf, ⟨items, hb⟩, loop, called⟩, worker, link, ready, calls, effects, session,
    authenticated, handed⟩ := s
  obtain rfl : loop = some [] := hl
  obtain rfl : server = true := hv
  obtain rfl : running = true := hr
  obtain rfl : connected = true := hc
  obtain rfl : worker = .getting := hw
  obtain rfl : items = some chunk :: chunks.map some := hq
  refine ⟨⟨chunks.map some, by simp at hb ⊢; omega⟩, rfl, ?_⟩
  simp [step, GattServer.resume, GattServer.transmit, GattServer.nextRound, BoundedQueue.get, scheduling]

lemma tx_drains {chunks : List Bytes} {m : ℕ} (hm : 2 * chunks.length ≤ m) (hl : s.gatt.loop = some [])
    (hv : s.gatt.server = true) (hr : s.gatt.running = true) (hc : s.gatt.connected = true) (hw : s.worker = .getting)
    (hq : s.gatt.txQueue.items = chunks.map some) :
    s.run py passcode (List.replicate m (.tx (.returned true))) =
      { s with gatt := { s.gatt with txQueue := .empty _ _ } } := by
  induction chunks generalizing s m with
  | nil =>
    have hempty : s.gatt.txQueue = .empty _ _ := BoundedQueue.ext hq
    rw [tx_idle py passcode hl hempty hw, ← hempty]
  | cons chunk chunks ih =>
    rw [List.length_cons] at hm
    obtain ⟨k, rfl⟩ := Nat.exists_eq_add_of_le (show 2 ≤ m by omega)
    obtain ⟨queue, hitems, hsteps⟩ := tx_pop py passcode hl hv hr hc hw hq
    rw [List.replicate_add]
    change run py passcode ((s.step py passcode (.tx (.returned true))).step py passcode (.tx (.returned true))) _ = _
    rw [hsteps]
    exact @ih { s with gatt := { s.gatt with txQueue := queue } } k (by omega) hl hv hr hc hw hitems

end NativeBleServer

/-! ### The handler of a query -/

section Handler

variable (py : Library) {self : PacketDispatcher} {q : Query} {payload : Value}

lemma advance_query (hq : q.Asks payload) : self.advance py (.reply q.cmd payload) =
    self.sendPacket (self.hass.reply py q).1 (self.hass.reply py q).2 >>= fun _ => pure none := by
  cases q with
  | areas | dashboards => rfl
  | devices areaId =>
    have hget : payload.get "area_id" .null = .ok areaId := hq
    change ((.lift (payload.get "area_id" .null) >>= fun areaId => self.handleReqDevices areaId >>= fun _ => pure none :
      Run (Option Task))) = _
    rw [hget]
    rfl
  | state entityId =>
    have hget : payload.get "entity_id" (.str "") = .ok entityId := hq
    change ((.lift (payload.get "entity_id" (.str "")) >>= fun entityId =>
      self.handleReqState py entityId >>= fun _ => pure none : Run (Option Task))) = _
    rw [hget, ← self.handleReqState_eq]
    rfl

lemma sendPacket_encodes (hr : self.Reliable) {c : ℕ} {v : Value} {packet : Bytes}
    (h : encodePacketJson self.passcode.toNat c v = .ok packet) :
    self.sendPacket c v = ⟨[.packet c v, .raw packet], .ok ()⟩ := by
  simp only [PacketDispatcher.sendPacket, h, Traced.lift_ok_bind, Traced.emit_bind, Traced.lift_events,
    Traced.lift_result, hr packet]

lemma startHandling_query (hr : self.Reliable) {raw payloadBytes ack reply : Bytes}
    (hraw : decodePacket raw = some (self.passcode.toNat, q.cmd, payloadBytes))
    (hq : q.Asks (parsePayload py payloadBytes)) (hack : encodePacketJson self.passcode.toNat cmdAck .null = .ok ack)
    (hreply : encodePacketJson self.passcode.toNat (self.hass.reply py q).1 (self.hass.reply py q).2 = .ok reply) :
    (self.startHandling py raw).sent = [ack, reply] := by
  have hcmd : q.cmd ≠ cmdAck ∧ q.cmd ∈ [cmdReqAreas, cmdReqDevices, cmdReqDashboards, cmdReqState, cmdCallService] := by
    cases q <;> simp [Query.cmd, cmdAck, cmdReqAreas, cmdReqDevices, cmdReqDashboards, cmdReqState]
  have hacknowledge : self.acknowledge py raw =
      self.sendPacket cmdAck .null >>= fun _ => pure (some (.reply q.cmd (parsePayload py payloadBytes))) := by
    rw [PacketDispatcher.acknowledge, hraw]
    dsimp only
    rw [if_neg (not_not.mpr rfl), if_neg hcmd.1, if_pos hcmd.2]
  have hadvance : self.advance py (.reply q.cmd (parsePayload py payloadBytes)) =
      ⟨[.packet (self.hass.reply py q).1 (self.hass.reply py q).2, .raw reply], .ok none⟩ := by
    rw [advance_query py hq, sendPacket_encodes hr hreply]
    rfl
  have hrun : self.startHandling py raw = ⟨[.packet cmdAck .null, .raw ack,
      .packet (self.hass.reply py q).1 (self.hass.reply py q).2, .raw reply], .ok none⟩ := by
    simp only [PacketDispatcher.startHandling, hacknowledge, bind_assoc, pure_bind, hadvance,
      sendPacket_encodes hr hack]
    rfl
  rw [hrun]
  rfl

end Handler

/-! ### Queries one after another -/

/-- A query as the client splits it, the home that it finds, and how long the worker goes on afterwards. -/
structure Ask where
  encoder : Encoder
  raw : Bytes
  query : Query
  hass : Hass
  rounds : ℕ

namespace Ask

def inputs (a : Ask) : List Input :=
  (a.encoder.split a.raw).map .write ++ List.replicate 3 (.next a.hass) ++
    List.replicate a.rounds (.tx (.returned true))

variable (py : Library) (passcode : UInt32) (floatRepr : List Char → String)

/-- The reply fits in the queue behind the acknowledgement, in at most 255 chunks. -/
structure Answerable (a : Ask) : Prop where
  asks : ∃ payloadBytes, decodePacket a.raw = some (passcode.toNat, a.query.cmd, payloadBytes) ∧
    a.query.Asks (parsePayload py payloadBytes)
  readable : (a.hass.reply py a.query).2.Readable floatRepr
  size : jsonSize (a.hass.reply py a.query).2 ≤ 62206
  rounds : 512 ≤ a.rounds

def answers (a : Ask) : List (Option (ℕ × ℕ × Value)) :=
  [some (passcode.toNat, cmdAck, .null),
    some (passcode.toNat, (a.hass.reply py a.query).1, jsonValue (a.hass.reply py a.query).2)]

end Ask

lemma length_packet {p c : ℕ} {v : Value} (hv : v.Readable floatRepr) {packet : Bytes}
    (h : encodePacketJson p c v = .ok packet) : packet.length ≤ 14 + jsonSize v := by
  obtain ⟨payload, hpay, hp⟩ := bind_eq_ok.mp h
  obtain ⟨l, rfl, hslack, hfields, -⟩ := encodePacket_eq_ok.mp hp
  have hlen := l.bytes_length
  obtain rfl : l.payload = payload := (Prod.mk.inj (Prod.mk.inj hfields).2).2
  rw [hslack, List.length_nil] at hlen
  by_cases hn : v = .null
  · subst hn
    have hl := congrArg List.length (Except.ok.inj hpay)
    rw [List.length_nil] at hl
    omega
  · rw [jsonPayload_of_ne hn, dumps_readable hv] at hpay
    have hl := congrArg List.length (Except.ok.inj hpay)
    rw [length_text] at hl
    omega

namespace Watched

variable {py : Library} {passcode : UInt32} {floatRepr : List Char → String} {w : Watched} {a : Ask}

lemma run_append (w : Watched) (inputs inputs' : List Input) :
    w.run py passcode (inputs ++ inputs') = (w.run py passcode inputs).run py passcode inputs' := List.foldl_append

lemma admits_writes (values : List Bytes) (s : NativeBleServer) :
    Admits (NativeBleServer.step py passcode) (NativeBleServer.Undisturbed py passcode) s (values.map .write) := by
  induction values generalizing s with
  | nil => exact trivial
  | cons value values ih => exact ⟨trivial, ih _⟩

lemma admits_txs (m : ℕ) (s : NativeBleServer) : Admits (NativeBleServer.step py passcode)
    (NativeBleServer.Undisturbed py passcode) s (List.replicate m (.tx (.returned true))) := by
  induction m generalizing s with
  | zero => exact trivial
  | succ m ih => exact ⟨.inl rfl, ih _⟩

lemma handler_frames (ha : a.Answerable py passcode floatRepr) : ∃ ack reply : Bytes,
    ((NativeBleServer.dispatcher passcode a.hass).startHandling py a.raw).sent = [ack, reply] ∧
      [ack, reply].map (readMessage floatRepr) = a.answers py passcode ∧ ([ack, reply].map chunkCount).sum ≤ 256 := by
  obtain ⟨payloadBytes, hraw, hq⟩ := ha.asks
  have hnull : Value.Readable floatRepr .null := by
    rw [Value.Readable]
    trivial
  have hsize := ha.size
  obtain ⟨ack, -, hack, -, -⟩ := @encodePacketJson_ok passcode.toNat cmdAck .null passcode.toNat_lt (by decide) rfl
    (by decide)
  obtain ⟨reply, -, hreply, -, -⟩ := @encodePacketJson_ok passcode.toNat _ _ passcode.toNat_lt
    (a.hass.reply_cmd_lt py a.query) (serialisable_readable _ ha.readable) (by omega)
  have hsent := @startHandling_query py (NativeBleServer.dispatcher passcode a.hass) a.query (fun _ => rfl) _ _ _
    _ hraw hq hack hreply
  have hacklen := length_packet hnull hack
  have hreplylen := length_packet ha.readable hreply
  have hnullsize : jsonSize .null = 4 := rfl
  refine ⟨ack, reply, hsent, ?_, ?_⟩
  · simp only [List.map_cons, List.map_nil, readMessage_packet hnull hack, readMessage_packet ha.readable hreply]
    rfl
  · simp only [List.map_cons, List.map_nil, List.sum_cons, List.sum_nil, chunkCount]
    omega

lemma ask_written (h : w.Tracks passcode) (hi : w.server.Idle) (ha : a.Answerable py passcode floatRepr) :
    ∃ d : Delivery, w.run py passcode ((a.encoder.split a.raw).map .write) = ⟨w.server.taken a.raw, d⟩ ∧
      Tracks passcode ⟨w.server.taken a.raw, d⟩ ∧
        d.current = if w.server.gatt.connected then w.delivery.current else ⟨[], []⟩ := by
  have hne : a.raw ≠ [] := by
    obtain ⟨payloadBytes, hraw, -⟩ := ha.asks
    intro hnil
    rw [hnil] at hraw
    cases hraw
  have hserver := @run_server py passcode w ((a.encoder.split a.raw).map .write)
  rw [w.server.run_split py passcode a.encoder hne hi] at hserver
  have htracks := run_tracks h (@admits_writes py passcode (a.encoder.split a.raw) w.server)
  refine ⟨(w.run py passcode ((a.encoder.split a.raw).map .write)).delivery, ?_, ?_, ?_⟩
  · rw [← hserver]
  · rw [← hserver]
    exact htracks
  · refine writes_current _ w h ?_
    rw [hserver]
    rfl

lemma taken_handled {server : NativeBleServer} {d : Delivery} (h : Tracks passcode ⟨server.taken a.raw, d⟩)
    (hi : server.Idle) (ha : a.Answerable py passcode floatRepr) : ∃ (w' : Watched) (queue : _) (frames : List Bytes),
      Watched.run py passcode ⟨server.taken a.raw, d⟩ (List.replicate 3 (.next a.hass)) = w' ∧ w'.Tracks passcode ∧
        w'.server.gatt = { (server.taken a.raw).gatt with txQueue := queue } ∧
        queue.items = (frames.flatMap encodeChunks).map some ∧ w'.server.worker = .getting ∧ w'.server.ready = [] ∧
        w'.delivery.current.accepted = d.current.accepted ++ frames ∧
        frames.map (readMessage floatRepr) = a.answers py passcode := by
  obtain ⟨ack, reply, hsent, hread, hcount⟩ := handler_frames ha
  obtain ⟨link, authenticated, session, hrun⟩ := @nexts_handle py passcode server a.raw d hi.ready a.hass
  have hroom : (server.taken a.raw).gatt.txQueue.items.length + ([ack, reply].map chunkCount).sum ≤ 256 := by
    change server.gatt.txQueue.items.length + _ ≤ _
    rw [hi.txQueue, List.length_nil, zero_add]
    exact hcount
  obtain ⟨hfits, queue, hqueue, hitems⟩ := @sendFrames_fit (server.taken a.raw).gatt [ack, reply] rfl hi.server hroom
  have hencoded := (NativeBleServer.dispatcher passcode a.hass).startHandling_encoded py a.raw _ List.prefix_rfl
  have hloaded : Tracks passcode
      ⟨{ server.taken a.raw with link := link, authenticated := authenticated, ready := [] }, d⟩ :=
    ⟨h.gatt, h.worker, h.session, h.refines, h.reached, h.length, h.past, h.current, h.encoded⟩
  have htracks := perform_tracks hloaded (some session) hencoded (hsent.symm ▸ hfits)
  refine ⟨_, queue, [ack, reply], hrun, htracks, ?_, ?_, hi.worker, rfl, ?_, hread⟩
  · change NativeBleServer.sendFrames (server.taken a.raw).gatt _ = _
    rw [hsent]
    exact hqueue
  · rw [hitems]
    change server.gatt.txQueue.items ++ _ = _
    rw [hi.txQueue, List.nil_append]
  · obtain ⟨cs, cs', -, hgatt⟩ := h.gatt.exists
    rw [hsent]
    refine run_accepts ?_ ?_ ?_
    · rw [hgatt]
      rfl
    · rw [hgatt]
      exact hi.server
    · rw [hgatt]
      exact hroom

lemma ask_answered (h : w.Tracks passcode) (hi : w.server.Idle) (ha : a.Answerable py passcode floatRepr) :
    (w.run py passcode a.inputs).Tracks passcode ∧ (w.run py passcode a.inputs).server.Idle ∧
      (w.run py passcode a.inputs).server.gatt.connected = true ∧ ∃ frames : List Bytes,
        (w.run py passcode a.inputs).delivery.current.accepted =
            (if w.server.gatt.connected then w.delivery.current.accepted else []) ++ frames ∧
          frames.map (readMessage floatRepr) = a.answers py passcode := by
  obtain ⟨d, hwritten, htaken, hcurrent⟩ := ask_written h hi ha
  obtain ⟨w', queue, frames, hhandled, htracks, hgatt, hitems, hworker, hready, haccepted, hread⟩ :=
    taken_handled htaken hi ha
  have hrun : w.run py passcode a.inputs = w'.run py passcode (List.replicate a.rounds (.tx (.returned true))) := by
    rw [Ask.inputs, run_append, run_append, hwritten, hhandled]
  have hserver := @run_server py passcode w' (List.replicate a.rounds (.tx (.returned true)))
  have hlen : 2 * (frames.flatMap encodeChunks).length ≤ a.rounds := by
    have hbound := queue.bounded
    rw [hitems, List.length_map] at hbound
    have hrounds := ha.rounds
    omega
  have hq : w'.server.gatt.txQueue.items = (frames.flatMap encodeChunks).map some := by
    rw [hgatt]
    exact hitems
  rw [w'.server.tx_drains py passcode hlen (by rw [hgatt]; exact hi.loop) (by rw [hgatt]; exact hi.server)
    (by rw [hgatt]; exact hi.running) (by rw [hgatt]; rfl) hworker hq] at hserver
  rw [hrun]
  refine ⟨run_tracks htracks (@admits_txs py passcode a.rounds w'.server), ?_, ?_, frames, ?_, hread⟩
  · rw [hserver]
    exact ⟨by rw [hgatt]; exact hi.server, by rw [hgatt]; exact hi.running, by rw [hgatt]; exact hi.loop,
      by rw [hgatt]; rfl, rfl, hworker, hready⟩
  · rw [hserver, hgatt]
    rfl
  · rw [txs_accepted, haccepted, hcurrent]
    split <;> rfl

lemma asks_answered {asks : List Ask} (ha : ∀ a ∈ asks, a.Answerable py passcode floatRepr) (h : w.Tracks passcode)
    (hi : w.server.Idle) (hc : w.server.gatt.connected = true) :
    (w.run py passcode (asks.flatMap Ask.inputs)).Tracks passcode ∧
      (w.run py passcode (asks.flatMap Ask.inputs)).server.Idle ∧
      (w.run py passcode (asks.flatMap Ask.inputs)).server.gatt.connected = true ∧ ∃ frames : List Bytes,
        (w.run py passcode (asks.flatMap Ask.inputs)).delivery.current.accepted =
          w.delivery.current.accepted ++ frames ∧
          frames.map (readMessage floatRepr) = asks.flatMap (Ask.answers py passcode) := by
  induction asks generalizing w with
  | nil => exact ⟨h, hi, hc, [], (List.append_nil _).symm, rfl⟩
  | cons a asks ih =>
    obtain ⟨hfirst, hasks⟩ := List.forall_mem_cons.mp ha
    obtain ⟨htracks, hidle, hconn, frames, haccepted, hread⟩ := ask_answered h hi hfirst
    obtain ⟨htracks', hidle', hconn', more, hmore, hreadmore⟩ := ih hasks htracks hidle hconn
    rw [List.flatMap_cons, run_append]
    refine ⟨htracks', hidle', hconn', frames ++ more, ?_, ?_⟩
    · rw [hmore, haccepted, if_pos hc, List.append_assoc]
    · rw [List.map_append, hread, hreadmore, List.flatMap_cons]

lemma idle_received (h : w.Tracks passcode) (hi : w.server.Idle) (hc : w.server.gatt.connected = true) :
    received w.delivery.current.chunks = w.delivery.current.accepted := by
  obtain ⟨cs, cs', -, hgatt⟩ := h.gatt.exists
  obtain ⟨queue, hqueue, hchunks⟩ := h.refines.online (by rw [hgatt]; exact hc)
  have hempty : queue = [] := by
    rw [hgatt] at hqueue
    exact List.map_eq_nil_iff.mp (hqueue.symm.trans hi.txQueue)
  rw [hempty, List.append_nil] at hchunks
  rw [received, hchunks]
  exact (TxState.split_frames h.refines.nonempty).1

def kitchen : Hass :=
  { PacketDispatcher.labelledLamp with areas := ⟨[⟨"kitchen", "Kitchen", none⟩], List.nodup_singleton _⟩ }

def askAreas : Ask := ⟨.encodeBleChunks, PacketDispatcher.askAreas, .areas, kitchen, 512⟩

def askDevices : Ask := ⟨.encodeChunks, PacketDispatcher.askDevices, .devices .null, kitchen, 512⟩

/-- One client leaves with its answer half sent. The next one is told of a change. -/
def changedHands : List Input :=
  [.write (bleChunkFinal :: PacketDispatcher.askAreas), .next kitchen, .next kitchen, .next kitchen,
    .tx (.returned true), .disconnect, .tx (.returned true), .next kitchen,
    .write (bleChunkFinal :: PacketDispatcher.askAreas), .next kitchen, .next kitchen, .next kitchen,
    .stateChanged kitchen (some ⟨"light.lamp", "light", "on", [], none⟩), .next kitchen] ++
    List.replicate 6 (.tx (.returned true))

lemma askAreas_answerable : askAreas.Answerable .ascii 1 String.ofList := by
  have hreply : (askAreas.hass.reply .ascii askAreas.query).2 =
      .list [AreaEntry.toDict ⟨"kitchen", "Kitchen", none⟩] := rfl
  refine ⟨⟨[], PacketDispatcher.decode_askAreas, trivial⟩, ?_, ?_, le_refl _⟩
  · rw [hreply]
    simp [AreaEntry.toDict, Value.ofOption, Value.Readable, ReadableItems, ReadableEntries, ReadableEntry]
  · rw [hreply]
    decide +kernel

lemma kitchen_devices :
    kitchen.deviceDicts .null = [State.deviceDict ⟨"light.lamp", "light", "on", [], none⟩ none ["BTDASH"]] := by
  have hstates : kitchen.states.items = [⟨"light.lamp", "light", "on", [], none⟩] := rfl
  have hentry : kitchen.listedEntry .null ⟨"light.lamp", "light", "on", [], none⟩ =
      some ⟨"light.lamp", none, some "d1", ∅⟩ := Option.filter_eq_some_iff.mpr ⟨rfl, by decide +kernel⟩
  have hlabels : kitchen.labelNames (kitchen.entityLabelIds ⟨"light.lamp", none, some "d1", ∅⟩) = ["BTDASH"] := by
    decide +kernel
  rw [Hass.deviceDicts_eq, hstates, List.filterMap_cons_some (by rw [hentry]; rfl), List.filterMap_nil,
    Hass.listedDict, hlabels]

lemma askDevices_answerable : askDevices.Answerable .ascii 1 String.ofList := by
  have hreply : (askDevices.hass.reply .ascii askDevices.query).2 =
      .list [State.deviceDict ⟨"light.lamp", "light", "on", [], none⟩ none ["BTDASH"]] :=
    congrArg Value.list kitchen_devices
  refine ⟨⟨[], by decide +kernel, rfl⟩, ?_, ?_, le_refl _⟩
  · rw [hreply]
    simp [State.deviceDict, State.name, State.slimAttrs, Value.ofOption, Value.Readable, ReadableItems, ReadableEntries,
      ReadableEntry]
  · rw [hreply]
    decide +kernel

end Watched

end HaBluetooth.Native
