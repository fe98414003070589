import HaBluetooth.Dispatcher.Answers
import HaBluetooth.Protocol.JsonPackets
import HaBluetooth.Support.Traced

/-! The packet dispatcher: from a received packet to the packets sent and the services called. -/

namespace HaBluetooth.Dispatcher

open Python Protocol Support

def cmdAck : ℕ := 0x01
def cmdNack : ℕ := 0x02
def cmdReqAreas : ℕ := 0x10
def cmdAnsAreas : ℕ := 0x11
def cmdReqDevices : ℕ := 0x12
def cmdAnsDevices : ℕ := 0x13
def cmdReqDashboards : ℕ := 0x14
def cmdAnsDashboards : ℕ := 0x15
def cmdReqState : ℕ := 0x20
def cmdAnsState : ℕ := 0x21
def cmdCallService : ℕ := 0x22
def cmdAnsCallService : ℕ := 0x23

/-- `packet` is a call of `_send_packet`, `raw` the call of `_send_raw` it leads to. -/
inductive Effect
  | packet (cmd : ℕ) (obj : Value)
  | raw (data : Bytes)
  | service (domain service data : Value)

abbrev Run := Traced PyError Effect

def Effect.bytes : Effect → Option Bytes
  | .raw data => some data
  | .packet _ _ | .service _ _ _ => none

def Run.sent {α : Type} (r : Run α) : List Bytes := r.observed Effect.bytes

structure PacketDispatcher where
  hass : Hass
  passcode : UInt32
  sendRaw : Bytes → Result Unit

def errorDict (text : String) : Value := .dict [("error", .str text)]

def failureDict (text : String) : Value := .dict [("success", .bool false), ("error", .str text)]

def hex2 (n : ℕ) : String := String.ofList [(Nat.digitChar (n / 16 % 16)).toUpper, (Nat.digitChar (n % 16)).toUpper]

def parsePayload (py : Library) (payloadBytes : Bytes) : Value :=
  if payloadBytes = [] then .dict [] else ((decodeUtf8 payloadBytes).bind py.loads).getD (.dict [])

def mergeEntityId (entityId data : Value) : Result Value :=
  if entityId.truthy then data.setItem "entity_id" entityId else .ok data

namespace PacketDispatcher

variable (py : Library) (self : PacketDispatcher)

def sendPacket (cmd : ℕ) (obj : Value) : Run Unit := do
  .emit (.packet cmd obj)
  let packet ← .lift (encodePacketJson self.passcode.toNat cmd obj)
  .emit (.raw packet)
  .lift (self.sendRaw packet)

def handleReqAreas : Run Unit :=
  self.sendPacket cmdAnsAreas (.list (self.hass.areas.items.map AreaEntry.toDict))

def handleReqDevices (areaId : Value) : Run Unit :=
  self.sendPacket cmdAnsDevices (.list (self.hass.deviceDicts areaId))

def handleReqDashboards : Run Unit :=
  self.sendPacket cmdAnsDashboards (.list ((self.hass.dashboards py).map Dashboard.toDict))

def handleReqState (entityId : Value) : Run Unit :=
  match self.hass.statesGet py entityId with
  | none => self.sendPacket cmdNack (errorDict s!"entity '{py.str entityId}' not found")
  | some state =>
    if !self.hass.isExposed entityId then
      self.sendPacket cmdNack (errorDict s!"entity '{py.str entityId}' not exposed")
    else self.sendPacket cmdAnsState state.toDict

def serviceFailed (e : PyError) : Run Unit :=
  if e.kind = .timeoutError then self.sendPacket cmdAnsCallService (failureDict "service call timeout")
  else self.sendPacket cmdAnsCallService (failureDict e.text)

def tryService (domain service data : Value) : Run Unit :=
  Traced.handle
    (do
      .emit (.service domain service data)
      .lift (self.hass.callService domain service data)
      self.sendPacket cmdAnsCallService (.dict [("success", .bool true)]))
    self.serviceFailed

def handleCallService (payload : Value) : Run Unit := do
  let domain ← .lift (payload.get "domain" (.str ""))
  let service ← .lift (payload.get "service" (.str ""))
  let entityId ← .lift (payload.get "entity_id" .null)
  let data ← .lift (payload.get "data" (.dict []))
  let data ← .lift (mergeEntityId entityId data)
  self.tryService domain service data

def dispatch (cmd : ℕ) (payloadBytes : Bytes) : Run Unit :=
  let payload := parsePayload py payloadBytes
  if cmd = cmdAck then pure ()
  else if cmd = cmdReqAreas then do
    self.sendPacket cmdAck .null
    self.handleReqAreas
  else if cmd = cmdReqDevices then do
    self.sendPacket cmdAck .null
    let areaId ← .lift (payload.get "area_id" .null)
    self.handleReqDevices areaId
  else if cmd = cmdReqDashboards then do
    self.sendPacket cmdAck .null
    self.handleReqDashboards py
  else if cmd = cmdReqState then do
    self.sendPacket cmdAck .null
    let entityId ← .lift (payload.get "entity_id" (.str ""))
    self.handleReqState py entityId
  else if cmd = cmdCallService then do
    self.sendPacket cmdAck .null
    self.handleCallService payload
  else self.sendPacket cmdNack (errorDict s!"unknown command 0x{hex2 cmd}")

def handleIncomingPacket (raw : Bytes) : Run Unit :=
  match decodePacket raw with
  | none => pure ()
  | some (passcode, cmd, payloadBytes) =>
    if passcode ≠ self.passcode.toNat then self.sendPacket cmdNack (errorDict "wrong passcode")
    else self.dispatch py cmd payloadBytes

/-! ### Sending one packet -/

def Reliable : Prop := ∀ data, self.sendRaw data = .ok ()

variable {c : ℕ} {v : Value}

lemma mem_sendPacket {c' : ℕ} {v' : Value} :
    Effect.packet c' v' ∈ (self.sendPacket c v).events ↔ c' = c ∧ v' = v := by
  cases h : encodePacketJson self.passcode.toNat c v <;> simp [sendPacket, h]

lemma sendPacket_ok (hr : self.Reliable) (hc : c < 256) (h : v.Serialisable) (hs : jsonSize v ≤ 65535) :
    ∃ packet payload, self.sendPacket c v = ⟨[.packet c v, .raw packet], .ok ()⟩ ∧
      jsonPayload v = .ok payload ∧ decodePacket packet = some (self.passcode.toNat, c, payload) := by
  obtain ⟨packet, payload, he, hp, hd⟩ := encodePacketJson_ok self.passcode.toNat_lt hc h hs
  refine ⟨packet, payload, ?_, hp, hd⟩
  simp only [sendPacket, he, Traced.lift_ok_bind, Traced.emit_bind, Traced.lift_events, Traced.lift_result, hr packet]

lemma sendPacket_error (h : v.Serialisable → 65535 < jsonSize v) :
    ∃ e, self.sendPacket c v = ⟨[.packet c v], .error e⟩ := by
  obtain ⟨e, he⟩ := encodePacketJson_error (p := self.passcode.toNat) (c := c) h
  refine ⟨e, ?_⟩
  simp only [sendPacket, he, Traced.lift_error_bind, Traced.emit_bind]

lemma sendPacket_completes (hr : self.Reliable) (hc : c < 256) :
    (self.sendPacket c v).Completes ↔ v.Serialisable ∧ jsonSize v ≤ 65535 := by
  constructor
  · intro ha
    by_contra hh
    obtain ⟨e, he⟩ := self.sendPacket_error (c := c) (v := v) fun hser => not_le.mp fun hs => hh ⟨hser, hs⟩
    rw [he] at ha
    exact Traced.not_completes_error _ _ ha
  · rintro ⟨h, hs⟩
    obtain ⟨packet, payload, he, -⟩ := self.sendPacket_ok hr hc h hs
    rw [he]
    exact Traced.completes_ok _ _

lemma sendPacket_ack (hr : self.Reliable) :
    ∃ packet, self.sendPacket cmdAck .null = ⟨[.packet cmdAck .null, .raw packet], .ok ()⟩ ∧
      decodePacket packet = some (self.passcode.toNat, cmdAck, []) := by
  obtain ⟨packet, payload, he, hp, hd⟩ := self.sendPacket_ok hr (c := cmdAck) (v := .null) (by decide) rfl (by decide)
  cases hp
  exact ⟨packet, he, hd⟩

lemma serviceFailed_eq (e : PyError) :
    ∃ text, self.serviceFailed e = self.sendPacket cmdAnsCallService (failureDict text) := by
  rw [serviceFailed]
  split
  · exact ⟨_, rfl⟩
  · exact ⟨_, rfl⟩

end PacketDispatcher

end HaBluetooth.Dispatcher
