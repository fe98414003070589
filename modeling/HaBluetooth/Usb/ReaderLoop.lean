import HaBluetooth.Dispatcher.ServiceCalls
import HaBluetooth.Protocol.RfcommReader
import HaBluetooth.Support.Matching

/-! One bridge session of `UsbSerialServer`: frames read from the line are control messages or packets
for the dispatcher. -/

namespace HaBluetooth.Usb

open Python Protocol Support Dispatcher

inductive BridgeEffect
  | received (raw : Bytes)
  | dispatcher (e : Effect)
  | clientConnected
  | clientDisconnected
  | notification (data : Value)

structure Surroundings where
  hass : Hass
  sendRaw : Bytes → Result Unit
  notify : Value → Result Unit

abbrev Bridge := Traced PyError BridgeEffect

def BridgeEffect.call : BridgeEffect → Option ServiceCall
  | .dispatcher e => e.call
  | .received _ | .clientConnected | .clientDisconnected | .notification _ => none

def BridgeEffect.frame : BridgeEffect → Option Bytes
  | .received raw => some raw
  | .dispatcher _ | .clientConnected | .clientDisconnected | .notification _ => none

section

variable (py : Library) (passcode : UInt32) (env : Surroundings)

def createNotification (id title message : String) : Bridge Unit := do
  let data := .dict [("notification_id", .str id), ("title", .str title), ("message", .str message)]
  .emit (.notification data)
  .lift (env.notify data)

def notifyOtaReady (ssid ip : Value) : Bridge Unit :=
  createNotification env "bluetooth_api_ota" "ESP32 OTA bereit"
    (s!"ESP32 hat Access Point **{py.str ssid}** erstellt.\n\n" ++
      "1. Verbinde deinen PC mit dem WLAN " ++ s!"**{py.str ssid}**\n" ++
      "2. Führe aus: `pio run -e esp32-s3-ota -t upload`\n\n" ++ s!"IP-Adresse: `{py.str ip}`")

def handleMessage (msg : Value) : Value → Bridge Unit
  | .str "log" => do
    let _ ← .lift (msg.get "msg" (.str ""))
    pure ()
  | .str "client_connected" => .emit .clientConnected
  | .str "client_disconnected" => .emit .clientDisconnected
  | .str "ota_ready" => do
    let ssid ← .lift (msg.get "ssid" (.str "ESP32-HA-OTA"))
    let ip ← .lift (msg.get "ip" (.str "192.168.200.1"))
    notifyOtaReady py env ssid ip
  | .str "ota_error" => do
    let message ← .lift (msg.get "message" .null)
    createNotification env "bluetooth_api_ota_error" "ESP32 OTA Fehler"
      s!"OTA konnte nicht gestartet werden: **{py.str message}**"
  | _ => pure ()

def handleControl (raw : Bytes) : Bridge Unit :=
  match (decodeUtf8 raw).bind py.loads with
  | none => pure ()
  | some msg => do
    let msgType ← .lift (msg.get "type" .null)
    handleMessage py env msg msgType

def handleFrame (raw : Bytes) : Bridge Unit :=
  if raw.take 1 = [0x7B] then handleControl py env raw
  else (PacketDispatcher.handleIncomingPacket py ⟨env.hass, passcode, env.sendRaw⟩ raw).mapEvents .dispatcher

def readerLoop (around : ℕ → Surroundings) (n : ℕ) (stream : Bytes) : Bridge Unit :=
  match h : rfcommReadFrame stream with
  | .error e _ => .lift (.error e)
  | .ok raw rest => do
    .emit (.received raw)
    handleFrame py passcode (around n) raw
    readerLoop around (n + 1) rest
termination_by stream.length
decreasing_by exact rfcommReadFrame_shortens h

def restartAdv : Bytes := encodeUtf8 "\x7b\"type\":\"restart_adv\"\x7d".toList

/-- One opened port, up to the exception that ends it. -/
def bridge (around : ℕ → Surroundings) (stream : Bytes) : Bridge Unit := do
  .emit (.dispatcher (.raw restartAdv))
  .lift ((around 0).sendRaw restartAdv)
  Traced.handle (readerLoop py passcode around 0 stream) fun _ => pure ()
  .emit .clientDisconnected

structure Session where
  stream : Bytes
  around : ℕ → Surroundings

def run (sessions : List Session) : Bridge Unit :=
  sessions |> Traced.forEach fun session =>
    Traced.handle (bridge py passcode session.around session.stream) fun _ => pure ()

end

/-! ### Which frames call services -/

section

variable {py : Library} {passcode : UInt32} {env : Surroundings}

lemma handleMessage_calls (msg msgType : Value) :
    (handleMessage py env msg msgType).observed BridgeEffect.call = [] := by
  rw [handleMessage.eq_def]
  split
  · exact Traced.observed_bind_nil rfl fun _ => rfl
  · rfl
  · rfl
  · exact Traced.observed_bind_nil rfl fun _ => Traced.observed_bind_nil rfl fun _ => rfl
  · exact Traced.observed_bind_nil rfl fun _ => rfl
  · rfl

lemma handleControl_calls (raw : Bytes) : (handleControl py env raw).observed BridgeEffect.call = [] := by
  rw [handleControl]
  cases (decodeUtf8 raw).bind py.loads with
  | none => rfl
  | some msg => exact Traced.observed_bind_nil rfl fun _ => handleMessage_calls _ _

lemma handleFrame_calls (raw : Bytes) :
    List.SublistForall₂ (Requests py passcode)
      ((handleFrame py passcode env raw).observed BridgeEffect.call) [raw] := by
  rw [handleFrame]
  split
  · rw [handleControl_calls]
    exact .nil
  · rw [Traced.observed_mapEvents]
    rcases @PacketDispatcher.handleIncomingPacket_calls py ⟨env.hass, passcode, env.sendRaw⟩ raw with
      hn | ⟨call, hcall, hreq⟩
    · exact hn ▸ .nil
    · exact hcall ▸ .cons hreq .nil

variable (py passcode) in
def Requested (events : List BridgeEffect) : Prop :=
  List.SublistForall₂ (Requests py passcode) (events.filterMap BridgeEffect.call) (events.filterMap BridgeEffect.frame)

lemma requested_append (es es' : List BridgeEffect) (h : Requested py passcode es) (h' : Requested py passcode es') :
    Requested py passcode (es ++ es') := by
  rw [Requested, List.filterMap_append, List.filterMap_append]
  exact Matching.append h h'

lemma requested_no_calls {α : Type} {x : Bridge α} (h : x.observed BridgeEffect.call = []) :
    x.Throughout (Requested py passcode) := by
  intro es hes
  have hcalls : es.filterMap BridgeEffect.call <+: x.observed BridgeEffect.call := hes.filterMap _
  rw [h] at hcalls
  rw [Requested, List.prefix_nil.mp hcalls]
  exact .nil

lemma receive_requested (raw : Bytes) :
    (.emit (.received raw) >>= fun _ => handleFrame py passcode env raw : Bridge Unit).Throughout
      (Requested py passcode) := by
  rintro (_ | ⟨e, es⟩) hes
  · exact .nil
  · obtain ⟨rfl, hrest⟩ := List.cons_prefix_cons.mp hes
    have hcalls := Matching.of_prefix (handleFrame_calls raw) (hrest.filterMap BridgeEffect.call)
    exact Matching.extend hcalls (es.filterMap BridgeEffect.frame)

lemma readerLoop_requested (around : ℕ → Surroundings) (n : ℕ) (stream : Bytes) :
    (readerLoop py passcode around n stream).Throughout (Requested py passcode) := by
  fun_induction readerLoop py passcode around n stream with
  | case1 n stream e rest h => exact requested_no_calls rfl
  | case2 n stream raw rest h ih =>
    rw [← bind_assoc]
    exact (receive_requested raw).bind requested_append fun _ => ih

lemma bridge_requested (session : Session) :
    (bridge py passcode session.around session.stream).Throughout (Requested py passcode) := by
  refine (requested_no_calls rfl).bind requested_append fun _ => ?_
  refine (requested_no_calls rfl).bind requested_append fun _ => ?_
  refine ((readerLoop_requested _ _ _).handle requested_append fun _ => ?_).bind requested_append fun _ => ?_
  · exact requested_no_calls rfl
  · exact requested_no_calls rfl

lemma run_requested (sessions : List Session) : (run py passcode sessions).Throughout (Requested py passcode) := by
  refine Traced.Throughout.forEach requested_append .nil (fun session => ?_) sessions
  exact (bridge_requested session).handle requested_append fun _ => requested_no_calls rfl

end

end HaBluetooth.Usb
