import HaBluetooth.Dispatcher.Tasks
import HaBluetooth.Integration.ConfigFlow

/-! The passcode on its way to the app: the QR code, the notification and the status page of an entry all give the one
passcode that its bridge accepts. -/

namespace HaBluetooth.Integration

open Python Protocol Support Dispatcher

def domain : String := "bluetooth_api"

structure WebEntry where
  entryId : String
  title : String
  domain : String
  data : EntryData

inductive Response
  | text (status : ℕ) (text : String)
  | image (png : Bytes)
  | json (status : ℕ) (body : Value)

/-- `f"{passcode:08X}"` -/
def formatX8 : Value → Result String
  | .int n => .ok (if 0 ≤ n then upperHex 8 n.toNat else "-" ++ upperHex 7 n.natAbs)
  | .bool b => .ok (upperHex 8 b.toNat)
  | .float _ => .error ⟨.valueError, "Unknown format code 'X' for object of type 'float'"⟩
  | .str _ => .error ⟨.valueError, "Unknown format code 'X' for object of type 'str'"⟩
  -- strftime of a format without directives
  | .datetime _ => .ok "08X"
  | v => .error ⟨.typeError, s!"unsupported format string passed to {v.typeName}.__format__"⟩

def display (hex : String) : String := String.ofList (hex.toList.take 4) ++ "-" ++ String.ofList (hex.toList.drop 4)

def passcodeDisplay (passcode : Value) : Result String := do
  let hex ← formatX8 passcode
  return display hex

def WebEntry.passcode (entry : WebEntry) : Value := entry.data.get confPasscode (.int 0)

def qrUrl (entryId : String) : String := s!"/api/bluetooth_api/setup_qr/{entryId}"

section

variable (qrcode : String → Result Bytes)

def qrOf (entry : WebEntry) : Result Response := do
  let hex ← formatX8 entry.passcode
  match qrcode ("btdashboard:" ++ hex) with
  | .ok png => return .image png
  | .error e =>
    if e.kind = .other "ImportError" then return .text 503 "qrcode library not available"
    else return .text 500 e.text

/-- `entries` are those of every integration. -/
def setupQr (entries : List WebEntry) (entryId : Option String) : Result Response :=
  match entries.filter fun e => e.domain = domain with
  | [] => .ok (.text 404 "bluetooth_api not configured")
  | first :: _ =>
    match entryId.filter (· ≠ "") with
    | none => qrOf qrcode first
    | some id =>
      match entries.find? fun e => e.entryId = id with
      | none => .ok (.text 404 s!"entry '{id}' not found")
      | some entry =>
        if entry.domain ≠ domain then .ok (.text 404 s!"entry '{id}' not found") else qrOf qrcode entry

end

/-- `connected` tells of an entry whether one of its servers has a client. -/
def statusRow (connected : String → Bool) (entry : WebEntry) : Result Value := do
  let shown ← passcodeDisplay entry.passcode
  return .dict [("entry_id", .str entry.entryId), ("title", .str entry.title),
    ("adapter_mode", entry.data.get "adapter_mode" (.str "esp32")),
    ("device_name", entry.data.get "device_name" (.str "Homeassistant_Home")), ("passcode_display", .str shown),
    ("qr_url", .str (qrUrl entry.entryId)), ("client_connected", .bool (connected entry.entryId))]

def status (connected : String → Bool) (entries : List WebEntry) : Result Response :=
  match entries.filter fun e => e.domain = domain with
  | [] => .ok (.json 404 (.dict [("message", .str "bluetooth_api is not configured")]))
  | entries => do
    let rows ← entries.mapM (statusRow connected)
    return .json 200 (.list rows)

/-- The data of the `persistent_notification.create` call after setup. -/
def notificationOf (py : Library) (entry : WebEntry) (hex : String) : Value :=
  let shown := display hex
  let url := qrUrl entry.entryId
  let deviceName := py.str (entry.data.get confDeviceName (.str confDeviceNameDefault))
  .dict [("notification_id", .str s!"bluetooth_api_setup_{entry.entryId}"),
    ("title", .str s!"Bluetooth API: {deviceName}"),
    ("message", .str (s!"![QR Code]({url})\n\n" ++ "Scanne den QR-Code in der **btdashboard**-App, " ++
      "um die Verbindung einzurichten.\n\n" ++ s!"Passcode (manuell): **{shown}**"))]

def setupNotification (py : Library) (entry : WebEntry) : Result Value := do
  let hex ← formatX8 entry.passcode
  return notificationOf py entry hex

/-! ### One passcode for all of them -/

lemma formatX8_passcode (p : UInt32) : formatX8 (.int p.toNat) = .ok (upperHex 8 p.toNat) := by
  rw [formatX8, if_pos (Int.natCast_nonneg _)]
  rfl

lemma upperHex_passcode (p : UInt32) : (upperHex 8 p.toNat).toList.length = 8 ∧
    Hexadecimal.value (upperHex 8 p.toNat).toList = p.toNat := by
  rw [upperHex, String.toList_ofList]
  exact ⟨Hexadecimal.length_padded (by decide) p.toNat_lt, Hexadecimal.value_padded 8 p.toNat⟩

section

variable {qrcode : String → Result Bytes} {png : String → Bytes} {entries : List WebEntry} {entry : WebEntry}

lemma setupQr_found (hfind : entries.find? (fun e => e.entryId = entry.entryId) = some entry)
    (hdomain : entry.domain = domain) (hid : entry.entryId ≠ "") :
    setupQr qrcode entries (some entry.entryId) = qrOf qrcode entry := by
  have hmem : entry ∈ entries.filter fun e => e.domain = domain :=
    List.mem_filter.mpr ⟨List.mem_of_find?_eq_some hfind, decide_eq_true hdomain⟩
  rw [setupQr]
  cases hown : entries.filter fun e => e.domain = domain with
  | nil =>
    rw [hown] at hmem
    cases hmem
  | cons first rest =>
    have hsome : (some entry.entryId).filter (· ≠ "") = some entry.entryId := by
      rw [Option.filter_some, if_pos (decide_eq_true hid)]
    dsimp only
    rw [hsome]
    dsimp only
    rw [hfind]
    dsimp only
    rw [if_neg (not_not.mpr hdomain)]

lemma qrOf_passcode (hqr : ∀ t, qrcode t = .ok (png t)) {p : UInt32} (hp : entry.passcode = .int p.toNat) :
    qrOf qrcode entry = .ok (.image (png ("btdashboard:" ++ upperHex 8 p.toNat))) := by
  rw [qrOf, hp, formatX8_passcode, ok_bind, hqr]
  rfl

end

lemma acknowledged_iff (py : Library) (bridge : PacketDispatcher) {p : UInt32} {cmd flags : ℕ} {payload raw : Bytes}
    (hcmd : cmd ∈ [cmdReqAreas, cmdReqDevices, cmdReqDashboards, cmdReqState, cmdCallService])
    (hraw : encodePacket p.toNat cmd payload flags = .ok raw) :
    Effect.packet cmdAck .null ∈ (bridge.handleIncomingPacket py raw).events ↔ bridge.passcode = p := by
  obtain ⟨l, rfl, -, hfields, -⟩ := encodePacket_eq_ok.mp hraw
  have hdecode : decodePacket l.bytes = some (p.toNat, cmd, payload) := hfields ▸ decodePacket_bytes l
  rw [PacketDispatcher.handleIncomingPacket, hdecode]
  dsimp only
  split
  · rename_i hne
    rw [PacketDispatcher.mem_sendPacket]
    constructor
    · rintro ⟨hack, -⟩
      exact absurd hack (by decide)
    · rintro rfl
      exact (hne rfl).elim
  · rename_i heq
    refine iff_of_true ?_ (UInt32.toNat_inj.mp (not_not.mp heq).symm)
    rw [bridge.dispatch_eq py hcmd, Traced.mem_bind_events]
    exact .inl ((PacketDispatcher.mem_sendPacket bridge).mpr ⟨rfl, rfl⟩)

section

variable (connected : String → Bool)

def rowOf (entry : WebEntry) (shown : String) : Value :=
  .dict [("entry_id", .str entry.entryId), ("title", .str entry.title),
    ("adapter_mode", entry.data.get "adapter_mode" (.str "esp32")),
    ("device_name", entry.data.get "device_name" (.str "Homeassistant_Home")), ("passcode_display", .str shown),
    ("qr_url", .str s!"/api/bluetooth_api/setup_qr/{entry.entryId}"),
    ("client_connected", .bool (connected entry.entryId))]

lemma statusRow_eq {entry : WebEntry} {hex : String} (h : formatX8 entry.passcode = .ok hex) :
    statusRow connected entry = .ok (rowOf connected entry (display hex)) := by
  rw [statusRow, passcodeDisplay, h]
  rfl

lemma statusRows {entries : List WebEntry} {hexOf : WebEntry → String}
    (h : ∀ e ∈ entries, formatX8 e.passcode = .ok (hexOf e)) :
    entries.mapM (statusRow connected) = .ok (entries.map fun e => rowOf connected e (display (hexOf e))) := by
  induction entries with
  | nil => rfl
  | cons entry entries ih =>
    obtain ⟨hfirst, hrest⟩ := List.forall_mem_cons.mp h
    rw [List.mapM_cons, statusRow_eq connected hfirst, ih hrest]
    rfl

lemma status_rows {entries : List WebEntry} {entry : WebEntry} (hentry : entry ∈ entries)
    (hdomain : entry.domain = domain) {hexOf : WebEntry → String}
    (h : ∀ e ∈ entries, e.domain = domain → formatX8 e.passcode = .ok (hexOf e)) :
    status connected entries = .ok (.json 200 (.list
      ((entries.filter fun e => e.domain = domain).map fun e => rowOf connected e (display (hexOf e))))) := by
  have hmem : entry ∈ entries.filter fun e => e.domain = domain :=
    List.mem_filter.mpr ⟨hentry, decide_eq_true hdomain⟩
  have hown : ∀ e ∈ entries.filter fun e => e.domain = domain, formatX8 e.passcode = .ok (hexOf e) := by
    intro e he
    obtain ⟨he, hd⟩ := List.mem_filter.mp he
    exact h e he (of_decide_eq_true hd)
  rw [status]
  cases hfilter : entries.filter fun e => e.domain = domain with
  | nil =>
    rw [hfilter] at hmem
    cases hmem
  | cons first rest =>
    dsimp only
    rw [← hfilter, statusRows connected hown]
    rfl

end

def announcement (py : Library) (entry : WebEntry) (shown : String) : Value :=
  .dict [("notification_id", .str s!"bluetooth_api_setup_{entry.entryId}"),
    ("title", .str ("Bluetooth API: " ++ py.str ((entry.data.lookup "device_name").getD (.str "Homeassistant_Home")))),
    ("message", .str (s!"![QR Code](/api/bluetooth_api/setup_qr/{entry.entryId})\n\n" ++
      "Scanne den QR-Code in der **btdashboard**-App, " ++ "um die Verbindung einzurichten.\n\n" ++
      s!"Passcode (manuell): **{shown}**"))]

/-- Eight digits that stand for the passcode, and on display a dash after the fourth. -/
structure Reads (passcode : UInt32) (hex shown : String) : Prop where
  length : hex.toList.length = 8
  value : Hexadecimal.value hex.toList = passcode.toNat
  shown : shown.toList = hex.toList.take 4 ++ '-' :: hex.toList.drop 4

lemma display_reads (p : UInt32) : Reads p (upperHex 8 p.toNat) (display (upperHex 8 p.toNat)) where
  length := (upperHex_passcode p).1
  value := (upperHex_passcode p).2
  shown := by simp [display]

def pairedEntry : WebEntry := ⟨"e1", "Bluetooth API", domain, [(confPasscode, .int (7 : UInt32).toNat)]⟩

def otherEntry : WebEntry := ⟨"e2", "Bluetooth API", domain, [(confPasscode, .int (8 : UInt32).toNat)]⟩

def passcodeOfBoth (e : WebEntry) : UInt32 := if e.entryId = "e1" then 7 else 8

end HaBluetooth.Integration
