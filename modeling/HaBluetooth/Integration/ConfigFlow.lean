import HaBluetooth.Integration.Entries
import HaBluetooth.Python.Text

/-! The config flow: the forms that a user is led through, and the entry that comes out of them. -/

namespace HaBluetooth.Integration

open Python

def manualPortSentinel : String := "__manual__"

structure SerialPort where
  path : String
  label : String
  score : ℤ

structure EsphomeEntry where
  title : String
  data : EntryData

structure BluetoothEntry where
  entryId : String
  title : String
  domain : String
  disabledBy : Option String

/-- What a step of the flow finds: the ports that the scan returned, and the entries of two other integrations. -/
structure FlowHass where
  serialPorts : Result (List SerialPort)
  esphomeEntries : Result (List EsphomeEntry)
  bluetoothEntries : Result (List BluetoothEntry)
  setDisabledBy : String → Result Unit

structure Device where
  host : Value
  port : ℤ
  label : String
  noisePsk : Value

inductive StepId
  | user
  | esp32
  | esp32Manual
  | esphome
  | esphomeManual
  | nativeWarn
  deriving DecidableEq, Repr

inductive Validator
  | oneOf (options : EntryData)
  | str
  | bool
  | port

structure SchemaField where
  key : String
  required : Bool
  default : Option Value
  validator : Validator

structure Form where
  stepId : StepId
  schema : List SchemaField
  placeholders : List (String × String)

inductive FlowResult
  | form (form : Form)
  | createEntry (title : String) (data : EntryData)

structure ConfigFlow where
  adapterMode : Value
  usbPort : Value
  esphomeHost : Value
  esphomePort : ℤ
  esphomeNoisePsk : Value
  deviceName : Value
  passcode : UInt32
  disabled : List String

abbrev Flow := EStateM PyError ConfigFlow

namespace ConfigFlow

def init (passcode : UInt32) : ConfigFlow :=
  ⟨.str adapterModeEsp32, .str confUsbPortDefault, .str "", confEsphomePortDefault, .str "", .str confDeviceNameDefault,
    passcode, []⟩

def entryData (self : ConfigFlow) : EntryData :=
  [(confAdapterMode, self.adapterMode), (confUsbPort, self.usbPort), (confEsphomeHost, self.esphomeHost),
    (confEsphomePort, .int self.esphomePort), (confEsphomeNoisePsk, self.esphomeNoisePsk),
    (confDeviceName, self.deviceName), (confPasscode, .int self.passcode.toNat)]

end ConfigFlow

namespace Flow

def lift {α : Type} : Result α → Flow α
  | .ok a => pure a
  | .error e => throw e

end Flow

/-- A dict display or comprehension: a later item replaces an earlier one with its key. -/
def dictOf (items : EntryData) : EntryData :=
  items.foldl (fun entries item => Value.insertEntry item.1 item.2 entries) []

section

variable (py : Library) (int : Value → Result ℤ)

def ConfigFlow.title (self : ConfigFlow) : String :=
  if equalsStr self.adapterMode adapterModeEsp32 then s!"Bluetooth API (ESP32, {py.str self.usbPort})"
  else if equalsStr self.adapterMode adapterModeEsphome then
    s!"Bluetooth API (ESPHome, {py.str self.esphomeHost}:{self.esphomePort})"
  else s!"Bluetooth API (Native Pi BT, {py.str self.deviceName})"

def finish : Flow FlowResult := do
  let self ← get
  return .createEntry (self.title py) self.entryData

/-! ### What the steps offer -/

def Device.key (device : Device) : String := s!"{py.str device.host}|{device.port}"

/-- An entry whose port is no number ends the list. -/
def esphomeDevices : List EsphomeEntry → List Device
  | [] => []
  | entry :: entries =>
    let host := entry.data.get "host" .null
    let port := entry.data.get "port" (.int confEsphomePortDefault)
    let noisePsk := entry.data.get "noise_psk" (.str "")
    let noisePsk := if noisePsk.truthy then noisePsk else .str ""
    if !host.truthy then esphomeDevices entries
    else
      let address := s!"{py.str host}:{py.str port}"
      let label := if entry.title ≠ "" then s!"{entry.title} ({address})" else address
      match int port with
      | .error _ => []
      | .ok port => ⟨host, port, label, noisePsk⟩ :: esphomeDevices entries

def listEsphomeDevices (hass : FlowHass) : List Device :=
  match hass.esphomeEntries with
  | .ok entries => esphomeDevices py int entries
  | .error _ => []

def conflictingBluetoothEntries (hass : FlowHass) : List BluetoothEntry :=
  match hass.bluetoothEntries with
  | .ok entries => entries.filter fun e => e.disabledBy.isNone
  | .error _ => []

def userForm : Form where
  stepId := .user
  schema := [
    ⟨confAdapterMode, true, some (.str adapterModeEsp32), .oneOf [
      (adapterModeEsp32, .str "ESP32-S3 (USB-Serial Gateway)"),
      (adapterModeEsphome, .str "ESPHome (ble_server über WLAN/native API)"),
      (adapterModeNative, .str "Raspberry Pi Bluetooth (native, bless)")]⟩,
    ⟨confDeviceName, false, some (.str confDeviceNameDefault), .str⟩]
  placeholders := []

def manualOption : String × Value := (manualPortSentinel, .str "Manuell eingeben…")

def esp32Form (ports : List SerialPort) : Form where
  stepId := .esp32
  schema :=
    let options := dictOf (ports.map fun p => (p.path, .str p.label))
    let default := match ports with
      | [] => manualPortSentinel
      | port :: _ => port.path
    [⟨confUsbPort, true, some (.str default), .oneOf (Value.insertEntry manualOption.1 manualOption.2 options)⟩]
  placeholders := []

def esp32ManualForm : Form where
  stepId := .esp32Manual
  schema := [⟨confUsbPort, false, some (.str confUsbPortDefault), .str⟩]
  placeholders := []

def esphomeForm (devices : List Device) : Form where
  stepId := .esphome
  schema :=
    let options := dictOf (devices.map fun d => (d.key py, .str d.label))
    let options := Value.insertEntry manualOption.1 manualOption.2 options
    let default := match options with
      | [] => manualPortSentinel
      | option :: _ => option.1
    [⟨confEsphomeHost, true, some (.str default), .oneOf options⟩]
  placeholders := []

def esphomeManualForm : Form where
  stepId := .esphomeManual
  schema := [
    ⟨confEsphomeHost, true, none, .str⟩,
    ⟨confEsphomePort, false, some (.int confEsphomePortDefault), .port⟩,
    ⟨confEsphomeNoisePsk, false, some (.str ""), .str⟩]
  placeholders := []

def disableConflicts : String := "disable_conflicts"

def BluetoothEntry.line (e : BluetoothEntry) : String :=
  let name := if e.title ≠ "" then e.title else e.domain
  let start := String.ofList (e.entryId.toList.take 8)
  s!"- **{name}** ({start}…)"

def nativeWarnForm (conflicts : List BluetoothEntry) : Form where
  stepId := .nativeWarn
  schema := [⟨disableConflicts, false, some (.bool true), .bool⟩]
  placeholders := [("conflicts", "\n".intercalate (conflicts.map BluetoothEntry.line))]

/-! ### The steps -/

def stepEsp32Manual : Option EntryData → Flow FlowResult
  | some userInput => do
    modify fun self => { self with usbPort := userInput.get confUsbPort (.str confUsbPortDefault) }
    finish py
  | none => return .form esp32ManualForm

def stepEsp32 (hass : FlowHass) : Option EntryData → Flow FlowResult
  | some userInput => do
    let choice ← Flow.lift (userInput.item confUsbPort)
    if equalsStr choice manualPortSentinel then stepEsp32Manual py none
    else do
      modify fun self => { self with usbPort := choice }
      finish py
  | none => do
    let ports ← Flow.lift hass.serialPorts
    return .form (esp32Form ports)

def stepEsphomeManual : Option EntryData → Flow FlowResult
  | some userInput => do
    let host ← Flow.lift (userInput.item confEsphomeHost >>= Value.strip)
    modify fun self => { self with esphomeHost := host }
    let port ← Flow.lift (int (userInput.get confEsphomePort (.int confEsphomePortDefault)))
    modify fun self => { self with esphomePort := port }
    let noisePsk ← Flow.lift (userInput.get confEsphomeNoisePsk (.str "")).strip
    modify fun self => { self with esphomeNoisePsk := noisePsk }
    finish py
  | none => return .form esphomeManualForm

/-- The key that comes with a device, which may be gone by the time it is picked. -/
def pskByHost (hass : FlowHass) (choice : String) : Value :=
  (dictOf ((listEsphomeDevices py int hass).map fun d => (d.key py, d.noisePsk))).get choice (.str "")

def pickedPort (portStr : String) : Result ℤ :=
  if portStr ≠ "" then int (.str portStr) else .ok confEsphomePortDefault

def stepEsphome (hass : FlowHass) : Option EntryData → Flow FlowResult
  | some userInput => do
    let choice ← Flow.lift (userInput.item confEsphomeHost)
    if equalsStr choice manualPortSentinel then stepEsphomeManual py int none
    else
      match choice with
      | .str choice => do
        let (hostStr, portStr) := partition '|' choice
        modify fun self => { self with esphomeHost := .str hostStr }
        let port ← Flow.lift (pickedPort int portStr)
        modify fun self => { self with esphomePort := port }
        modify fun self => { self with esphomeNoisePsk := pskByHost py int hass choice }
        finish py
      | choice => throw (attributeError choice "partition")
  | none => return .form (esphomeForm py (listEsphomeDevices py int hass))

/-- Nothing that goes wrong here keeps the flow from going on. -/
def disable (hass : FlowHass) : List BluetoothEntry → Flow Unit
  | [] => pure ()
  | entry :: entries => do
    modify fun self => { self with disabled := self.disabled ++ [entry.entryId] }
    tryCatch (Flow.lift (hass.setDisabledBy entry.entryId)) fun _ => pure ()
    disable hass entries

def stepNativeWarn (hass : FlowHass) : Option EntryData → Flow FlowResult
  | some userInput => do
    let conflicts := conflictingBluetoothEntries hass
    if (userInput.get disableConflicts .null).truthy && !conflicts.isEmpty then disable hass conflicts
    finish py
  | none =>
    match conflictingBluetoothEntries hass with
    | [] => finish py
    | conflicts => return .form (nativeWarnForm conflicts)

def stepUser (hass : FlowHass) : Option EntryData → Flow FlowResult
  | some userInput => do
    let adapterMode ← Flow.lift (userInput.item confAdapterMode)
    modify fun self => { self with adapterMode }
    modify fun self => { self with deviceName := userInput.get confDeviceName (.str confDeviceNameDefault) }
    if equalsStr adapterMode adapterModeEsp32 then stepEsp32 py hass none
    else if equalsStr adapterMode adapterModeEsphome then stepEsphome py int hass none
    else stepNativeWarn py hass none
  | none => return .form userForm

def stepOf (hass : FlowHass) (stepId : StepId) : Option EntryData → Flow FlowResult :=
  match stepId with
  | .user => stepUser py int hass
  | .esp32 => stepEsp32 py hass
  | .esp32Manual => stepEsp32Manual py
  | .esphome => stepEsphome py int hass
  | .esphomeManual => stepEsphomeManual py int
  | .nativeWarn => stepNativeWarn py hass

end

end HaBluetooth.Integration
