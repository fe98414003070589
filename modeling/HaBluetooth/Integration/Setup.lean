import HaBluetooth.Python.Values
import HaBluetooth.Support.Handles

/-! Setting up a config entry and unloading it again: which bridges run afterwards. -/

namespace HaBluetooth.Integration

open Python Support

def adapterModeNative : String := "native"
def adapterModeEsphome : String := "esphome"

def confAdapterMode : String := "adapter_mode"
def confPasscode : String := "passcode"
def confDeviceName : String := "device_name"
def confDeviceNameDefault : String := "Homeassistant_Home"
def confEsphomeHost : String := "esphome_host"
def confEsphomePort : String := "esphome_port"
def confEsphomePortDefault : ℤ := 6053
def confEsphomeNoisePsk : String := "esphome_noise_psk"
def confUsbPort : String := "usb_port"
def confUsbPortDefault : String := "/dev/ttyACM0"

abbrev EntryData := List (String × Value)

def EntryData.get (data : EntryData) (key : String) (default : Value) : Value := (data.lookup key).getD default

def EntryData.item (data : EntryData) (key : String) : Result Value :=
  match data.lookup key with
  | some v => .ok v
  | none => .error ⟨.other "KeyError", s!"'{key}'"⟩

def equalsStr : Value → String → Bool
  | .str t, s => t == s
  | _, _ => false

inductive Server
  | native (deviceName passcode : Value)
  | esphome (host : Value) (port : ℤ) (passcode noisePsk : Value)
  | usbSerial (port passcode : Value)

inductive View
  | setupQr
  | status
  | config

/-- How `start()` went, and for one that raised whether its task had been created by then. -/
inductive StartOutcome
  | returned
  | raised (e : PyError) (spawned : Bool)

def StartOutcome.runs : StartOutcome → Bool
  | .returned => true
  | .raised _ spawned => spawned

/-- How the steps outside this module go in one call of `async_setup_entry`. `int` is Python's, `imported` stands for
the local import of the adapter mode, `construct` for the constructor. -/
structure Surroundings where
  ensureLabels : Result Unit
  imported : Result Unit
  int : Value → Result ℤ
  construct : Server → Result Unit
  start : StartOutcome
  forward : Result Unit
  registerView : View → Result Unit
  addUpdateListener : Result Unit

structure Installed where
  -- the server objects by number; a live one's task runs
  bridges : Handles
  -- the lists in `hass.data[DOMAIN]`, by entry id
  servers : String → List (ℕ × Server)
  viewsRegistered : Bool

def Installed.empty : Installed := ⟨.empty, fun _ => [], false⟩

namespace Surroundings

variable (around : Surroundings)

/-- What comes before `start()`; without a host there is no server and setup returns False. -/
def serverOf (data : EntryData) : Result (Option Server) := do
  around.ensureLabels
  let adapterMode ← data.item confAdapterMode
  let passcode := data.get confPasscode (.int 0)
  if equalsStr adapterMode adapterModeNative then
    around.imported
    let server := Server.native (data.get confDeviceName (.str confDeviceNameDefault)) passcode
    around.construct server
    return some server
  else if equalsStr adapterMode adapterModeEsphome then
    around.imported
    let host := data.get confEsphomeHost (.str "")
    let port ← around.int (data.get confEsphomePort (.int confEsphomePortDefault))
    let noisePsk := data.get confEsphomeNoisePsk (.str "")
    let noisePsk := if noisePsk.truthy then noisePsk else .str ""
    if !host.truthy then return none
    let server := Server.esphome host port passcode noisePsk
    around.construct server
    return some server
  else
    around.imported
    let server := Server.usbSerial (data.get confUsbPort (.str confUsbPortDefault)) passcode
    around.construct server
    return some server

def registerViews : Result Unit := do
  around.registerView .setupQr
  around.registerView .status
  around.registerView .config

end Surroundings

namespace Installed

variable (s : Installed)

/-- An exception of `start()` is logged and the server is kept. -/
def startServer (start : StartOutcome) (entryId : String) (server : Server) : Installed where
  bridges := if start.runs then s.bridges.issue else s.bridges.issue.close s.bridges.issued
  servers := Function.update s.servers entryId [(s.bridges.issued, server)]
  viewsRegistered := s.viewsRegistered

def setupEntry (around : Surroundings) (entryId : String) (data : EntryData) : Result Bool × Installed :=
  match around.serverOf data with
  | .error e => (.error e, s)
  | .ok none => (.ok false, s)
  | .ok (some server) =>
    let s := s.startServer around.start entryId server
    match around.forward with
    | .error e => (.error e, s)
    | .ok () =>
      match if s.viewsRegistered then .ok () else around.registerViews with
      | .error e => (.error e, s)
      | .ok () =>
        let s := { s with viewsRegistered := true }
        match around.addUpdateListener with
        | .error e => (.error e, s)
        | .ok () => (.ok true, s)

/-- `ends` tells whether a server's task has ended when its `stop()` is over, however that went. -/
def unloadEntry (unloadPlatforms : Result Unit) (ends : ℕ → Bool) (entryId : String) : Result Bool × Installed :=
  match unloadPlatforms with
  | .error e => (.error e, s)
  | .ok () =>
    (.ok true, { s with
      bridges := (s.servers entryId).foldl (fun b x => if ends x.1 then b.close x.1 else b) s.bridges
      servers := Function.update s.servers entryId [] })

end Installed

end HaBluetooth.Integration
