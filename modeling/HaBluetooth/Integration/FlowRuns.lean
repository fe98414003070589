import HaBluetooth.Integration.ConfigFlow

/-! Whatever a user answers, the entry that the flow creates sets up the bridge that was chosen. -/

namespace HaBluetooth.Integration

open Python Support

/-- What is left of a submission when the schema of the form has gone over it and filled in its defaults. -/
def Validator.Allows : Validator → Value → Prop
  | .oneOf options, v => ∃ key ∈ options.map Prod.fst, v = .str key
  | .str, v => ∃ s, v = .str s
  | .bool, v => ∃ b, v = .bool b
  | .port, v => ∃ p : ℤ, v = .int p ∧ 1 ≤ p ∧ p ≤ 65535

def Form.Accepts (form : Form) (input : EntryData) : Prop :=
  ∀ field ∈ form.schema, ∃ v, input.lookup field.key = some v ∧ field.validator.Allows v

structure Answer where
  hass : FlowHass
  stepId : StepId
  input : EntryData

/-- A flow with the form it shows; `answers` are the submissions that got an answer. -/
structure Wizard where
  flow : ConfigFlow
  form : Form
  created : Option (String × EntryData)
  answers : List Answer

/-- Without an input the step of the form is asked to show itself again. -/
structure WizardInput where
  hass : FlowHass
  userInput : Option EntryData

namespace Wizard

variable (py : Library) (int : Value → Result ℤ)

def start (passcode : UInt32) : Wizard := ⟨.init passcode, userForm, none, []⟩

def answered (s : Wizard) (i : WizardInput) : List Answer :=
  s.answers ++ (i.userInput.map fun input => ⟨i.hass, s.form.stepId, input⟩).toList

def step (s : Wizard) (i : WizardInput) : Wizard :=
  match s.created with
  | some _ => s
  | none =>
    match stepOf py int i.hass s.form.stepId i.userInput s.flow with
    | .ok (.form form) flow => ⟨flow, form, none, s.answered i⟩
    | .ok (.createEntry title data) flow => ⟨flow, s.form, some (title, data), s.answered i⟩
    | .error _ flow => { s with flow }

def run (s : Wizard) (inputs : List WizardInput) : Wizard := inputs.foldl (step py int) s

section

variable {py : Library} {int : Value → Result ℤ} {s : Wizard} {i : WizardInput} {flow : ConfigFlow}

lemma step_form {form : Form} (hs : s.created = none)
    (h : stepOf py int i.hass s.form.stepId i.userInput s.flow = .ok (.form form) flow) :
    s.step py int i = ⟨flow, form, none, s.answered i⟩ := by
  rw [step, hs]
  dsimp only
  rw [h]

lemma step_createEntry {title : String} {data : EntryData} (hs : s.created = none)
    (h : stepOf py int i.hass s.form.stepId i.userInput s.flow = .ok (.createEntry title data) flow) :
    s.step py int i = ⟨flow, s.form, some (title, data), s.answered i⟩ := by
  rw [step, hs]
  dsimp only
  rw [h]

lemma step_error {e : PyError} (hs : s.created = none)
    (h : stepOf py int i.hass s.form.stepId i.userInput s.flow = .error e flow) :
    s.step py int i = { s with flow } := by
  rw [step, hs]
  dsimp only
  rw [h]

end

def Accepting (s : Wizard) (i : WizardInput) : Prop := ∀ input ∈ i.userInput, s.form.Accepts input

end Wizard

def deviceNameOf (input : EntryData) : Value := (input.lookup "device_name").getD (.str "Homeassistant_Home")

def orEmpty (v : Value) : Value := if v.truthy then v else .str ""

/-- The entry of an ESPHome device is offered under this text and has this key. -/
def EsphomeEntry.Offers (py : Library) (int : Value → Result ℤ) (entry : EsphomeEntry) (choice : String) (key : Value) :
    Prop :=
  ∃ host port, entry.data.lookup "host" = some host ∧ host.truthy = true ∧
    int ((entry.data.lookup "port").getD (.int 6053)) = .ok port ∧ choice = s!"{py.str host}|{port}" ∧
    key = orEmpty ((entry.data.lookup "noise_psk").getD (.str ""))

def EsphomeEntry.Unreadable (int : Value → Result ℤ) (entry : EsphomeEntry) : Prop :=
  ∃ host e, entry.data.lookup "host" = some host ∧ host.truthy = true ∧
    int ((entry.data.lookup "port").getD (.int 6053)) = .error e

def FlowHass.Lists (int : Value → Result ℤ) (hass : FlowHass) (listed : List EsphomeEntry) : Prop :=
  match hass.esphomeEntries with
  | .error _ => listed = []
  | .ok entries => ∃ rest, entries = listed ++ rest ∧ (∀ entry ∈ listed, ¬ entry.Unreadable int) ∧
      ∀ entry ∈ rest.head?, entry.Unreadable int

/-- The key of the last listed device with that text, and none when the device has gone. -/
def FlowHass.Harvests (py : Library) (int : Value → Result ℤ) (hass : FlowHass) (choice : String) (key : Value) :
    Prop :=
  ∃ listed, hass.Lists int listed ∧
    ((∃ before entry after, listed = before ++ entry :: after ∧ entry.Offers py int choice key ∧
        ∀ later ∈ after, ∀ key', ¬ later.Offers py int choice key') ∨
      (∀ entry ∈ listed, ∀ key', ¬ entry.Offers py int choice key') ∧ key = .str "")

inductive Chosen (py : Library) (int : Value → Result ℤ) (passcode : Value) : List Answer → Server → Prop
  | native {hass : FlowHass} {u : EntryData} (hu : u.lookup "adapter_mode" = some (.str "native")) :
    Chosen py int passcode [⟨hass, .user, u⟩] (.native (deviceNameOf u) passcode)
  | warned {hass hass' : FlowHass} {u w : EntryData} (hu : u.lookup "adapter_mode" = some (.str "native")) :
    Chosen py int passcode [⟨hass, .user, u⟩, ⟨hass', .nativeWarn, w⟩] (.native (deviceNameOf u) passcode)
  | port {hass hass' : FlowHass} {u e : EntryData} {path : String} (hu : u.lookup "adapter_mode" = some (.str "esp32"))
      (he : e.lookup "usb_port" = some (.str path)) (hp : path ≠ "__manual__") :
    Chosen py int passcode [⟨hass, .user, u⟩, ⟨hass', .esp32, e⟩] (.usbSerial (.str path) passcode)
  | typedPort {hass hass' hass'' : FlowHass} {u e m : EntryData} {path : String}
      (hu : u.lookup "adapter_mode" = some (.str "esp32")) (he : e.lookup "usb_port" = some (.str "__manual__"))
      (hm : m.lookup "usb_port" = some (.str path)) :
    Chosen py int passcode [⟨hass, .user, u⟩, ⟨hass', .esp32, e⟩, ⟨hass'', .esp32Manual, m⟩]
      (.usbSerial (.str path) passcode)
  | device {hass hass' : FlowHass} {u e : EntryData} {choice host portStr : String} {port : ℤ} {key : Value}
      (hu : u.lookup "adapter_mode" = some (.str "esphome")) (he : e.lookup "esphome_host" = some (.str choice))
      (hc : choice ≠ "__manual__") (hbar : '|' ∉ host.toList)
      (hsplit : choice.toList = host.toList ++ '|' :: portStr.toList ∨ choice = host ∧ portStr = "")
      (hport : portStr = "" ∧ port = 6053 ∨ portStr ≠ "" ∧ int (.str portStr) = .ok port)
      (hkey : hass'.Harvests py int choice key) :
    Chosen py int passcode [⟨hass, .user, u⟩, ⟨hass', .esphome, e⟩] (.esphome (.str host) port passcode key)
  | typedDevice {hass hass' hass'' : FlowHass} {u e m : EntryData} {host psk : String} {port : ℤ}
      (hu : u.lookup "adapter_mode" = some (.str "esphome")) (he : e.lookup "esphome_host" = some (.str "__manual__"))
      (hh : m.lookup "esphome_host" = some (.str host)) (hp : m.lookup "esphome_port" = some (.int port))
      (hk : m.lookup "esphome_noise_psk" = some (.str psk)) (hrange : 1 ≤ port ∧ port ≤ 65535) :
    Chosen py int passcode [⟨hass, .user, u⟩, ⟨hass', .esphome, e⟩, ⟨hass'', .esphomeManual, m⟩]
      (.esphome (.str (strip host)) port passcode (orEmpty (.str (strip psk))))

def toDisable : List Answer → List String
  | [_, ⟨hass, .nativeWarn, w⟩] =>
    match w.lookup "disable_conflicts", hass.bluetoothEntries with
    | some asked, .ok entries =>
      if asked.truthy then (entries.filter fun e => e.disabledBy = none).map BluetoothEntry.entryId else []
    | _, _ => []
  | _ => []

/-! ### The key of a picked device -/

lemma orEmpty_orEmpty (v : Value) : orEmpty (orEmpty v) = orEmpty v := by
  by_cases hv : v.truthy = true
  · have hsame : orEmpty v = v := if_pos hv
    rw [hsame, hsame]
  · have hempty : orEmpty v = .str "" := if_neg hv
    rw [hempty]
    rfl

lemma lookup_cons_if (choice key : String) (item : Value) (entries : EntryData) :
    ((key, item) :: entries).lookup choice = if choice = key then some item else entries.lookup choice := by
  rw [List.lookup_cons]
  by_cases hc : choice = key
  · simp [hc]
  · simp [hc, beq_false_of_ne hc]

lemma lookup_insertEntry (choice key : String) (item : Value) (entries : EntryData) :
    (Value.insertEntry key item entries).lookup choice = if choice = key then some item else entries.lookup choice := by
  induction entries with
  | nil => exact lookup_cons_if choice key item []
  | cons e entries ih =>
    obtain ⟨k, v⟩ := e
    rw [Value.insertEntry, lookup_cons_if]
    by_cases hk : k = key
    · subst hk
      rw [if_pos rfl, lookup_cons_if]
      by_cases hc : choice = k
      · rw [if_pos hc, if_pos hc]
      · rw [if_neg hc, if_neg hc, if_neg hc]
    · rw [if_neg hk, lookup_cons_if, ih]
      by_cases hc : choice = k
      · have hne : choice ≠ key := fun h => hk (hc.symm.trans h)
        rw [if_pos hc, if_neg hne, if_pos hc]
      · rw [if_neg hc, if_neg hc]

lemma lookup_dictOf (items : EntryData) (choice : String) :
    (dictOf items).lookup choice = items.reverse.lookup choice := by
  induction items using List.reverseRecOn with
  | nil => rfl
  | append_singleton items item ih =>
    have hlast : dictOf (items ++ [item]) = Value.insertEntry item.1 item.2 (dictOf items) := List.foldl_append
    rw [hlast, lookup_insertEntry, ih, List.reverse_append, List.reverse_singleton, List.singleton_append,
      lookup_cons_if]

section

variable {py : Library} {int : Value → Result ℤ}

lemma esphomeDevices_cons (entry : EsphomeEntry) :
    (entry.Unreadable int ∧ ∀ entries, esphomeDevices py int (entry :: entries) = []) ∨
    ¬ entry.Unreadable int ∧ (
      (∀ choice key, ¬ entry.Offers py int choice key) ∧
        (∀ entries, esphomeDevices py int (entry :: entries) = esphomeDevices py int entries) ∨
      ∃ d : Device, (∀ choice key, entry.Offers py int choice key ↔ choice = d.key py ∧ key = d.noisePsk) ∧
        ∀ entries, esphomeDevices py int (entry :: entries) = d :: esphomeDevices py int entries) := by
  have hget (default : Value) : entry.data.get "host" default = (entry.data.lookup "host").getD default := rfl
  have hnumber : entry.data.get "port" (.int confEsphomePortDefault) = (entry.data.lookup "port").getD (.int 6053) :=
    rfl
  simp only [esphomeDevices, hget, hnumber]
  cases hhost : entry.data.lookup "host" with
  | none =>
    refine .inr ⟨by simp [EsphomeEntry.Unreadable, hhost], .inl ⟨?_, fun _ => rfl⟩⟩
    simp [EsphomeEntry.Offers, hhost]
  | some host =>
    cases ht : host.truthy with
    | false =>
      refine .inr ⟨by simp [EsphomeEntry.Unreadable, hhost, ht], .inl ⟨by simp [EsphomeEntry.Offers, hhost, ht], ?_⟩⟩
      simp [ht]
    | true =>
      cases hport : int ((entry.data.lookup "port").getD (.int 6053)) with
      | error e => exact .inl ⟨⟨host, e, hhost, ht, hport⟩, by simp [ht]⟩
      | ok port =>
        let portText := py.str ((entry.data.lookup "port").getD (.int 6053))
        let address := s!"{py.str host}:{portText}"
        let label := if entry.title ≠ "" then s!"{entry.title} ({address})" else address
        let key := orEmpty ((entry.data.lookup "noise_psk").getD (.str ""))
        refine .inr ⟨by simp [EsphomeEntry.Unreadable, hport], .inr ⟨⟨host, port, label, key⟩, ?_, fun entries => ?_⟩⟩
        · intro choice offered
          simp [EsphomeEntry.Offers, hhost, ht, hport, Device.key, key]
        · simp only [Option.getD_some, ht, Bool.not_true, Bool.false_eq_true, if_false]
          rfl

variable (py int) in
def keysOf (entries : List EsphomeEntry) : EntryData :=
  (esphomeDevices py int entries).map fun d => (d.key py, d.noisePsk)

lemma keysOf_listed (entries : List EsphomeEntry) : ∃ listed rest, entries = listed ++ rest ∧
    (∀ entry ∈ listed, ¬ entry.Unreadable int) ∧ (∀ entry ∈ rest.head?, entry.Unreadable int) ∧
    keysOf py int entries = keysOf py int listed := by
  induction entries with
  | nil => exact ⟨[], [], rfl, by simp, by simp, rfl⟩
  | cons entry entries ih =>
    obtain ⟨listed, rest, rfl, hlisted, hrest, hkeys⟩ := ih
    rcases @esphomeDevices_cons py int entry with ⟨hbad, hnil⟩ | ⟨hgood, hcons⟩
    · exact ⟨[], entry :: (listed ++ rest), rfl, by simp, by simpa using hbad, by rw [keysOf, hnil]; rfl⟩
    · refine ⟨entry :: listed, rest, rfl, List.forall_mem_cons.mpr ⟨hgood, hlisted⟩, hrest, ?_⟩
      rcases hcons with ⟨-, hskip⟩ | ⟨d, -, hadd⟩
      · rw [keysOf, hskip, keysOf, hskip]
        exact hkeys
      · rw [keysOf, hadd, keysOf, hadd, List.map_cons, List.map_cons]
        exact congrArg _ hkeys

lemma harvested_last (choice : String) {listed : List EsphomeEntry} (h : ∀ entry ∈ listed, ¬ entry.Unreadable int) :
    (∃ before entry after key, listed = before ++ entry :: after ∧ entry.Offers py int choice key ∧
      (∀ later ∈ after, ∀ key', ¬ later.Offers py int choice key') ∧
      (keysOf py int listed).reverse.lookup choice = some key) ∨
    (∀ entry ∈ listed, ∀ key', ¬ entry.Offers py int choice key') ∧
      (keysOf py int listed).reverse.lookup choice = none := by
  induction listed with
  | nil => exact .inr ⟨by simp, rfl⟩
  | cons entry listed ih =>
    obtain ⟨hentry, hlisted⟩ := List.forall_mem_cons.mp h
    rcases @esphomeDevices_cons py int entry with ⟨hbad, -⟩ | ⟨-, hcons⟩
    · exact absurd hbad hentry
    · rcases ih hlisted with ⟨before, last, after, key, rfl, hoffers, hafter, hlookup⟩ | ⟨hnone, hlookup⟩
      · refine .inl ⟨entry :: before, last, after, key, rfl, hoffers, hafter, ?_⟩
        rcases hcons with ⟨-, hskip⟩ | ⟨d, -, hadd⟩
        · rw [keysOf, hskip]
          exact hlookup
        · rw [keysOf, hadd, List.map_cons, List.reverse_cons, List.lookup_append]
          rw [keysOf] at hlookup
          rw [hlookup]
          rfl
      · rcases hcons with ⟨hno, hskip⟩ | ⟨d, hoffers, hadd⟩
        · refine .inr ⟨List.forall_mem_cons.mpr ⟨hno choice, hnone⟩, ?_⟩
          rw [keysOf, hskip]
          exact hlookup
        · have hrest : (keysOf py int (entry :: listed)).reverse.lookup choice =
              if choice = d.key py then some d.noisePsk else none := by
            rw [keysOf, hadd, List.map_cons, List.reverse_cons, List.lookup_append]
            rw [keysOf] at hlookup
            rw [hlookup, lookup_cons_if]
            rfl
          by_cases hc : choice = d.key py
          · rw [if_pos hc] at hrest
            exact .inl ⟨[], entry, listed, d.noisePsk, rfl, (hoffers choice _).mpr ⟨hc, rfl⟩, hnone, hrest⟩
          · rw [if_neg hc] at hrest
            refine .inr ⟨List.forall_mem_cons.mpr ⟨fun key hk => hc ((hoffers choice key).mp hk).1, hnone⟩, hrest⟩

lemma pskByHost_harvested (hass : FlowHass) (choice : String) :
    hass.Harvests py int choice (pskByHost py int hass choice) := by
  have hpsk (entries : List EsphomeEntry) (hdevices : listEsphomeDevices py int hass = esphomeDevices py int entries) :
      pskByHost py int hass choice = ((keysOf py int entries).reverse.lookup choice).getD (.str "") := by
    rw [pskByHost, EntryData.get, lookup_dictOf, hdevices]
    rfl
  cases hentries : hass.esphomeEntries with
  | error e =>
    have hnone : listEsphomeDevices py int hass = esphomeDevices py int [] := by
      rw [listEsphomeDevices, hentries]
      rfl
    refine ⟨[], by rw [FlowHass.Lists, hentries], .inr ⟨by simp, ?_⟩⟩
    rw [hpsk [] hnone]
    rfl
  | ok entries =>
    have hall : listEsphomeDevices py int hass = esphomeDevices py int entries := by
      rw [listEsphomeDevices, hentries]
    obtain ⟨listed, rest, rfl, hlisted, hrest, hkeys⟩ := @keysOf_listed py int entries
    rw [hpsk _ hall, hkeys]
    refine ⟨listed, by rw [FlowHass.Lists, hentries]; exact ⟨rest, rfl, hlisted, hrest⟩, ?_⟩
    rcases @harvested_last py int choice listed hlisted with
      ⟨before, entry, after, key, rfl, hoffers, hafter, hlookup⟩ | ⟨hnone, hlookup⟩
    · rw [hlookup]
      exact .inl ⟨before, entry, after, rfl, hoffers, hafter⟩
    · rw [hlookup]
      exact .inr ⟨hnone, rfl⟩

lemma orEmpty_harvested {hass : FlowHass} {choice : String} {key : Value} (h : hass.Harvests py int choice key) :
    orEmpty key = key := by
  obtain ⟨listed, -, ⟨before, entry, after, -, ⟨host, port, -, -, -, -, rfl⟩, -⟩ | ⟨-, rfl⟩⟩ := h
  · exact orEmpty_orEmpty _
  · rfl

end

lemma pickedPort_ok {int : Value → Result ℤ} {portStr : String} {port : ℤ} (h : pickedPort int portStr = .ok port) :
    portStr = "" ∧ port = 6053 ∨ portStr ≠ "" ∧ int (.str portStr) = .ok port := by
  rw [pickedPort] at h
  split at h
  · rename_i hne
    exact .inr ⟨hne, h⟩
  · rename_i he
    exact .inl ⟨not_not.mp he, (Except.ok.inj h).symm⟩

lemma toDisable_warned (hass hass' : FlowHass) (u w : EntryData) :
    toDisable [⟨hass, .user, u⟩, ⟨hass', .nativeWarn, w⟩] =
      if (w.get disableConflicts .null).truthy then (conflictingBluetoothEntries hass').map BluetoothEntry.entryId
      else [] := by
  have hget : w.get disableConflicts .null = (w.lookup "disable_conflicts").getD .null := rfl
  have hfree (entries : List BluetoothEntry) : (entries.filter fun e => e.disabledBy = none) =
      entries.filter fun e => e.disabledBy.isNone :=
    List.filter_congr fun e _ => by cases e.disabledBy <;> rfl
  rw [toDisable, hget, conflictingBluetoothEntries]
  cases w.lookup "disable_conflicts" with
  | none => rfl
  | some asked =>
    cases hass'.bluetoothEntries with
    | error e => simp
    | ok entries =>
      dsimp only
      rw [hfree]
      rfl

structure Surroundings.Willing (around : Surroundings) (int : Value → Result ℤ) : Prop where
  labels : around.ensureLabels = .ok ()
  imports : around.imported = .ok ()
  int : around.int = int
  constructs : ∀ server, around.construct server = .ok ()

def Server.hostless : Server → Bool
  | .esphome host _ _ _ => !host.truthy
  | .native _ _ | .usbSerial _ _ => false

/-- Setting up these data brings up that server, or nothing when it is an ESPHome bridge without a host. -/
def Describes (int : Value → Result ℤ) (data : EntryData) (server : Server) : Prop :=
  ∀ around : Surroundings, around.Willing int →
    around.serverOf data = .ok (if server.hostless then none else some server)

namespace ConfigFlow

variable {int : Value → Result ℤ} {flow : ConfigFlow}

lemma entryData_adapterMode (flow : ConfigFlow) : flow.entryData.item confAdapterMode = .ok flow.adapterMode := rfl

lemma entryData_usbPort (flow : ConfigFlow) (default : Value) :
    flow.entryData.get confUsbPort default = flow.usbPort := rfl

lemma entryData_esphomeHost (flow : ConfigFlow) (default : Value) :
    flow.entryData.get confEsphomeHost default = flow.esphomeHost := rfl

lemma entryData_esphomePort (flow : ConfigFlow) (default : Value) :
    flow.entryData.get confEsphomePort default = .int flow.esphomePort := rfl

lemma entryData_esphomeNoisePsk (flow : ConfigFlow) (default : Value) :
    flow.entryData.get confEsphomeNoisePsk default = flow.esphomeNoisePsk := rfl

lemma entryData_deviceName (flow : ConfigFlow) (default : Value) :
    flow.entryData.get confDeviceName default = flow.deviceName := rfl

lemma entryData_passcode (flow : ConfigFlow) (default : Value) :
    flow.entryData.get confPasscode default = .int flow.passcode.toNat := rfl

lemma describes_native (h : flow.adapterMode = .str adapterModeNative) :
    Describes int flow.entryData (.native flow.deviceName (.int flow.passcode.toNat)) := by
  intro around ha
  simp only [Surroundings.serverOf, ha.labels, ha.imports, ha.constructs, ok_bind, entryData_adapterMode, h,
    entryData_deviceName, entryData_passcode]
  rfl

lemma describes_usbSerial (h : flow.adapterMode = .str adapterModeEsp32) :
    Describes int flow.entryData (.usbSerial flow.usbPort (.int flow.passcode.toNat)) := by
  intro around ha
  have hnative : equalsStr (.str adapterModeEsp32) adapterModeNative = false := by decide
  have hesphome : equalsStr (.str adapterModeEsp32) adapterModeEsphome = false := by decide
  simp only [Surroundings.serverOf, ha.labels, ha.imports, ha.constructs, ok_bind, entryData_adapterMode, h,
    entryData_usbPort, entryData_passcode, hnative, hesphome, Bool.false_eq_true, if_false]
  rfl

lemma describes_esphome (hint : ∀ n, int (.int n) = .ok n) (h : flow.adapterMode = .str adapterModeEsphome) :
    Describes int flow.entryData
      (.esphome flow.esphomeHost flow.esphomePort (.int flow.passcode.toNat) (orEmpty flow.esphomeNoisePsk)) := by
  intro around ha
  have hnative : equalsStr (.str adapterModeEsphome) adapterModeNative = false := by decide
  have hesphome : equalsStr (.str adapterModeEsphome) adapterModeEsphome = true := by decide
  simp only [Surroundings.serverOf, ha.labels, ha.imports, ha.constructs, ha.int, hint, ok_bind, entryData_adapterMode,
    h, entryData_esphomeHost, entryData_esphomePort, entryData_esphomeNoisePsk, entryData_passcode, hnative, hesphome,
    Bool.false_eq_true, if_false, if_true]
  by_cases hhost : (!flow.esphomeHost.truthy) = true
  · exact (if_pos hhost).trans (congrArg Except.ok (if_pos hhost).symm)
  · exact (if_neg hhost).trans (congrArg Except.ok (if_neg hhost).symm)

end ConfigFlow

/-! ### What each submission leads to -/

structure Opened (passcode : UInt32) (u : EntryData) (mode : String) (flow : ConfigFlow) : Prop where
  picked : u.lookup confAdapterMode = some (.str mode)
  adapterMode : flow.adapterMode = .str mode
  deviceName : flow.deviceName = deviceNameOf u
  passcode : flow.passcode = passcode
  disabled : flow.disabled = []

inductive Situation (py : Library) (passcode : UInt32) : ConfigFlow → Form → List Answer → Prop
  | asked {flow : ConfigFlow} (hp : flow.passcode = passcode) (hd : flow.disabled = []) :
    Situation py passcode flow userForm []
  | ports {hass : FlowHass} {u : EntryData} {flow : ConfigFlow} (h : Opened passcode u adapterModeEsp32 flow)
      (ports : List SerialPort) : Situation py passcode flow (esp32Form ports) [⟨hass, .user, u⟩]
  | typingPort {hass hass' : FlowHass} {u e : EntryData} {flow : ConfigFlow}
      (h : Opened passcode u adapterModeEsp32 flow) (he : e.lookup confUsbPort = some (.str manualPortSentinel)) :
    Situation py passcode flow esp32ManualForm [⟨hass, .user, u⟩, ⟨hass', .esp32, e⟩]
  | devices {hass : FlowHass} {u : EntryData} {flow : ConfigFlow} (h : Opened passcode u adapterModeEsphome flow)
      (devices : List Device) : Situation py passcode flow (esphomeForm py devices) [⟨hass, .user, u⟩]
  | typingDevice {hass hass' : FlowHass} {u e : EntryData} {flow : ConfigFlow}
      (h : Opened passcode u adapterModeEsphome flow)
      (he : e.lookup confEsphomeHost = some (.str manualPortSentinel)) :
    Situation py passcode flow esphomeManualForm [⟨hass, .user, u⟩, ⟨hass', .esphome, e⟩]
  | warned {hass : FlowHass} {u : EntryData} {flow : ConfigFlow} (h : Opened passcode u adapterModeNative flow)
      (conflicts : List BluetoothEntry) : Situation py passcode flow (nativeWarnForm conflicts) [⟨hass, .user, u⟩]

variable (py : Library) (int : Value → Result ℤ) (passcode : UInt32)

/-- Where a step may leave the flow; `answers'` also counts the answer that the step was called with. -/
def Leads (form : Form) (answers answers' : List Answer) : EStateM.Result PyError ConfigFlow FlowResult → Prop
  | .ok (.form form') flow => Situation py passcode flow form' answers'
  | .ok (.createEntry _ data) flow => flow.disabled = toDisable answers' ∧
    ∃ server, Chosen py int (.int passcode.toNat) answers' server ∧ Describes int data server
  | .error _ flow => Situation py passcode flow form answers

variable {py int passcode} {hass : FlowHass} {form : Form} {answers answers' : List Answer} {flow : ConfigFlow}

lemma equalsStr_str (s t : String) : equalsStr (.str s) t = decide (s = t) := by
  rw [equalsStr]
  rfl

lemma item_eq {input : EntryData} {key : String} {v : Value} (h : input.lookup key = some v) :
    input.item key = .ok v := by
  rw [EntryData.item, h]

lemma get_eq {input : EntryData} {key : String} {v : Value} (h : input.lookup key = some v) (default : Value) :
    input.get key default = v := by
  rw [EntryData.get, h]
  rfl

lemma stepEsp32Manual_leads {hass hass' hass'' : FlowHass} {u e m : EntryData}
    (h : Opened passcode u adapterModeEsp32 flow) (he : e.lookup confUsbPort = some (.str manualPortSentinel))
    (hm : esp32ManualForm.Accepts m) :
    Leads py int passcode form answers [⟨hass, .user, u⟩, ⟨hass', .esp32, e⟩, ⟨hass'', .esp32Manual, m⟩]
      (stepEsp32Manual py (some m) flow) := by
  obtain ⟨v, hv, path, rfl⟩ := hm _ List.mem_cons_self
  rw [stepEsp32Manual, get_eq hv]
  refine ⟨h.disabled, _, .typedPort h.picked he hv, ?_⟩
  rw [← h.passcode]
  exact @ConfigFlow.describes_usbSerial int { flow with usbPort := .str path } h.adapterMode

lemma stepEsp32_leads {hass hass' : FlowHass} {u e : EntryData} (h : Opened passcode u adapterModeEsp32 flow)
    {ports : List SerialPort} (he : (esp32Form ports).Accepts e) :
    Leads py int passcode form answers [⟨hass, .user, u⟩, ⟨hass', .esp32, e⟩] (stepEsp32 py hass' (some e) flow) := by
  obtain ⟨v, hv, path, -, rfl⟩ := he _ List.mem_cons_self
  rw [stepEsp32, item_eq hv]
  change Leads py int passcode _ _ _ ((if equalsStr (.str path) manualPortSentinel then _ else _ : Flow _) flow)
  rw [equalsStr_str]
  by_cases hp : path = manualPortSentinel
  · rw [if_pos (decide_eq_true hp)]
    exact .typingPort h (hp ▸ hv)
  · rw [if_neg (by simpa using hp)]
    refine ⟨h.disabled, _, .port h.picked hv hp, ?_⟩
    rw [← h.passcode]
    exact @ConfigFlow.describes_usbSerial int { flow with usbPort := .str path } h.adapterMode

lemma stepEsphomeManual_leads (hint : ∀ n, int (.int n) = .ok n) {hass hass' hass'' : FlowHass} {u e m : EntryData}
    (h : Opened passcode u adapterModeEsphome flow) (he : e.lookup confEsphomeHost = some (.str manualPortSentinel))
    (hm : esphomeManualForm.Accepts m) : Leads py int passcode form answers
      [⟨hass, .user, u⟩, ⟨hass', .esphome, e⟩, ⟨hass'', .esphomeManual, m⟩]
      (stepEsphomeManual py int (some m) flow) := by
  obtain ⟨v, hv, host, rfl⟩ := hm _ List.mem_cons_self
  obtain ⟨v', hv', port, rfl, hrange⟩ := hm _ (List.mem_cons_of_mem _ List.mem_cons_self)
  obtain ⟨v'', hv'', psk, rfl⟩ := hm _ (List.mem_cons_of_mem _ (List.mem_cons_of_mem _ List.mem_cons_self))
  rw [stepEsphomeManual, item_eq hv, get_eq hv', get_eq hv'', hint]
  refine ⟨h.disabled, _, .typedDevice h.picked he hv hv' hv'' hrange, ?_⟩
  rw [← h.passcode]
  exact @ConfigFlow.describes_esphome int { flow with
    esphomeHost := .str (strip host), esphomePort := port, esphomeNoisePsk := .str (strip psk) } hint h.adapterMode

lemma stepEsphome_leads (hint : ∀ n, int (.int n) = .ok n) {hass hass' : FlowHass} {u e : EntryData}
    (h : Opened passcode u adapterModeEsphome flow) {devices : List Device} (he : (esphomeForm py devices).Accepts e) :
    Leads py int passcode (esphomeForm py devices) [⟨hass, .user, u⟩] [⟨hass, .user, u⟩, ⟨hass', .esphome, e⟩]
      (stepEsphome py int hass' (some e) flow) := by
  obtain ⟨v, hv, choice, -, rfl⟩ := he _ List.mem_cons_self
  rw [stepEsphome, item_eq hv]
  change Leads py int passcode _ _ _ ((if equalsStr (.str choice) manualPortSentinel then _ else _ : Flow _) flow)
  rw [equalsStr_str]
  by_cases hc : choice = manualPortSentinel
  · rw [if_pos (decide_eq_true hc)]
    exact .typingDevice h (hc ▸ hv)
  · rw [if_neg (by simpa using hc)]
    let opened : ConfigFlow := { flow with esphomeHost := .str (partition '|' choice).1 }
    change Leads py int passcode _ _ _ ((Flow.lift (pickedPort int (partition '|' choice).2) >>= fun port => do
      modify fun self => { self with esphomePort := port }
      modify fun self => { self with esphomeNoisePsk := pskByHost py int hass' choice }
      finish py : Flow _) opened)
    cases hp : pickedPort int (partition '|' choice).2 with
    | error err =>
      have hopened : Opened passcode u adapterModeEsphome opened :=
        ⟨h.picked, h.adapterMode, h.deviceName, h.passcode, h.disabled⟩
      exact .devices hopened devices
    | ok port =>
      obtain ⟨hbar, hsplit⟩ := partition_split '|' choice
      have hkey := @pskByHost_harvested py int hass' choice
      refine ⟨h.disabled, _, .device h.picked hv hc hbar hsplit (pickedPort_ok hp) hkey, ?_⟩
      have hdescribes := @ConfigFlow.describes_esphome int { opened with
        esphomePort := port, esphomeNoisePsk := pskByHost py int hass' choice } hint h.adapterMode
      change Describes int _ (.esphome _ _ _ (orEmpty (pskByHost py int hass' choice))) at hdescribes
      rw [orEmpty_harvested hkey] at hdescribes
      rw [← h.passcode]
      exact hdescribes

lemma disable_kept (hass : FlowHass) (conflicts : List BluetoothEntry) : ∀ flow : ConfigFlow,
    disable hass conflicts flow =
      .ok () { flow with disabled := flow.disabled ++ conflicts.map BluetoothEntry.entryId } := by
  induction conflicts with
  | nil =>
    intro flow
    rw [List.map_nil, List.append_nil]
    rfl
  | cons entry conflicts ih =>
    intro flow
    have hrest := ih { flow with disabled := flow.disabled ++ [entry.entryId] }
    rw [List.map_cons, List.append_cons, disable, ← hrest]
    cases hset : hass.setDisabledBy entry.entryId with
    | error err => rfl
    | ok => rfl

lemma stepNativeWarn_leads {hass hass' : FlowHass} {u w : EntryData} (h : Opened passcode u adapterModeNative flow) :
    Leads py int passcode form answers [⟨hass, .user, u⟩, ⟨hass', .nativeWarn, w⟩]
      (stepNativeWarn py hass' (some w) flow) := by
  have hfinish {disabled : List String} (hd : disabled = toDisable [⟨hass, .user, u⟩, ⟨hass', .nativeWarn, w⟩]) :
      Leads py int passcode form answers [⟨hass, .user, u⟩, ⟨hass', .nativeWarn, w⟩]
        (finish py { flow with disabled }) := by
    refine ⟨hd, _, .warned h.picked, ?_⟩
    rw [← h.passcode, ← h.deviceName]
    exact @ConfigFlow.describes_native int { flow with disabled } h.adapterMode
  rw [stepNativeWarn]
  dsimp only
  split
  · rename_i hasked
    change Leads py int passcode form answers _ (EStateM.bind (disable _ _) (fun _ => finish py) flow)
    rw [EStateM.bind, disable_kept]
    refine hfinish ?_
    rw [toDisable_warned, if_pos (Bool.and_eq_true_iff.mp hasked).1, h.disabled, List.nil_append]
  · rename_i hquiet
    refine @hfinish flow.disabled ?_
    rw [h.disabled, toDisable_warned]
    split
    · rename_i hasked
      rw [hasked, Bool.true_and, Bool.not_eq_true', Bool.not_eq_false, List.isEmpty_iff] at hquiet
      rw [hquiet]
      rfl
    · rfl

lemma offered_modes {u : EntryData} (hu : userForm.Accepts u) : ∃ mode, u.lookup confAdapterMode = some (.str mode) ∧
    (mode = adapterModeEsp32 ∨ mode = adapterModeEsphome ∨ mode = adapterModeNative) := by
  obtain ⟨v, hv, mode, hmode, rfl⟩ := hu _ List.mem_cons_self
  exact ⟨mode, hv, by simpa using hmode⟩

lemma stepUser_leads {hass : FlowHass} {u : EntryData} (hp : flow.passcode = passcode) (hd : flow.disabled = [])
    (hu : userForm.Accepts u) :
    Leads py int passcode userForm [] [⟨hass, .user, u⟩] (stepUser py int hass (some u) flow) := by
  obtain ⟨mode, hv, hmode⟩ := offered_modes hu
  let opened : ConfigFlow := { flow with adapterMode := .str mode, deviceName := deviceNameOf u }
  have hopened : Opened passcode u mode opened := ⟨hv, rfl, rfl, hp, hd⟩
  rw [stepUser, item_eq hv]
  change Leads py int passcode _ _ _ ((if equalsStr (.str mode) adapterModeEsp32 then stepEsp32 py hass none
    else if equalsStr (.str mode) adapterModeEsphome then stepEsphome py int hass none
    else stepNativeWarn py hass none) opened)
  rw [equalsStr_str, equalsStr_str]
  rcases hmode with rfl | rfl | rfl
  · rw [if_pos (by decide), stepEsp32]
    cases hports : hass.serialPorts with
    | error err => exact .asked hp hd
    | ok ports => exact .ports hopened ports
  · rw [if_neg (by decide), if_pos (by decide)]
    exact .devices hopened _
  · rw [if_neg (by decide), if_neg (by decide), stepNativeWarn]
    cases hconflicts : conflictingBluetoothEntries hass with
    | cons conflict conflicts => exact .warned hopened _
    | nil =>
      refine ⟨hd, _, .native hv, ?_⟩
      rw [← hp]
      exact @ConfigFlow.describes_native int opened rfl

lemma none_leads (h : Situation py passcode flow form answers) :
    Leads py int passcode form answers answers (stepOf py int hass form.stepId none flow) := by
  cases h with
  | asked hp hd => exact .asked hp hd
  | ports h ports =>
    change Leads py int passcode _ _ _ (stepEsp32 py hass none flow)
    rw [stepEsp32]
    cases hass.serialPorts with
    | error err => exact .ports h ports
    | ok ports => exact .ports h ports
  | typingPort h he => exact .typingPort h he
  | devices h devices => exact .devices h _
  | typingDevice h he => exact .typingDevice h he
  | warned h conflicts =>
    change Leads py int passcode _ _ _ (stepNativeWarn py hass none flow)
    rw [stepNativeWarn]
    cases conflictingBluetoothEntries hass with
    | nil =>
      refine ⟨h.disabled, _, .native h.picked, ?_⟩
      rw [← h.passcode, ← h.deviceName]
      exact ConfigFlow.describes_native h.adapterMode
    | cons conflict conflicts => exact .warned h _

lemma some_leads (hint : ∀ n, int (.int n) = .ok n) (h : Situation py passcode flow form answers) {input : EntryData}
    (hi : form.Accepts input) : Leads py int passcode form answers (answers ++ [⟨hass, form.stepId, input⟩])
      (stepOf py int hass form.stepId (some input) flow) := by
  cases h with
  | asked hp hd => exact stepUser_leads hp hd hi
  | ports h ports => exact stepEsp32_leads h hi
  | typingPort h he => exact stepEsp32Manual_leads h he hi
  | devices h devices => exact stepEsphome_leads hint h hi
  | typingDevice h he => exact stepEsphomeManual_leads hint h he hi
  | warned h conflicts => exact stepNativeWarn_leads h

/-! ### Runs -/

lemma Chosen.length_le {passcode : Value} {server : Server} (h : Chosen py int passcode answers server) :
    answers.length ≤ 3 := by
  cases h <;> simp

lemma Situation.length_lt (h : Situation py passcode flow form answers) : answers.length < 3 := by
  cases h <;> simp

namespace Wizard

variable (py int passcode) in
def Sound (s : Wizard) : Prop :=
  match s.created with
  | none => Situation py passcode s.flow s.form s.answers
  | some (_, data) => s.flow.disabled = toDisable s.answers ∧
    ∃ server, Chosen py int (.int passcode.toNat) s.answers server ∧ Describes int data server

lemma start_sound : (start passcode).Sound py int passcode := .asked rfl rfl

lemma step_sound (hint : ∀ n, int (.int n) = .ok n) (s : Wizard) (i : WizardInput) (h : s.Sound py int passcode)
    (hi : s.Accepting i) : (s.step py int i).Sound py int passcode := by
  obtain ⟨flow, form, created, answers⟩ := s
  cases created with
  | some created => exact h
  | none =>
    have hleads : Leads py int passcode form answers (Wizard.answered ⟨flow, form, none, answers⟩ i)
        (stepOf py int i.hass form.stepId i.userInput flow) := by
      obtain ⟨hass, userInput⟩ := i
      cases userInput with
      | none =>
        rw [answered, Option.map_none, Option.toList_none, List.append_nil]
        exact none_leads h
      | some input => exact some_leads hint h (hi input rfl)
    cases hstep : stepOf py int i.hass form.stepId i.userInput flow with
    | error err flow' =>
      rw [hstep] at hleads
      rw [step_error rfl hstep]
      exact hleads
    | ok result flow' =>
      rw [hstep] at hleads
      cases result with
      | form form' =>
        rw [step_form rfl hstep]
        exact hleads
      | createEntry title data =>
        rw [step_createEntry rfl hstep]
        exact hleads

theorem flow_sets_up (hint : ∀ n, int (.int n) = .ok n) {inputs : List WizardInput}
    (hi : Admits (step py int) Accepting (start passcode) inputs) :
    (∀ title data, ((start passcode).run py int inputs).created = some (title, data) →
      ((start passcode).run py int inputs).flow.disabled = toDisable ((start passcode).run py int inputs).answers ∧
      ∃ server, Chosen py int (.int passcode.toNat) ((start passcode).run py int inputs).answers server ∧
        Describes int data server) ∧
      ((start passcode).run py int inputs).answers.length ≤ 3 ∧
      (((start passcode).run py int inputs).answers.length = 3 →
        ((start passcode).run py int inputs).created.isSome) := by
  have h : ((start passcode).run py int inputs).Sound py int passcode :=
    hi.invariant (Sound py int passcode) (step_sound hint) start_sound
  rw [Sound] at h
  cases hcreated : ((start passcode).run py int inputs).created with
  | none =>
    rw [hcreated] at h
    have hlt := Situation.length_lt h
    exact ⟨fun _ _ hc => (by cases hc), hlt.le, fun he => absurd he hlt.ne⟩
  | some created =>
    rw [hcreated] at h
    obtain ⟨hdisabled, server, hchosen, hdescribes⟩ := h
    refine ⟨fun title data hc => ?_, hchosen.length_le, fun _ => rfl⟩
    obtain rfl := Option.some.inj hc
    exact ⟨hdisabled, server, hchosen, hdescribes⟩

def oneGateway : FlowHass := ⟨.ok [⟨"/dev/ttyUSB0", "CP2102", 50⟩], .ok [], .ok [], fun _ => .ok ()⟩

def plainInt : Value → Result ℤ
  | .int n => .ok n
  | v => .error ⟨.typeError, s!"int() argument must be a string or a real number, not '{v.typeName}'"⟩

def gatewayPicked : List WizardInput :=
  [⟨oneGateway, some [(confAdapterMode, .str adapterModeEsp32), (confDeviceName, .str "Home")]⟩,
    ⟨oneGateway, some [(confUsbPort, .str "/dev/ttyUSB0")]⟩]

theorem flow_sets_up_gateway :
    (∀ title data, ((start 7).run .ascii plainInt gatewayPicked).created = some (title, data) →
      ((start 7).run .ascii plainInt gatewayPicked).flow.disabled =
          toDisable ((start 7).run .ascii plainInt gatewayPicked).answers ∧
        ∃ server, Chosen .ascii plainInt (.int (7 : UInt32).toNat)
            ((start 7).run .ascii plainInt gatewayPicked).answers server ∧ Describes plainInt data server) ∧
      ((start 7).run .ascii plainInt gatewayPicked).answers.length ≤ 3 ∧
      (((start 7).run .ascii plainInt gatewayPicked).answers.length = 3 →
        ((start 7).run .ascii plainInt gatewayPicked).created.isSome) ∧
      ((start 7).run .ascii plainInt gatewayPicked).created.isSome := by
  have haccepted : Admits (step .ascii plainInt) Accepting (start 7) gatewayPicked := by
    refine ⟨?_, ?_, trivial⟩
    · intro input hinput
      obtain rfl := Option.some.inj hinput
      intro field hfield
      rcases List.mem_cons.mp hfield with rfl | hfield
      · exact ⟨.str adapterModeEsp32, rfl, adapterModeEsp32, List.mem_cons_self, rfl⟩
      · obtain rfl := List.mem_singleton.mp hfield
        exact ⟨.str "Home", rfl, "Home", rfl⟩
    · intro input hinput
      obtain rfl := Option.some.inj hinput
      intro field hfield
      obtain rfl := List.mem_singleton.mp hfield
      exact ⟨.str "/dev/ttyUSB0", rfl, "/dev/ttyUSB0", List.mem_cons_self, rfl⟩
  obtain ⟨hsound, hlength, hthird⟩ := flow_sets_up (fun n => rfl) haccepted
  exact ⟨hsound, hlength, hthird, rfl⟩

end Wizard

end HaBluetooth.Integration
