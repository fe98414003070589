import HaBluetooth.Integration.FailedSetup
import HaBluetooth.Support.HandleTable
import HaBluetooth.Support.Refinement
import Mathlib.Data.List.TakeWhile

/-! The config entries over a whole run of Home Assistant: which bridges run, which buttons, listeners and views are
registered, after any order of setups, changes, reloads, unloads and removals. -/

namespace HaBluetooth.Integration

open Python Support

def adapterModeEsp32 : String := "esp32"

structure ConfigEntry where
  version : ℕ
  data : EntryData

/-- The entries from before the field existed are all ESP32 ones. -/
def migrateEntry (entry : ConfigEntry) : ConfigEntry :=
  match entry.data.lookup confAdapterMode with
  | some _ => entry
  | none => { entry with data := Value.insertEntry confAdapterMode (.str adapterModeEsp32) entry.data }

def otaButtons (data : EntryData) (servers : List (ℕ × Server)) : Result (List ℕ) :=
  if equalsStr (data.get confAdapterMode .null) adapterModeEsp32 then
    match servers with
    | [] => .error ⟨.other "IndexError", "list index out of range"⟩
    | (n, _) :: _ => .ok [n]
  else .ok []

inductive EntryState
  | notLoaded
  | loaded
  | setupError
  | failedUnload
  deriving DecidableEq, Repr

def apiViews : List View := [.setupQr, .status, .config]

/-- The views that are registered before the first one that cannot be. -/
def Surroundings.registered (around : Surroundings) : List View :=
  apiViews.takeWhile fun view => (around.registerView view).isOk

def Surroundings.forwards (around : Surroundings) (data : EntryData) : Bool :=
  match around.serverOf data, around.forward with
  | .ok (some _), .ok () => true
  | _, _ => false

def succeeds : Result Bool → Bool
  | .ok ok => ok
  | .error _ => false

lemma succeeds_eq_false {result : Result Bool} (h : result ≠ .ok true) : succeeds result = false := by
  cases result with
  | error e => rfl
  | ok ok =>
    cases ok with
    | true => exact (h rfl).elim
    | false => rfl

structure Unloading where
  platforms : Result Unit
  ends : ℕ → Bool

structure Entries where
  installed : Installed
  entries : String → Option ConfigEntry
  states : String → EntryState
  -- the update listeners of an entry, and the bridges behind its buttons
  listeners : String → ℕ
  buttons : String → List ℕ
  -- the reloads that update listeners have asked for
  reloads : List String
  views : List View

/-- What Home Assistant is asked to do, and how the steps outside the integration go. -/
inductive EntriesInput
  | add (entryId : String) (entry : ConfigEntry)
  | setup (entryId : String) (around : Surroundings)
  | unload (entryId : String) (how : Unloading)
  | update (entryId : String) (data : EntryData)
  | reload (how : Unloading) (around : Surroundings)
  | remove (entryId : String) (how : Unloading)

namespace Entries

def empty : Entries := ⟨.empty, fun _ => none, fun _ => .notLoaded, fun _ => 0, fun _ => [], [], []⟩

variable (s : Entries)

/-- `async_setup_entry` of the integration and then of its button platform, after the migration. -/
def setupWith (around : Surroundings) (entryId : String) (entry : ConfigEntry) : Entries :=
  let (result, installed) := s.installed.setupEntry around entryId entry.data
  let ok := succeeds result
  { s with
    installed
    entries := Function.update s.entries entryId (some entry)
    states := Function.update s.states entryId (if ok then .loaded else .setupError)
    listeners := Function.update s.listeners entryId (if ok then s.listeners entryId + 1 else 0)
    buttons := Function.update s.buttons entryId (
      if around.forwards entry.data then
        match otaButtons entry.data (installed.servers entryId) with
        | .ok buttons => buttons
        | .error _ => []
      else s.buttons entryId)
    views := s.views ++ if around.forwards entry.data && !s.installed.viewsRegistered then around.registered else [] }

def setup (around : Surroundings) (entryId : String) : Entries :=
  match s.entries entryId, s.states entryId with
  | some entry, .notLoaded | some entry, .setupError =>
    s.setupWith around entryId (if entry.version = 2 then entry else migrateEntry entry)
  | _, _ => s

/-- Whether the entry is unloaded afterwards, so that it can be set up again. -/
def unload (how : Unloading) (entryId : String) : Bool × Entries :=
  match s.states entryId with
  | .loaded =>
    let (result, installed) := s.installed.unloadEntry how.platforms how.ends entryId
    if succeeds result then
      (true, { s with
        installed
        states := Function.update s.states entryId .notLoaded
        listeners := Function.update s.listeners entryId 0
        buttons := Function.update s.buttons entryId [] })
    else (false, { s with installed, states := Function.update s.states entryId .failedUnload })
  | .failedUnload => (false, s)
  | .notLoaded | .setupError => (true, { s with states := Function.update s.states entryId .notLoaded })

def step : EntriesInput → Entries
  | .add entryId entry =>
    match s.entries entryId with
    | some _ => s
    | none => { s with entries := Function.update s.entries entryId (some entry) }
  | .setup entryId around => s.setup around entryId
  | .unload entryId how => (s.unload how entryId).2
  | .update entryId data =>
    match s.entries entryId with
    | none => s
    | some entry => { s with
        entries := Function.update s.entries entryId (some { entry with data })
        reloads := s.reloads ++ List.replicate (s.listeners entryId) entryId }
  | .reload how around =>
    match s.reloads with
    | [] => s
    | entryId :: reloads =>
      let (unloaded, s) := { s with reloads }.unload how entryId
      if unloaded then s.setup around entryId else s
  | .remove entryId how =>
    let s := (s.unload how entryId).2
    { s with entries := Function.update s.entries entryId none }

def run (inputs : List EntriesInput) : Entries := inputs.foldl step s

end Entries

/-! ### Runs in which every step outside the integration goes well -/

structure Surroundings.Flawless (int : Value → Result ℤ) (around : Surroundings) (s : Installed) : Prop
    extends around.Completes s where
  starts : around.start = .returned
  int : around.int = int

structure Unloading.Flawless (how : Unloading) : Prop where
  unloads : how.platforms = .ok ()
  stops : ∀ n, how.ends n = true

/-- Setting up may still find nothing to start: no host, no such module, a constructor that raises. -/
def Entries.Flawless (int : Value → Result ℤ) (s : Entries) : EntriesInput → Prop
  | .add _ _ | .update _ _ => True
  | .setup _ around => around.Flawless int s.installed
  | .unload _ how | .remove _ how => how.Flawless
  | .reload how around => how.Flawless ∧ around.Flawless int s.installed

namespace Installed

variable {int : Value → Result ℤ} {s : Installed} {around : Surroundings} (entryId : String) {data : EntryData}

lemma setupEntry_flawless (h : around.Flawless int s) {server : Server}
    (hserver : around.serverOf data = .ok (some server)) : s.setupEntry around entryId data =
      (.ok true, ⟨s.bridges.issue, Function.update s.servers entryId [(s.bridges.issued, server)], true⟩) := by
  have hviews : (if s.viewsRegistered then .ok () else around.registerViews : Result Unit) = .ok () :=
    (around.views_step s.viewsRegistered).mpr h.registers
  rw [setupEntry, hserver]
  dsimp only
  rw [h.forwards]
  dsimp only
  have hflag : (s.startServer around.start entryId server).viewsRegistered = s.viewsRegistered := rfl
  rw [hflag, hviews]
  dsimp only
  rw [h.listens]
  dsimp only
  rw [startServer, h.starts]
  rfl

lemma unloadEntry_flawless {how : Unloading} (h : how.Flawless) {n : ℕ} {server : Server}
    (hserver : s.servers entryId = [(n, server)]) : s.unloadEntry how.platforms how.ends entryId =
      (.ok true, { s with bridges := s.bridges.close n, servers := Function.update s.servers entryId [] }) := by
  rw [unloadEntry.eq_def, h.unloads, hserver]
  change (_, { s with bridges := if how.ends n then s.bridges.close n else s.bridges, servers := _ }) = _
  rw [h.stops, if_pos rfl]

end Installed

lemma Surroundings.Flawless.registered {int : Value → Result ℤ} {around : Surroundings} {s : Installed}
    (h : around.Flawless int s) (hs : s.viewsRegistered = false) : around.registered = apiViews := by
  have hok (view : View) : (around.registerView view).isOk = true := by
    rw [h.registers hs view]
    rfl
  rw [Surroundings.registered, List.takeWhile_eq_self_iff.mpr fun view _ => hok view]

namespace Entries

def holders (servers : String → List (ℕ × Server)) (entryId : String) : Option ℕ := (servers entryId).head?.map Prod.fst

lemma holders_update (servers : String → List (ℕ × Server)) (entryId : String) (l : List (ℕ × Server)) :
    holders (Function.update servers entryId l) = Function.update (holders servers) entryId (l.head?.map Prod.fst) := by
  funext other
  rw [holders, Function.update_apply, Function.update_apply]
  split
  · rfl
  · rfl

def table (s : Entries) : HandleTable String := ⟨s.installed.bridges, holders s.installed.servers⟩

/-- The server that the data of an entry ask for; `int` is Python's. -/
inductive Built (int : Value → Result ℤ) (data : EntryData) : Server → Prop
  | native (hmode : data.lookup "adapter_mode" = some (.str "native")) :
    Built int data (.native ((data.lookup "device_name").getD (.str "Homeassistant_Home"))
      ((data.lookup "passcode").getD (.int 0)))
  | esphome {host key : Value} {port : ℤ} (hmode : data.lookup "adapter_mode" = some (.str "esphome"))
      (hhost : data.lookup "esphome_host" = some host) (ht : host.truthy = true)
      (hport : int ((data.lookup "esphome_port").getD (.int 6053)) = .ok port)
      (hkey : (data.lookup "esphome_noise_psk").getD (.str "") = key) :
    Built int data (.esphome host port ((data.lookup "passcode").getD (.int 0)) (if key.truthy then key else .str ""))
  | usbSerial {mode : Value} (hmode : data.lookup "adapter_mode" = some mode) (hn : mode ≠ .str "native")
      (he : mode ≠ .str "esphome") :
    Built int data (.usbSerial ((data.lookup "usb_port").getD (.str "/dev/ttyACM0"))
      ((data.lookup "passcode").getD (.int 0)))

lemma equalsStr_iff {v : Value} {s : String} : equalsStr v s = true ↔ v = .str s := by
  cases v <;> simp [equalsStr]

lemma lookup_of_truthy {data : EntryData} {key : String} (h : (data.get key (.str "")).truthy = true) :
    data.lookup key = some (data.get key (.str "")) := by
  rw [EntryData.get] at h ⊢
  cases hlookup : data.lookup key with
  | none =>
    rw [hlookup] at h
    cases h
  | some v => rfl

lemma serverOf_built {around : Surroundings} {data : EntryData} {server : Server}
    (h : around.serverOf data = .ok (some server)) : Built around.int data server := by
  obtain ⟨-, -, h⟩ := bind_eq_ok.mp h
  obtain ⟨mode, hitem, h⟩ := bind_eq_ok.mp h
  have hmode : data.lookup "adapter_mode" = some mode := by
    rw [EntryData.item] at hitem
    split at hitem
    · rename_i v hv
      obtain rfl := Except.ok.inj hitem
      exact hv
    · cases hitem
  dsimp only at h
  split at h
  · rename_i hnative
    obtain ⟨-, -, h⟩ := bind_eq_ok.mp h
    obtain ⟨-, -, h⟩ := bind_eq_ok.mp h
    obtain rfl := Option.some.inj (Except.ok.inj h)
    exact .native (hmode.trans (congrArg some (equalsStr_iff.mp hnative)))
  · rename_i hnative
    split at h
    · rename_i hesphome
      obtain ⟨-, -, h⟩ := bind_eq_ok.mp h
      obtain ⟨port, hport, h⟩ := bind_eq_ok.mp h
      split at h
      · cases h
      · rename_i hhost
        obtain ⟨-, -, h⟩ := bind_eq_ok.mp h
        obtain rfl := Option.some.inj (Except.ok.inj h)
        have ht : (data.get confEsphomeHost (.str "")).truthy = true := by simpa using hhost
        exact .esphome (hmode.trans (congrArg some (equalsStr_iff.mp hesphome))) (lookup_of_truthy ht) ht hport rfl
    · rename_i hesphome
      obtain ⟨-, -, h⟩ := bind_eq_ok.mp h
      obtain ⟨-, -, h⟩ := bind_eq_ok.mp h
      obtain rfl := Option.some.inj (Except.ok.inj h)
      exact .usbSerial hmode (fun hm => hnative (equalsStr_iff.mpr hm)) fun hm => hesphome (equalsStr_iff.mpr hm)

/-- One bridge with one listener; what the entry says is what runs, unless a reload is due. -/
def Bridged (int : Value → Result ℤ) (s : Entries) (entryId : String) : Prop :=
  ∃ entry n server, s.entries entryId = some entry ∧ s.installed.servers entryId = [(n, server)] ∧
    s.listeners entryId = 1 ∧ (∀ button ∈ s.buttons entryId, button = n) ∧
      (entryId ∈ s.reloads ∨ Built int entry.data server ∧
        (entry.data.lookup "adapter_mode" = some (.str "esp32") → s.buttons entryId = [n]) ∧
        (entry.data.lookup "adapter_mode" ≠ some (.str "esp32") → s.buttons entryId = []))

def Bare (s : Entries) (entryId : String) : Prop :=
  s.installed.servers entryId = [] ∧ s.listeners entryId = 0 ∧ s.buttons entryId = []

def SettledAt (int : Value → Result ℤ) (s : Entries) (entryId : String) : Prop :=
  (s.states entryId = .loaded → s.Bridged int entryId) ∧ (s.states entryId ≠ .loaded → s.Bare entryId)

structure Settled (int : Value → Result ℤ) (s : Entries) : Prop where
  exact : s.table.Exact
  entry : ∀ entryId, s.SettledAt int entryId
  views : s.views = if s.installed.viewsRegistered then apiViews else []

lemma empty_settled (int : Value → Result ℤ) : empty.Settled int where
  exact := HandleTable.empty_exact
  entry _ := ⟨fun h => (by cases h), fun _ => ⟨rfl, rfl, rfl⟩⟩
  views := rfl

structure Same (s s' : Entries) (entryId : String) : Prop where
  servers : s'.installed.servers entryId = s.installed.servers entryId
  entries : s'.entries entryId = s.entries entryId
  states : s'.states entryId = s.states entryId
  listeners : s'.listeners entryId = s.listeners entryId
  buttons : s'.buttons entryId = s.buttons entryId
  reloads : entryId ∈ s.reloads → entryId ∈ s'.reloads

variable {int : Value → Result ℤ} {s : Entries} {entryId : String}

lemma SettledAt.same {s' : Entries} (h : s.SettledAt int entryId) (hs : Same s s' entryId) :
    s'.SettledAt int entryId := by
  constructor
  · intro hl
    obtain ⟨entry, n, server, hentry, hserver, hlistener, hbuttons, hcurrent⟩ := h.1 (hs.states ▸ hl)
    refine ⟨entry, n, server, hs.entries.trans hentry, hs.servers.trans hserver, hs.listeners.trans hlistener, ?_, ?_⟩
    · rw [hs.buttons]
      exact hbuttons
    · rw [hs.buttons]
      exact hcurrent.imp_left hs.reloads
  · intro hl
    obtain ⟨hserver, hlistener, hbuttons⟩ := h.2 (hs.states ▸ hl)
    exact ⟨hs.servers.trans hserver, hs.listeners.trans hlistener, hs.buttons.trans hbuttons⟩

lemma otaButtons_own (data : EntryData) (n : ℕ) (server : Server) : ∃ buttons,
    otaButtons data [(n, server)] = .ok buttons ∧ (∀ button ∈ buttons, button = n) ∧
      (data.lookup "adapter_mode" = some (.str "esp32") → buttons = [n]) ∧
      (data.lookup "adapter_mode" ≠ some (.str "esp32") → buttons = []) := by
  have hmode : equalsStr (data.get confAdapterMode .null) adapterModeEsp32 = true ↔
      data.lookup "adapter_mode" = some (.str "esp32") := by
    rw [equalsStr_iff, EntryData.get]
    cases hlookup : data.lookup "adapter_mode" with
    | none => simp [confAdapterMode, hlookup]
    | some mode => simp [confAdapterMode, adapterModeEsp32, hlookup]
  rw [otaButtons]
  split
  · rename_i hesp
    exact ⟨[n], rfl, fun button hb => List.mem_singleton.mp hb, fun _ => rfl, fun hn => absurd (hmode.mp hesp) hn⟩
  · rename_i hother
    exact ⟨[], rfl, fun button hb => (List.not_mem_nil hb).elim, fun he => absurd (hmode.mpr he) hother, fun _ => rfl⟩

lemma setupWith_started_eq {around : Surroundings} (hf : around.Flawless int s.installed) {entry : ConfigEntry}
    {server : Server} (hserver : around.serverOf entry.data = .ok (some server)) {buttons : List ℕ}
    (hota : otaButtons entry.data [(s.installed.bridges.issued, server)] = .ok buttons) :
    s.setupWith around entryId entry =
      { installed := ⟨s.installed.bridges.issue,
          Function.update s.installed.servers entryId [(s.installed.bridges.issued, server)], true⟩
        entries := Function.update s.entries entryId (some entry)
        states := Function.update s.states entryId .loaded
        listeners := Function.update s.listeners entryId (s.listeners entryId + 1)
        buttons := Function.update s.buttons entryId buttons
        reloads := s.reloads
        views := s.views ++ if s.installed.viewsRegistered then [] else around.registered } := by
  have hforwards : around.forwards entry.data = true := by rw [Surroundings.forwards, hserver, hf.forwards]
  rw [setupWith, Installed.setupEntry_flawless entryId hf hserver]
  dsimp only
  rw [hforwards, Function.update_self, hota]
  cases s.installed.viewsRegistered <;> rfl

lemma setupWith_started (h : s.Settled int) (hstate : s.states entryId ≠ .loaded) {around : Surroundings}
    (hf : around.Flawless int s.installed) {entry : ConfigEntry} {server : Server}
    (hserver : around.serverOf entry.data = .ok (some server)) : (s.setupWith around entryId entry).Settled int := by
  obtain ⟨hnone, hlistener, hbuttons⟩ := (h.entry entryId).2 hstate
  obtain ⟨buttons, hota, hown, hbutton⟩ := otaButtons_own entry.data s.installed.bridges.issued server
  rw [setupWith_started_eq hf hserver hota]
  refine ⟨?_, fun other => ?_, ?_⟩
  · have hholder : s.table.holder entryId = none := by
      change (s.installed.servers entryId).head?.map Prod.fst = none
      rw [hnone]
      rfl
    rw [table]
    dsimp only
    rw [holders_update]
    exact h.exact.issue hholder
  · by_cases ho : other = entryId
    · subst ho
      constructor
      · intro _
        refine ⟨entry, s.installed.bridges.issued, server, Function.update_self .., Function.update_self .., ?_, ?_,
          .inr ⟨hf.int ▸ serverOf_built hserver, ?_⟩⟩
        · dsimp only
          rw [Function.update_self, hlistener]
        · dsimp only
          rw [Function.update_self]
          exact hown
        · dsimp only
          rw [Function.update_self]
          exact hbutton
      · intro hl
        exact (hl (Function.update_self ..)).elim
    · refine (h.entry other).same ⟨?_, ?_, ?_, ?_, ?_, id⟩
      all_goals exact Function.update_of_ne ho ..
  · dsimp only
    rw [h.views]
    cases hv : s.installed.viewsRegistered with
    | true => rfl
    | false => exact hf.registered hv

lemma setupWith_idle_eq {around : Surroundings} {entry : ConfigEntry}
    (hserver : ∀ server, around.serverOf entry.data ≠ .ok (some server)) :
    s.setupWith around entryId entry =
      { s with
        entries := Function.update s.entries entryId (some entry)
        states := Function.update s.states entryId .setupError
        listeners := Function.update s.listeners entryId 0 } := by
  obtain ⟨hfalse, hsame⟩ := s.installed.setupEntry_idle around entryId entry.data hserver
  have hforwards : around.forwards entry.data = false := by
    rw [Surroundings.forwards]
    split
    · rename_i server hs _
      exact (hserver server hs).elim
    · rfl
  rw [setupWith]
  cases hsetup : s.installed.setupEntry around entryId entry.data with
  | mk result installed =>
    rw [hsetup] at hfalse hsame
    obtain rfl : installed = s.installed := hsame
    dsimp only
    rw [hforwards, succeeds_eq_false hfalse]
    have hviews : s.views ++ (if (false && !s.installed.viewsRegistered) = true then around.registered else []) =
        s.views := List.append_nil _
    have hbuttons : Function.update s.buttons entryId (s.buttons entryId) = s.buttons := Function.update_eq_self ..
    rw [hviews]
    simp only [Bool.false_eq_true, if_false, hbuttons]

lemma setupWith_idle (h : s.Settled int) (hstate : s.states entryId ≠ .loaded) {around : Surroundings}
    {entry : ConfigEntry} (hserver : ∀ server, around.serverOf entry.data ≠ .ok (some server)) :
    (s.setupWith around entryId entry).Settled int := by
  obtain ⟨hnone, -, hbuttons⟩ := (h.entry entryId).2 hstate
  rw [setupWith_idle_eq hserver]
  refine ⟨h.exact, fun other => ?_, h.views⟩
  by_cases ho : other = entryId
  · subst ho
    constructor
    · intro hl
      cases (Function.update_self ..).symm.trans hl
    · exact fun _ => ⟨hnone, Function.update_self .., hbuttons⟩
  · refine (h.entry other).same ⟨rfl, ?_, ?_, ?_, rfl, id⟩
    all_goals exact Function.update_of_ne ho ..

lemma setup_settled (h : s.Settled int) {around : Surroundings} (hf : around.Flawless int s.installed) :
    (s.setup around entryId).Settled int := by
  have hwith (entry : ConfigEntry) (hstate : s.states entryId ≠ .loaded) :
      (s.setupWith around entryId entry).Settled int := by
    cases hserver : around.serverOf entry.data with
    | error e => exact setupWith_idle h hstate fun server hs => by cases hserver.symm.trans hs
    | ok chosen =>
      cases chosen with
      | none => exact setupWith_idle h hstate fun server hs => by cases hserver.symm.trans hs
      | some server => exact setupWith_started h hstate hf hserver
  rw [setup]
  split
  · rename_i hstate
    exact hwith _ (by rw [hstate]; decide)
  · rename_i hstate
    exact hwith _ (by rw [hstate]; decide)
  · exact h

lemma bare_settled (h : s.Settled int) (hstate : s.states entryId ≠ .loaded) {state : EntryState} (hs : state ≠ .loaded)
    {reloads : List String} (hr : ∀ other ≠ entryId, other ∈ s.reloads → other ∈ reloads) :
    Settled int { s with reloads, states := Function.update s.states entryId state } := by
  refine ⟨h.exact, fun other => ?_, h.views⟩
  by_cases ho : other = entryId
  · subst ho
    exact ⟨fun hl => (hs ((Function.update_self ..).symm.trans hl)).elim, fun _ => (h.entry other).2 hstate⟩
  · exact (h.entry other).same ⟨rfl, rfl, Function.update_of_ne ho .., rfl, rfl, hr other ho⟩

lemma unload_settled (h : s.Settled int) {how : Unloading} (hf : how.Flawless) {reloads : List String}
    (hr : ∀ other ≠ entryId, other ∈ s.reloads → other ∈ reloads) :
    ({ s with reloads }.unload how entryId).2.Settled int ∧
      ({ s with reloads }.unload how entryId).2.installed.viewsRegistered = s.installed.viewsRegistered ∧
      ({ s with reloads }.unload how entryId).2.states entryId ≠ .loaded := by
  rw [unload]
  dsimp only
  cases hstate : s.states entryId with
  | loaded =>
    obtain ⟨entry, n, server, -, hserver, -⟩ := (h.entry entryId).1 hstate
    dsimp only
    rw [Installed.unloadEntry_flawless entryId hf hserver, succeeds, if_pos rfl]
    have hother : Function.update s.states entryId .notLoaded entryId ≠ .loaded := by
      rw [Function.update_self]
      decide
    refine ⟨⟨?_, fun other => ?_, h.views⟩, rfl, hother⟩
    · have hholder : s.table.holder entryId = some n := by
        change (s.installed.servers entryId).head?.map Prod.fst = some n
        rw [hserver]
        rfl
      rw [table]
      dsimp only
      rw [holders_update]
      exact h.exact.close hholder
    · by_cases ho : other = entryId
      · subst ho
        exact ⟨fun hl => (hother hl).elim,
          fun _ => ⟨Function.update_self .., Function.update_self .., Function.update_self ..⟩⟩
      · refine (h.entry other).same ⟨?_, rfl, ?_, ?_, ?_, hr other ho⟩
        all_goals exact Function.update_of_ne ho ..
  | failedUnload =>
    have hne : s.states entryId ≠ .loaded := by rw [hstate]; decide
    have hsame : Function.update s.states entryId .failedUnload = s.states := by
      rw [← hstate, Function.update_eq_self]
    have hbare := @bare_settled int s entryId h hne .failedUnload (by decide) reloads hr
    rw [hsame] at hbare
    exact ⟨hbare, rfl, hne⟩
  | notLoaded | setupError =>
    have hne : s.states entryId ≠ .loaded := by rw [hstate]; decide
    refine ⟨bare_settled h hne (by decide) hr, rfl, ?_⟩
    dsimp only
    rw [Function.update_self]
    decide

lemma entries_settled (h : s.Settled int) (hstate : s.states entryId ≠ .loaded) (entry : Option ConfigEntry) :
    Settled int { s with entries := Function.update s.entries entryId entry } := by
  refine ⟨h.exact, fun other => ?_, h.views⟩
  by_cases ho : other = entryId
  · subst ho
    exact ⟨fun hl => (hstate hl).elim, fun _ => (h.entry other).2 hstate⟩
  · exact (h.entry other).same ⟨rfl, Function.update_of_ne ho .., rfl, rfl, rfl, id⟩

lemma update_settled (h : s.Settled int) {entry : ConfigEntry} : Settled int { s with
    entries := Function.update s.entries entryId (some entry)
    reloads := s.reloads ++ List.replicate (s.listeners entryId) entryId } := by
  refine ⟨h.exact, fun other => ?_, h.views⟩
  by_cases ho : other = entryId
  · subst ho
    constructor
    · intro hl
      obtain ⟨_, n, server, -, hserver, hlistener, hbuttons, -⟩ := (h.entry other).1 hl
      refine ⟨entry, n, server, Function.update_self .., hserver, hlistener, hbuttons, .inl ?_⟩
      rw [hlistener]
      exact List.mem_append_right _ (List.mem_singleton_self _)
    · exact (h.entry other).2
  · exact (h.entry other).same
      ⟨rfl, Function.update_of_ne ho .., rfl, rfl, rfl, fun hm => List.mem_append_left _ hm⟩

lemma step_settled (s : Entries) (i : EntriesInput) (h : s.Settled int) (hi : s.Flawless int i) :
    (s.step i).Settled int := by
  cases i with
  | add entryId entry =>
    rw [step]
    cases hentry : s.entries entryId with
    | some _ => exact h
    | none =>
      refine entries_settled h (fun hl => ?_) _
      obtain ⟨_, _, _, hsome, -⟩ := (h.entry entryId).1 hl
      cases hentry.symm.trans hsome
  | setup entryId around => exact setup_settled h hi
  | unload entryId how => exact (@unload_settled int s entryId h how hi s.reloads fun _ _ => id).1
  | update entryId data =>
    rw [step]
    cases s.entries entryId with
    | none => exact h
    | some entry => exact update_settled h
  | reload how around =>
    obtain ⟨hhow, haround⟩ := hi
    rw [step]
    cases hreloads : s.reloads with
    | nil => exact h
    | cons entryId reloads =>
      have hrest : ∀ other ≠ entryId, other ∈ s.reloads → other ∈ reloads := by
        intro other ho hm
        rw [hreloads] at hm
        exact (List.mem_cons.mp hm).resolve_left ho
      obtain ⟨hunloaded, hviews, -⟩ := unload_settled h hhow hrest
      dsimp only
      split
      · exact setup_settled hunloaded ⟨⟨haround.forwards, hviews ▸ haround.registers, haround.listens⟩,
          haround.starts, haround.int⟩
      · exact hunloaded
  | remove entryId how =>
    obtain ⟨hunloaded, -, hstate⟩ := @unload_settled int s entryId h how hi s.reloads fun _ _ => id
    exact entries_settled hunloaded hstate none

lemma Settled.live_iff (h : s.Settled int) (n : ℕ) : n ∈ s.installed.bridges.live ↔
    ∃! entryId, s.states entryId = .loaded ∧ ∃ server, s.installed.servers entryId = [(n, server)] := by
  have hholder (entryId : String) : s.table.holder entryId = some n ↔
      s.states entryId = .loaded ∧ ∃ server, s.installed.servers entryId = [(n, server)] := by
    constructor
    · intro hn
      change (s.installed.servers entryId).head?.map Prod.fst = some n at hn
      by_cases hl : s.states entryId = .loaded
      · obtain ⟨_, m, server, -, hserver, -⟩ := (h.entry entryId).1 hl
        rw [hserver] at hn
        obtain rfl := Option.some.inj hn
        exact ⟨hl, server, hserver⟩
      · rw [((h.entry entryId).2 hl).1] at hn
        cases hn
    · rintro ⟨-, server, hserver⟩
      change (s.installed.servers entryId).head?.map Prod.fst = some n
      rw [hserver]
      rfl
  apply (h.exact.live n).trans
  constructor
  · rintro ⟨entryId, hn⟩
    exact ⟨entryId, (hholder entryId).mp hn, fun other ho => h.exact.apart other entryId n ((hholder other).mpr ho) hn⟩
  · rintro ⟨entryId, hn, -⟩
    exact ⟨entryId, (hholder entryId).mpr hn⟩

theorem bridges_follow_entries {int : Value → Result ℤ} {inputs : List EntriesInput}
    (hi : Admits step (Flawless int) empty inputs) :
    (∀ n, n ∈ (empty.run inputs).installed.bridges.live ↔ ∃! entryId, (empty.run inputs).states entryId = .loaded ∧
        ∃ server, (empty.run inputs).installed.servers entryId = [(n, server)]) ∧
      (∀ entryId, (empty.run inputs).SettledAt int entryId) ∧
      (empty.run inputs).views = if (empty.run inputs).installed.viewsRegistered then apiViews else [] := by
  have h : (empty.run inputs).Settled int := hi.invariant (Settled int) step_settled (empty_settled int)
  exact ⟨h.live_iff, h.entry, h.views⟩

def modernised : List EntriesInput :=
  [.add "a" ⟨1, []⟩, .setup "a" Installed.undisturbed, .update "a" [(confAdapterMode, .str adapterModeNative)],
    .reload ⟨.ok (), fun _ => true⟩ Installed.undisturbed]

theorem bridges_follow_entries_modernised :
    (∀ n, n ∈ (empty.run modernised).installed.bridges.live ↔ ∃! entryId,
        (empty.run modernised).states entryId = .loaded ∧
          ∃ server, (empty.run modernised).installed.servers entryId = [(n, server)]) ∧
      (∀ entryId, (empty.run modernised).SettledAt Installed.undisturbed.int entryId) ∧
      (empty.run modernised).views = (if (empty.run modernised).installed.viewsRegistered then apiViews else []) ∧
      (empty.run modernised).states "a" = .loaded ∧
      (empty.run modernised).installed.servers "a" = [(1, .native (.str "Homeassistant_Home") (.int 0))] := by
  have hsetup (s : Installed) : Installed.undisturbed.Flawless Installed.undisturbed.int s :=
    ⟨⟨rfl, fun _ _ => rfl, rfl⟩, rfl, rfl⟩
  have hflawless : Admits step (Flawless Installed.undisturbed.int) empty modernised :=
    ⟨trivial, hsetup _, trivial, ⟨⟨rfl, fun _ => rfl⟩, hsetup _⟩, trivial⟩
  obtain ⟨hlive, hentries, hviews⟩ := bridges_follow_entries hflawless
  exact ⟨hlive, hentries, hviews, rfl, rfl⟩

end Entries

end HaBluetooth.Integration
