import HaBluetooth.Python.Values
import HaBluetooth.Support.Cleanup
import HaBluetooth.Support.Registry

/-! `_configure_adapter`: the adapter is hardened over D-Bus, or with `bluetoothctl` when that fails. -/

namespace HaBluetooth.Gatt

open Python Support

/-- `except Exception` lets a cancellation through. -/
def isException (e : PyError) : Bool := decide (e.kind ≠ .other "CancelledError")

def leakingUuidTable : List (String × String) := [
  ("00001812-0000-1000-8000-00805f9b34fb", "HID over GATT (HOGP)"),
  ("0000180f-0000-1000-8000-00805f9b34fb", "Battery Service"),
  ("00001843-0000-1000-8000-00805f9b34fb", "Audio Input Control (AICS)"),
  ("00001844-0000-1000-8000-00805f9b34fb", "Volume Control (VCS)"),
  ("00001845-0000-1000-8000-00805f9b34fb", "Volume Offset Control (VOCS)"),
  ("0000184d-0000-1000-8000-00805f9b34fb", "Microphone Control (MICS)"),
  ("0000184e-0000-1000-8000-00805f9b34fb", "ASHA (Hearing Aid)"),
  ("0000184f-0000-1000-8000-00805f9b34fb", "Broadcast Audio Scan (BASS)"),
  ("00001850-0000-1000-8000-00805f9b34fb", "Published Audio Capabilities (PACS)"),
  ("00001853-0000-1000-8000-00805f9b34fb", "Common Audio Service (CAS)"),
  ("00001854-0000-1000-8000-00805f9b34fb", "Hearing Access Service (HAS)")]

def classifyLeakingUuids (py : Library) (adapterUuids : List String) : List String :=
  adapterUuids.filterMap fun u => leakingUuidTable.lookup (py.lower u)

structure ManagedObject where
  path : String
  interfaces : List (String × List (String × Value))

/-- What the calls made while the adapter is configured would give or raise. -/
structure Bluez where
  dbusFast : Bool
  dbusNext : Bool
  connect : Result Unit
  introspect : String → Result Unit
  getInterface : String → String → Result Unit
  set : String → Bool → Result Unit
  uuids : Result (List String)
  managedObjects : Result (Registry ManagedObject.path)
  removeDevice : String → Result Unit
  disconnect : Result Unit
  exec : List String → Result ℤ

inductive AdapterEvent
  | busConnected
  | set (property : String) (value : Bool)
  -- `leaking_uuids` is assigned
  | leaking (names : List String)
  | removeDevice (path : String)
  | busDisconnected
  | command (args : List String)
  | configureDone
  deriving DecidableEq

abbrev Adapter := Traced PyError AdapterEvent

def AdapterEvent.removed : AdapterEvent → Option String
  | .removeDevice path => some path
  | .busConnected | .set _ _ | .leaking _ | .busDisconnected | .command _ | .configureDone => none

def AdapterEvent.executed : AdapterEvent → Option (List String)
  | .command args => some args
  | .busConnected | .set _ _ | .leaking _ | .removeDevice _ | .busDisconnected | .configureDone => none

def AdapterEvent.leaks : AdapterEvent → Option (List String)
  | .leaking names => some names
  | .busConnected | .set _ _ | .removeDevice _ | .busDisconnected | .command _ | .configureDone => none

def adapterDbusPath (adapter : Option String) : String :=
  let adapter := match adapter with
    | none => "hci0"
    | some name => if name = "" then "hci0" else name
  if "/org/bluez/".toList <+: adapter.toList then adapter else "/org/bluez/" ++ adapter

section

variable (py : Library) (bluez : Bluez) (adapterPath : String)

def readUuids : Adapter Unit :=
  .catching isException
    (do
      let uuids ← .lift bluez.uuids
      .emit (.leaking (classifyLeakingUuids py uuids)))
    fun _ => pure ()

/-- The D-Bus calls in front of the loop over the known devices. -/
def listObjects : Adapter (Registry ManagedObject.path) := do
  .lift (bluez.introspect adapterPath)
  .lift (bluez.getInterface adapterPath "org.freedesktop.DBus.Properties")
  .emit (.set "Pairable" false)
  .lift (bluez.set "Pairable" false)
  .emit (.set "Discoverable" true)
  .lift (bluez.set "Discoverable" true)
  readUuids py bluez
  .lift (bluez.getInterface adapterPath "org.bluez.Adapter1")
  .lift (bluez.introspect "/")
  .lift (bluez.getInterface "/" "org.freedesktop.DBus.ObjectManager")
  .lift bluez.managedObjects

def removeIfStale (object : ManagedObject) : Adapter Unit :=
  if ¬ (adapterPath ++ "/").toList <+: object.path.toList then pure ()
  else
    match object.interfaces.lookup "org.bluez.Device1" with
    | none => pure ()
    | some device =>
      let connected := (device.lookup "Connected").elim false Value.truthy
      if connected then pure ()
      else do
        .emit (.removeDevice object.path)
        .catching isException (.lift (bluez.removeDevice object.path)) fun _ => pure ()

def configureViaDbus : Adapter Bool :=
  if !bluez.dbusFast && !bluez.dbusNext then pure false
  else do
    let connected ← .catching isException
      (do
        .lift bluez.connect
        .emit .busConnected
        return true)
      fun _ => pure false
    if !connected then return false
    else
      .ensuring
        (.catching isException
          (do
            let objects ← listObjects py bluez adapterPath
            Traced.forEach (removeIfStale bluez adapterPath) objects.items
            return true)
          fun _ => pure false)
        (do
          .emit .busDisconnected
          .catching isException (.lift bluez.disconnect) fun _ => pure ())

def runCmdLogged (args : List String) : Adapter Unit :=
  .catching isException
    (do
      .emit (.command args)
      let _ ← .lift (bluez.exec args)
      pure ())
    fun _ => pure ()

def bluetoothctlCommands : List (List String) :=
  [["bluetoothctl", "pairable", "off"], ["bluetoothctl", "agent", "NoInputNoOutput"], ["bluetoothctl", "default-agent"]]

def configureViaBluetoothctl : Adapter Unit := Traced.forEach (runCmdLogged bluez) bluetoothctlCommands

def configureAdapter (adapter : Option String) : Adapter Unit :=
  .ensuring
    (do
      let ok ← configureViaDbus py bluez (adapterDbusPath adapter)
      if !ok then configureViaBluetoothctl bluez)
    (.emit .configureDone)

end

def Stale (adapterPath : String) (object : ManagedObject) : Prop :=
  (adapterPath ++ "/").toList <+: object.path.toList ∧ ∃ device,
    object.interfaces.lookup "org.bluez.Device1" = some device ∧
      (device.lookup "Connected").elim false Value.truthy = false

instance (adapterPath : String) (object : ManagedObject) : Decidable (Stale adapterPath object) :=
  inferInstanceAs (Decidable (_ ∧ ∃ device, object.interfaces.lookup "org.bluez.Device1" = some device ∧ _))

/-- Everything that the hardening over D-Bus cannot do without. -/
structure Usable (bluez : Bluez) (adapterPath : String) (objects : Registry ManagedObject.path) : Prop where
  library : bluez.dbusFast = true ∨ bluez.dbusNext = true
  connect : bluez.connect = .ok ()
  adapter : bluez.introspect adapterPath = .ok ()
  properties : bluez.getInterface adapterPath "org.freedesktop.DBus.Properties" = .ok ()
  pairable : bluez.set "Pairable" false = .ok ()
  discoverable : bluez.set "Discoverable" true = .ok ()
  adapter1 : bluez.getInterface adapterPath "org.bluez.Adapter1" = .ok ()
  root : bluez.introspect "/" = .ok ()
  manager : bluez.getInterface "/" "org.freedesktop.DBus.ObjectManager" = .ok ()
  objects : bluez.managedObjects = .ok objects

def survey (py : Library) (bluez : Bluez) (adapterPath : String) : Result (List String) := do
  bluez.introspect adapterPath
  bluez.getInterface adapterPath "org.freedesktop.DBus.Properties"
  bluez.set "Pairable" false
  bluez.set "Discoverable" true
  classifyLeakingUuids py <$> bluez.uuids

/-- What `leaking_uuids` is once the check is done. -/
def leaks (py : Library) (bluez : Bluez) (adapterPath : String) : Option (List String) :=
  if bluez.dbusFast = true ∨ bluez.dbusNext = true then
    (bluez.connect >>= fun _ => survey py bluez adapterPath).toOption
  else none

def AdapterEvent.IsSetting : AdapterEvent → Prop
  | .set _ _ | .leaking _ => True
  | .busConnected | .removeDevice _ | .busDisconnected | .command _ | .configureDone => False

variable {py : Library} {bluez : Bluez} {adapterPath : String}

/-! ### The known devices -/

lemma removeIfStale_events (object : ManagedObject) : (removeIfStale bluez adapterPath object).events =
    if Stale adapterPath object then [.removeDevice object.path] else [] := by
  rw [removeIfStale]
  split
  · next hp => exact (if_neg fun h => hp h.1).symm
  · next hp =>
    split
    · next hd =>
      refine (if_neg ?_).symm
      rintro ⟨-, device, hdevice, -⟩
      rw [hd] at hdevice
      cases hdevice
    · next device hd =>
      extract_lets connected
      split
      · next hc =>
        refine (if_neg ?_).symm
        rintro ⟨-, device', hdevice, hoff⟩
        obtain rfl := Option.some.inj (hd.symm.trans hdevice)
        exact Bool.noConfusion (hc.symm.trans hoff)
      · next hc =>
        rw [if_pos ⟨not_not.mp hp, device, hd, Bool.eq_false_of_not_eq_true hc⟩]
        exact congrArg (_ :: ·) Traced.catching_events

lemma removeIfStale_error {object : ManagedObject} {e : PyError}
    (h : (removeIfStale bluez adapterPath object).result = .error e) : isException e = false := by
  rw [removeIfStale] at h
  split at h
  · cases h
  · split at h
    · cases h
    · extract_lets connected at h
      split at h
      · cases h
      · exact (Traced.catching_error.mp h).2

lemma removals (objects : List ManagedObject) : ∃ visited, visited <+: objects ∧
    (Traced.forEach (removeIfStale bluez adapterPath) objects).events =
      ((visited.filter (Stale adapterPath)).map ManagedObject.path).map .removeDevice ∧
    ((Traced.forEach (removeIfStale bluez adapterPath) objects).result = .ok () ∧ visited = objects ∨
      ∃ e, (Traced.forEach (removeIfStale bluez adapterPath) objects).result = .error e ∧ isException e = false) := by
  induction objects with
  | nil => exact ⟨[], List.nil_prefix, rfl, .inl ⟨rfl, rfl⟩⟩
  | cons object objects ih =>
    have hone : (removeIfStale bluez adapterPath object).events =
        (([object].filter (Stale adapterPath)).map ManagedObject.path).map .removeDevice := by
      rw [removeIfStale_events, List.filter_singleton]
      by_cases hs : Stale adapterPath object <;> simp [hs]
    rw [Traced.forEach_cons]
    cases hr : (removeIfStale bluez adapterPath object).result with
    | error e =>
      rw [Traced.bind_error _ hr]
      exact ⟨[object], by simp, hone, .inr ⟨e, rfl, removeIfStale_error hr⟩⟩
    | ok _ =>
      obtain ⟨visited, hprefix, hevents, hresult⟩ := ih
      rw [Traced.bind_ok _ hr]
      refine ⟨object :: visited, (List.prefix_cons_inj object).mpr hprefix, ?_, ?_⟩
      · dsimp only
        rw [hone, hevents, ← List.map_append, ← List.map_append, ← List.filter_append]
        rfl
      · exact hresult.imp_left fun h => ⟨h.1, congrArg _ h.2⟩

/-! ### Over D-Bus -/

lemma listObjects_settings {ev : AdapterEvent} (h : ev ∈ (listObjects py bluez adapterPath).events) : ev.IsSetting := by
  simp only [listObjects, readUuids, Traced.mem_bind_events, Traced.catching_events, Traced.lift_events,
    Traced.emit_events, List.mem_singleton, List.not_mem_nil, false_or] at h
  grind [AdapterEvent.IsSetting]

lemma listObjects_leaks : (listObjects py bluez adapterPath).observed AdapterEvent.leaks =
    (survey py bluez adapterPath).toOption.toList := by
  have hrest : ∀ rest : Unit → Adapter (Registry ManagedObject.path), (∀ u, (rest u).observed AdapterEvent.leaks = []) →
      (readUuids py bluez >>= rest).observed AdapterEvent.leaks =
        (classifyLeakingUuids py <$> bluez.uuids).toOption.toList := by
    intro rest hrest
    have hread : (readUuids py bluez).observed AdapterEvent.leaks =
        (classifyLeakingUuids py <$> bluez.uuids).toOption.toList := by
      rw [Traced.observed, readUuids, Traced.catching_events]
      cases bluez.uuids <;> rfl
    cases hr : (readUuids py bluez).result with
    | ok _ => rw [Traced.observed_bind_ok _ _ hr, hrest, List.append_nil, hread]
    | error e => rw [Traced.observed_bind_error _ _ hr, hread]
  rw [listObjects, survey]
  cases bluez.introspect adapterPath with
  | error e => rfl
  | ok _ => cases bluez.getInterface adapterPath "org.freedesktop.DBus.Properties" with
    | error e => rfl
    | ok _ => cases bluez.set "Pairable" false with
      | error e => rfl
      | ok _ => cases bluez.set "Discoverable" true with
        | error e => rfl
        | ok _ =>
          refine hrest _ fun _ => ?_
          refine Traced.observed_bind_nil rfl fun _ => Traced.observed_bind_nil rfl fun _ => ?_
          exact Traced.observed_bind_nil rfl fun _ => rfl

lemma listObjects_ok (hl : bluez.dbusFast = true ∨ bluez.dbusNext = true) (hc : bluez.connect = .ok ())
    {objects : Registry ManagedObject.path} (h : (listObjects py bluez adapterPath).result = .ok objects) :
    Usable bluez adapterPath objects := by
  simp only [listObjects, Traced.bind_result_eq_ok, Traced.lift_result] at h
  obtain ⟨_, h₁, _, h₂, _, -, _, h₃, _, -, _, h₄, _, -, _, h₅, _, h₆, _, h₇, h₈⟩ := h
  exact ⟨hl, hc, h₁, h₂, h₃, h₄, h₅, h₆, h₇, h₈⟩

lemma listObjects_usable {objects : Registry ManagedObject.path} (h : Usable bluez adapterPath objects) :
    (listObjects py bluez adapterPath).result = .ok objects ∨
      ∃ e, (listObjects py bluez adapterPath).result = .error e ∧ isException e = false := by
  simp only [listObjects, h.adapter, h.properties, h.pairable, h.discoverable, h.adapter1, h.root, h.manager,
    h.objects, Traced.lift_ok_bind, Traced.emit_bind]
  cases hu : (readUuids py bluez).result with
  | ok _ =>
    rw [Traced.bind_ok _ hu]
    exact .inl rfl
  | error e =>
    rw [Traced.bind_error _ hu]
    exact .inr ⟨e, rfl, (Traced.catching_error.mp hu).2⟩

def Hardens (settings : List AdapterEvent) : Prop :=
  .set "Pairable" false ∈ settings ∧ .set "Discoverable" true ∈ settings

lemma listObjects_hardens {objects : Registry ManagedObject.path} (h : Usable bluez adapterPath objects) :
    Hardens (listObjects py bluez adapterPath).events := by
  simp only [Hardens, listObjects, h.adapter, h.properties, h.pairable, h.discoverable, Traced.lift_ok_bind,
    Traced.emit_bind, List.mem_cons]
  exact ⟨.inl trivial, .inr (.inl trivial)⟩

/-- Only stale devices of a usable adapter are removed, in the order in which they are listed, and only once the
properties are set. -/
def Removes (bluez : Bluez) (adapterPath : String) (settings : List AdapterEvent) (removed : List String) : Prop :=
  removed = [] ∨ Hardens settings ∧ ∃ objects visited, Usable bluez adapterPath objects ∧ visited <+: objects.items ∧
    removed = (visited.filter (Stale adapterPath)).map ManagedObject.path

def Ends (bluez : Bluez) (adapterPath : String) (removed : List String) : Result Bool → Prop
  | .ok true => ∃ objects, Usable bluez adapterPath objects ∧
      removed = (objects.items.filter (Stale adapterPath)).map ManagedObject.path
  | .ok false => ∀ objects, ¬ Usable bluez adapterPath objects
  | .error e => isException e = false

lemma hardening (hl : bluez.dbusFast = true ∨ bluez.dbusNext = true) (hc : bluez.connect = .ok ()) :
    ∃ settings removed, (∀ ev ∈ settings, AdapterEvent.IsSetting ev) ∧
      settings.filterMap AdapterEvent.leaks = (leaks py bluez adapterPath).toList ∧
      Removes bluez adapterPath settings removed ∧
      (Traced.catching isException
        (do
          let objects ← listObjects py bluez adapterPath
          Traced.forEach (removeIfStale bluez adapterPath) objects.items
          return true)
        fun _ => pure false).events = settings ++ removed.map .removeDevice ∧
      Ends bluez adapterPath removed (Traced.catching isException
        (do
          let objects ← listObjects py bluez adapterPath
          Traced.forEach (removeIfStale bluez adapterPath) objects.items
          return true)
        fun _ => pure false).result := by
  have hleaks : (listObjects py bluez adapterPath).events.filterMap AdapterEvent.leaks =
      (leaks py bluez adapterPath).toList := by
    rw [leaks, if_pos hl, hc]
    exact listObjects_leaks
  refine ⟨(listObjects py bluez adapterPath).events, ?_⟩
  cases hlist : (listObjects py bluez adapterPath).result with
  | error e =>
    refine ⟨[], fun _ => listObjects_settings, hleaks, .inl rfl, ?_, ?_⟩
    · rw [Traced.catching_events, Traced.bind_error _ hlist]
      exact (List.append_nil _).symm
    · rw [Traced.bind_error _ hlist, Traced.catching, Traced.handle_error _ rfl]
      dsimp only
      split
      · next he =>
        intro objects hu
        rcases @listObjects_usable py _ _ _ hu with hok | ⟨e', he', hcancel⟩
        · cases hlist.symm.trans hok
        · cases hlist.symm.trans he'
          exact Bool.noConfusion (he.symm.trans hcancel)
      · next he => exact Bool.eq_false_of_not_eq_true he
  | ok objects =>
    have husable := listObjects_ok hl hc hlist
    obtain ⟨visited, hprefix, hevents, hresult⟩ := @removals bluez adapterPath objects.items
    refine ⟨_, fun _ => listObjects_settings, hleaks,
      .inr ⟨listObjects_hardens husable, objects, visited, husable, hprefix, rfl⟩, ?_, ?_⟩
    · rw [Traced.catching_events, Traced.bind_ok _ hlist, Traced.bind_pure_events, hevents]
    · rw [Traced.bind_ok _ hlist]
      rcases hresult with ⟨hok, rfl⟩ | ⟨e, herror, hcancel⟩
      · rw [Traced.bind_ok _ hok, Traced.catching, Traced.handle_ok _ rfl]
        exact ⟨objects, husable, rfl⟩
      · rw [Traced.bind_error _ herror, Traced.catching, Traced.handle_error _ rfl]
        simp [hcancel, Ends]

lemma opening (bluez : Bluez) :
    let opening : Adapter Bool := .catching isException
      (do
        .lift bluez.connect
        .emit .busConnected
        return true)
      fun _ => pure false
    bluez.connect = .ok () ∧ opening = ⟨[.busConnected], .ok true⟩ ∨ bluez.connect ≠ .ok () ∧
      (opening = ⟨[], .ok false⟩ ∨ ∃ e, opening = ⟨[], .error e⟩ ∧ isException e = false) := by
  intro opening
  cases hc : bluez.connect with
  | ok _ =>
    refine .inl ⟨rfl, ?_⟩
    simp only [opening, hc]
    rfl
  | error e =>
    refine .inr ⟨by simp, ?_⟩
    simp only [opening, hc, Traced.lift_error_bind, Traced.catching, Traced.handle]
    cases he : isException e with
    | true => exact .inl rfl
    | false => exact .inr ⟨e, rfl, he⟩

lemma closing (bluez : Bluez) {removed : List String} {work : Adapter Bool}
    (h : Ends bluez adapterPath removed work.result) :
    let run := work.ensuring (do
      .emit .busDisconnected
      .catching isException (.lift bluez.disconnect) fun _ => pure ())
    run.events = work.events ++ [.busDisconnected] ∧ Ends bluez adapterPath removed run.result := by
  intro run
  let last : Adapter Unit := .catching isException (.lift bluez.disconnect) fun _ => pure ()
  have hevents : last.events = [] := Traced.catching_events
  refine ⟨?_, ?_⟩
  · simp only [run, Traced.ensuring_events, Traced.emit_bind]
    exact congrArg (work.events ++ .busDisconnected :: ·) hevents
  · cases hlast : last.result with
    | ok _ =>
      have hrun : run.result = work.result := by
        simp only [run, Traced.ensuring, Traced.emit_bind]
        rw [hlast]
      rw [hrun]
      exact h
    | error e =>
      have hrun : run.result = .error e := by
        simp only [run, Traced.ensuring, Traced.emit_bind]
        rw [hlast]
      rw [hrun]
      exact (Traced.catching_error.mp hlast).2

lemma configureViaDbus_spec : ∃ opened settings removed closed,
    (configureViaDbus py bluez adapterPath).events = opened ++ settings ++ removed.map .removeDevice ++ closed ∧
      (opened = [] ∧ closed = [] ∨ opened = [.busConnected] ∧ closed = [.busDisconnected]) ∧
      (∀ ev ∈ settings, AdapterEvent.IsSetting ev) ∧
      settings.filterMap AdapterEvent.leaks = (leaks py bluez adapterPath).toList ∧
      Removes bluez adapterPath settings removed ∧
      Ends bluez adapterPath removed (configureViaDbus py bluez adapterPath).result := by
  rw [configureViaDbus]
  split
  · next hl =>
    replace hl : ¬ (bluez.dbusFast = true ∨ bluez.dbusNext = true) := by simpa [not_or] using hl
    refine ⟨[], [], [], [], rfl, .inl ⟨rfl, rfl⟩, by simp, ?_, .inl rfl, fun objects hu => hl hu.library⟩
    rw [leaks, if_neg hl]
    rfl
  · next hl =>
    replace hl : bluez.dbusFast = true ∨ bluez.dbusNext = true := by
      simpa [← Bool.not_eq_true, or_iff_not_imp_left] using hl
    have hunread (hc : bluez.connect ≠ .ok ()) : [] = (leaks py bluez adapterPath).toList := by
      rw [leaks, if_pos hl]
      cases hconn : bluez.connect with
      | ok _ => exact (hc hconn).elim
      | error e => rfl
    rcases opening bluez with ⟨hc, hopen⟩ | ⟨hc, hopen | ⟨e, hopen, he⟩⟩
    · obtain ⟨settings, removed, hsettings, hleaks, hremoves, hevents, hends⟩ := @hardening py _ adapterPath hl hc
      obtain ⟨hclosed, hends'⟩ := closing bluez hends
      rw [hopen, Traced.bind_ok _ rfl]
      refine ⟨[.busConnected], settings, removed, [.busDisconnected], ?_, .inr ⟨rfl, rfl⟩, hsettings, hleaks, hremoves,
        hends'⟩
      refine (congrArg _ hclosed).trans ?_
      rw [hevents, List.singleton_append, List.cons_append, List.cons_append]
    · rw [hopen, Traced.bind_ok _ rfl]
      exact ⟨[], [], [], [], rfl, .inl ⟨rfl, rfl⟩, by simp, hunread hc, .inl rfl, fun objects hu => hc hu.connect⟩
    · rw [hopen, Traced.bind_error _ rfl]
      exact ⟨[], [], [], [], rfl, .inl ⟨rfl, rfl⟩, by simp, hunread hc, .inl rfl, he⟩

/-! ### The fallback -/

lemma runCmdLogged_events (args : List String) : (runCmdLogged bluez args).events = [.command args] := by
  rw [runCmdLogged, Traced.catching_events, Traced.emit_bind, Traced.bind_pure_events]
  rfl

lemma configureViaBluetoothctl_spec (commands : List (List String)) : ∃ tried, tried <+: commands ∧
    (Traced.forEach (runCmdLogged bluez) commands).events = tried.map .command ∧
    ((Traced.forEach (runCmdLogged bluez) commands).result = .ok () ∧ tried = commands ∨
      ∃ e, (Traced.forEach (runCmdLogged bluez) commands).result = .error e ∧ isException e = false) := by
  induction commands with
  | nil => exact ⟨[], List.nil_prefix, rfl, .inl ⟨rfl, rfl⟩⟩
  | cons args commands ih =>
    rw [Traced.forEach_cons]
    cases hr : (runCmdLogged bluez args).result with
    | error e =>
      rw [Traced.bind_error _ hr]
      exact ⟨[args], by simp, runCmdLogged_events args, .inr ⟨e, rfl, (Traced.catching_error.mp hr).2⟩⟩
    | ok _ =>
      obtain ⟨tried, hprefix, hevents, hresult⟩ := ih
      rw [Traced.bind_ok _ hr]
      refine ⟨args :: tried, (List.prefix_cons_inj args).mpr hprefix, ?_, ?_⟩
      · dsimp only
        rw [runCmdLogged_events, hevents]
        rfl
      · exact hresult.imp_left fun h => ⟨h.1, congrArg _ h.2⟩

lemma configureAdapter_spec (py : Library) (bluez : Bluez) (adapter : Option String) :
    ∃ opened settings removed closed tried,
      (configureAdapter py bluez adapter).events =
        opened ++ settings ++ removed.map .removeDevice ++ closed ++ tried.map .command ++ [.configureDone] ∧
      (opened = [] ∧ closed = [] ∨ opened = [.busConnected] ∧ closed = [.busDisconnected]) ∧
      (∀ ev ∈ settings, AdapterEvent.IsSetting ev) ∧
      settings.filterMap AdapterEvent.leaks = (leaks py bluez (adapterDbusPath adapter)).toList ∧
      Removes bluez (adapterDbusPath adapter) settings removed ∧
      ((configureAdapter py bluez adapter).result = .ok () ∧
          (Ends bluez (adapterDbusPath adapter) removed (.ok true) ∧ tried = [] ∨
            Ends bluez (adapterDbusPath adapter) removed (.ok false) ∧ tried = bluetoothctlCommands) ∨
        ∃ e, (configureAdapter py bluez adapter).result = .error e ∧ isException e = false) := by
  obtain ⟨opened, settings, removed, closed, hevents, hbus, hsettings, hleaks, hremoves, hends⟩ :=
    @configureViaDbus_spec py bluez (adapterDbusPath adapter)
  rw [configureAdapter, Traced.ensuring_events, Traced.ensuring_result rfl]
  cases hr : (configureViaDbus py bluez (adapterDbusPath adapter)).result with
  | error e =>
    rw [Traced.bind_error _ hr, hevents]
    rw [hr] at hends
    exact ⟨opened, settings, removed, closed, [], by simp, hbus, hsettings, hleaks, hremoves, .inr ⟨e, rfl, hends⟩⟩
  | ok done =>
    rw [Traced.bind_ok _ hr, hevents]
    rw [hr] at hends
    cases done with
    | true =>
      exact ⟨opened, settings, removed, closed, [], by simp, hbus, hsettings, hleaks, hremoves,
        .inl ⟨rfl, .inl ⟨hends, rfl⟩⟩⟩
    | false =>
      obtain ⟨tried, hprefix, htried, hresult⟩ := @configureViaBluetoothctl_spec bluez bluetoothctlCommands
      refine ⟨opened, settings, removed, closed, tried, congrArg (_ ++ · ++ _) htried, hbus, hsettings, hleaks,
        hremoves, ?_⟩
      rcases hresult with ⟨hok, hall⟩ | herror
      · exact .inl ⟨hok, .inr ⟨hends, hall⟩⟩
      · exact .inr herror

lemma setting_ne {settings : List AdapterEvent} (h : ∀ ev ∈ settings, AdapterEvent.IsSetting ev) (ev : AdapterEvent)
    (hev : ¬ ev.IsSetting) : ev ∉ settings :=
  fun hm => hev (h ev hm)

lemma settings_unobserved {γ : Type} {g : AdapterEvent → Option γ} (hg : ∀ ev, AdapterEvent.IsSetting ev → g ev = none)
    {settings : List AdapterEvent} (h : ∀ ev ∈ settings, AdapterEvent.IsSetting ev) : settings.filterMap g = [] :=
  List.filterMap_eq_nil_iff.mpr fun ev hev => hg ev (h ev hev)

lemma IsSetting.unremoved (ev : AdapterEvent) (h : ev.IsSetting) : ev.removed = none := by
  cases ev <;> first | rfl | exact h.elim

lemma IsSetting.unexecuted (ev : AdapterEvent) (h : ev.IsSetting) : ev.executed = none := by
  cases ev <;> first | rfl | exact h.elim

lemma configureAdapter_done (py : Library) (bluez : Bluez) (adapter : Option String) :
    ∃ before, (configureAdapter py bluez adapter).events = before ++ [.configureDone] ∧ .configureDone ∉ before := by
  obtain ⟨opened, settings, removed, closed, tried, hevents, hbus, hsettings, -⟩ :=
    configureAdapter_spec py bluez adapter
  refine ⟨_, hevents, ?_⟩
  have hset := setting_ne hsettings .configureDone id
  rcases hbus with ⟨rfl, rfl⟩ | ⟨rfl, rfl⟩ <;> simp [hset]

lemma configureAdapter_leaks (py : Library) (bluez : Bluez) (adapter : Option String) :
    (configureAdapter py bluez adapter).observed AdapterEvent.leaks =
      (leaks py bluez (adapterDbusPath adapter)).toList := by
  obtain ⟨opened, settings, removed, closed, tried, hevents, hbus, -, hleaks, -⟩ :=
    configureAdapter_spec py bluez adapter
  simp only [Traced.observed, hevents, List.filterMap_append, hleaks]
  rcases hbus with ⟨rfl, rfl⟩ | ⟨rfl, rfl⟩ <;> simp [List.filterMap_cons, AdapterEvent.leaks, Function.comp_def]

lemma Removes.sound {settings : List AdapterEvent} {removed : List String}
    (h : Removes bluez adapterPath settings removed) : removed.Nodup ∧
    ∀ path ∈ removed, ∃ objects, Usable bluez adapterPath objects ∧
      ∃ object ∈ objects.items, object.path = path ∧ Stale adapterPath object := by
  rcases h with rfl | ⟨-, objects, visited, husable, hprefix, rfl⟩
  · exact ⟨List.nodup_nil, by simp⟩
  · refine ⟨objects.nodup.sublist ((List.filter_sublist.trans hprefix.sublist).map _), fun path hp => ?_⟩
    obtain ⟨object, hobject, rfl⟩ := List.mem_map.mp hp
    obtain ⟨hmem, hstale⟩ := List.mem_filter.mp hobject
    exact ⟨objects, husable, object, hprefix.mem hmem, rfl, of_decide_eq_true hstale⟩

lemma prefix_before {α : Type} {front rest before after : List α} {x : α} (hx : x ∉ front)
    (h : front ++ rest = before ++ x :: after) : ∃ more, before = front ++ more := by
  rcases List.append_eq_append_iff.mp h with ⟨more, hbefore, -⟩ | ⟨more, hfront, hmore⟩
  · exact ⟨more, hbefore⟩
  · cases more with
    | nil => exact ⟨[], by simpa using hfront.symm⟩
    | cons y more =>
      obtain ⟨rfl, -⟩ := List.cons.inj hmore
      exact absurd (hfront ▸ by simp) hx

lemma configureAdapter_balanced (py : Library) (bluez : Bluez) (adapter : Option String) :
    (configureAdapter py bluez adapter).events.count .busConnected =
      (configureAdapter py bluez adapter).events.count .busDisconnected := by
  obtain ⟨opened, settings, paths, closed, tried, hevents, hbus, hsettings, -⟩ :=
    configureAdapter_spec py bluez adapter
  have hopen := List.count_eq_zero.mpr (setting_ne hsettings .busConnected id)
  have hclose := List.count_eq_zero.mpr (setting_ne hsettings .busDisconnected id)
  have hpaths (ev : AdapterEvent) (hev : ev.removed = none) : (paths.map AdapterEvent.removeDevice).count ev = 0 := by
    refine List.count_eq_zero.mpr fun hm => ?_
    obtain ⟨p, -, rfl⟩ := List.mem_map.mp hm
    cases hev
  have htried (ev : AdapterEvent) (hev : ev.executed = none) : (tried.map AdapterEvent.command).count ev = 0 := by
    refine List.count_eq_zero.mpr fun hm => ?_
    obtain ⟨args, -, rfl⟩ := List.mem_map.mp hm
    cases hev
  simp only [hevents, List.count_append, hopen, hclose, hpaths .busConnected rfl, hpaths .busDisconnected rfl,
    htried .busConnected rfl, htried .busDisconnected rfl]
  rcases hbus with ⟨rfl, rfl⟩ | ⟨rfl, rfl⟩ <;> rfl

lemma configureAdapter_hardened (py : Library) (bluez : Bluez) (adapter : Option String)
    {before after : List AdapterEvent} {path : String}
    (h : (configureAdapter py bluez adapter).events = before ++ .removeDevice path :: after) :
    Hardens before := by
  obtain ⟨opened, settings, paths, closed, tried, hevents, hbus, hsettings, -, hremoves, -⟩ :=
    configureAdapter_spec py bluez adapter
  have hset := setting_ne hsettings (.removeDevice path) id
  have hpath : path ∈ paths := by
    have hmem : AdapterEvent.removeDevice path ∈ (configureAdapter py bluez adapter).events := by
      rw [h]
      exact List.mem_append_right _ List.mem_cons_self
    rw [hevents] at hmem
    rcases hbus with ⟨rfl, rfl⟩ | ⟨rfl, rfl⟩ <;> simpa [hset] using hmem
  have hfront : AdapterEvent.removeDevice path ∉ opened ++ settings := by
    rcases hbus with ⟨rfl, -⟩ | ⟨rfl, -⟩ <;> simp [hset]
  obtain ⟨hpairable, hdiscoverable⟩ := (hremoves.resolve_left (List.ne_nil_of_mem hpath)).1
  rw [hevents, List.append_assoc, List.append_assoc, List.append_assoc] at h
  obtain ⟨more, rfl⟩ := prefix_before hfront h
  exact ⟨by simp [hpairable], by simp [hdiscoverable]⟩

/-- Whatever the calls give or raise, the check is reported as done at the end and once, the bus is closed again, and
only devices of a hardened adapter that are not connected are removed, once each and after the hardening. A run that
is not cancelled removes them all, or else tries every command of the fallback. -/
theorem adapter_configured (py : Library) (bluez : Bluez) (adapter : Option String) :
    let path := adapterDbusPath adapter
    let run := configureAdapter py bluez adapter
    let removed := run.observed AdapterEvent.removed
    (∃ before, run.events = before ++ [.configureDone] ∧ .configureDone ∉ before) ∧
      run.events.count .busConnected = run.events.count .busDisconnected ∧
      (∀ before p after, run.events = before ++ .removeDevice p :: after →
        .set "Pairable" false ∈ before ∧ .set "Discoverable" true ∈ before) ∧
      removed.Nodup ∧
      (∀ p ∈ removed, ∃ objects, Usable bluez path objects ∧
        ∃ object ∈ objects.items, object.path = p ∧ Stale path object) ∧
      ((∃ e, run.result = .error e ∧ isException e = false) ∨
        run.result = .ok () ∧
          ((∃ objects, Usable bluez path objects ∧ run.observed AdapterEvent.executed = [] ∧
              ∀ object ∈ objects.items, Stale path object → object.path ∈ removed) ∨
            (∀ objects, ¬ Usable bluez path objects) ∧
              run.observed AdapterEvent.executed = bluetoothctlCommands)) := by
  intro path run removed
  obtain ⟨opened, settings, paths, closed, tried, hevents, hbus, hsettings, hleaks, hremoves, hresult⟩ :=
    configureAdapter_spec py bluez adapter
  have hremoved : removed = paths := by
    simp only [removed, run, Traced.observed, hevents, List.filterMap_append,
      settings_unobserved IsSetting.unremoved hsettings]
    rcases hbus with ⟨rfl, rfl⟩ | ⟨rfl, rfl⟩ <;> simp [List.filterMap_cons, AdapterEvent.removed, Function.comp_def]
  have hexecuted : run.observed AdapterEvent.executed = tried := by
    simp only [run, Traced.observed, hevents, List.filterMap_append,
      settings_unobserved IsSetting.unexecuted hsettings]
    rcases hbus with ⟨rfl, rfl⟩ | ⟨rfl, rfl⟩ <;> simp [List.filterMap_cons, AdapterEvent.executed, Function.comp_def]
  obtain ⟨hnodup, hsound⟩ := hremoves.sound
  rw [hremoved, hexecuted]
  refine ⟨configureAdapter_done py bluez adapter, configureAdapter_balanced py bluez adapter,
    fun before p after hsplit => configureAdapter_hardened py bluez adapter hsplit, hnodup, hsound, ?_⟩
  · rcases hresult with ⟨hok, ⟨⟨objects, husable, rfl⟩, rfl⟩ | ⟨hunusable, rfl⟩⟩ | herror
    · refine .inr ⟨hok, .inl ⟨objects, husable, rfl, fun object hobject hstale => ?_⟩⟩
      exact List.mem_map_of_mem (List.mem_filter.mpr ⟨hobject, decide_eq_true hstale⟩)
    · exact .inr ⟨hok, .inr ⟨hunusable, rfl⟩⟩
    · exact .inl herror

end HaBluetooth.Gatt
