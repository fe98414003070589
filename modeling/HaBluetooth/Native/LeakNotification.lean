import HaBluetooth.Gatt.AdapterConfig

/-! `_post_leak_notification`: every setup of the native server waits for its adapter check and then shows the user
what was found, under one notification id. -/

namespace HaBluetooth.Native

open Python Support Gatt

structure Notice where
  id : String
  title : String
  message : String
  deriving DecidableEq

def leakNotificationId : String := "bluetooth_api_bluez_leak"

def leakIntro : String :=
  "Native BT mode is up, but BlueZ on this Pi exposes extra GATT services that trigger an Android " ++
  "pairing dialog during BLE discovery:\n\n"

def leakFix : String :=
  "\n\n**Fix on the HAOS host** (SSH on port 22222 or HDMI console). Run this block once — the udev " ++
  "rule survives reboots and keeps the drop-in in place across HAOS updates:\n\n```sh\n" ++
  "mkdir -p /mnt/data/btconfig\ncat > /mnt/data/btconfig/disable-plugins.sh <<'SCRIPT'\n#!/bin/sh\n" ++
  "# Disable BlueZ plugins that register BLE GATT services with\n" ++
  "# auth-required characteristics (LE Audio family + HID-over-GATT).\n" ++
  "# Idempotent; triggered by udev when the BT controller appears.\nset -eu\n" ++
  "DROPIN_DIR=/run/systemd/system/bluetooth.service.d\n" ++
  "DROPIN_FILE=\"$DROPIN_DIR/zz-bluetooth-api-noplugin.conf\"\n" ++
  "FLAGS=\"--noplugin=hog,micp,asha,bap,vcp,bass,csip,mcp,pacs\"\nmkdir -p \"$DROPIN_DIR\"\n" ++
  "cat > \"$DROPIN_FILE\" <<EOF\n[Service]\nExecStart=\n" ++
  "ExecStart=/usr/libexec/bluetooth/bluetoothd $FLAGS\nEOF\nsystemctl daemon-reload\n" ++
  "PID=$(pgrep -f /usr/libexec/bluetooth/bluetoothd | head -1 || true)\nif [ -n \"$PID\" ]; then\n" ++
  "  CMDLINE=$(tr \"\\0\" \" \" < /proc/$PID/cmdline 2>/dev/null || true)\n" ++
  "  case \"$CMDLINE\" in *\"$FLAGS\"*) exit 0 ;; esac\nfi\nsystemctl restart bluetooth\nSCRIPT\n" ++
  "chmod +x /mnt/data/btconfig/disable-plugins.sh\n" ++
  "cat > /etc/udev/rules.d/99-bluetooth-api-noplugin.rules <<'RULE'\n" ++
  "ACTION==\"add\", SUBSYSTEM==\"bluetooth\", KERNEL==\"hci[0-9]*\", RUN+=\"/usr/bin/systemd-run " ++
  "--no-block --unit=bt-api-noplugin /mnt/data/btconfig/disable-plugins.sh\"\nRULE\n" ++
  "udevadm control --reload-rules\n/mnt/data/btconfig/disable-plugins.sh\n```\n\n" ++
  "Then reload the Bluetooth API integration so bless re-registers on the freshly-restarted " ++
  "bluetoothd. This notification auto-dismisses once the adapter is clean.\n\n" ++
  "*Note: Generic Access (0x1800) and Generic Attribute (0x1801) are mandatory BLE services, " ++
  "always present, never trigger pairing. Classic-only profiles like A2DP / AVRC / HSP / HFP show " ++
  "up in `bluetoothctl show` but are invisible to Android's BLE GATT discovery — they don't " ++
  "affect this flow.*"

def leakNotice (names : List String) : Notice where
  id := leakNotificationId
  title := "Bluetooth API: BlueZ plugin conflict"
  message := leakIntro ++ String.intercalate "\n" (names.map ("- " ++ ·)) ++ leakFix

/-- One start of the server. `reached` counts the events of its adapter check when the wait for it ends. -/
structure Start where
  bluez : Bluez
  adapter : Option String
  reached : ℕ

def leakingUuids (events : List AdapterEvent) : List String :=
  ((events.filterMap AdapterEvent.leaks).getLast?).getD []

variable (py : Library)

def Start.seen (start : Start) : List AdapterEvent :=
  (configureAdapter py start.bluez start.adapter).events.take start.reached

def postLeakNotification (notices : Registry Notice.id) (start : Start) : Registry Notice.id :=
  let seen := start.seen py
  if .configureDone ∉ seen then notices
  else
    let leaks := leakingUuids seen
    if leaks.isEmpty then notices.erase leakNotificationId
    else notices.insert (leakNotice leaks)

def Start.Checked (start : Start) : Prop :=
  (configureAdapter py start.bluez start.adapter).events.length ≤ start.reached

instance (start : Start) : Decidable (start.Checked py) := inferInstanceAs (Decidable (_ ≤ _))

def Start.notice (start : Start) : Option Notice :=
  match leaks py start.bluez (adapterDbusPath start.adapter) with
  | none | some [] => none
  | some (name :: names) => some (leakNotice (name :: names))

variable {py} {start : Start}

lemma seen_checked (h : start.Checked py) : start.seen py = (configureAdapter py start.bluez start.adapter).events :=
  List.take_of_length_le h

lemma done_iff : .configureDone ∈ start.seen py ↔ start.Checked py := by
  obtain ⟨before, hevents, hnot⟩ := configureAdapter_done py start.bluez start.adapter
  rw [Start.seen, Start.Checked, hevents, List.length_append, List.length_singleton]
  constructor
  · intro h
    by_contra hlt
    have htake : (before ++ [AdapterEvent.configureDone]).take start.reached = before.take start.reached :=
      List.take_append_of_le_length (by omega)
    rw [htake] at h
    exact hnot (List.mem_of_mem_take h)
  · intro h
    rw [List.take_of_length_le (by simpa using h)]
    simp

lemma checked_leaks (h : start.Checked py) :
    leakingUuids (start.seen py) = (leaks py start.bluez (adapterDbusPath start.adapter)).getD [] := by
  have hleaks := configureAdapter_leaks py start.bluez start.adapter
  rw [leakingUuids, seen_checked h]
  change ((configureAdapter py start.bluez start.adapter).observed AdapterEvent.leaks).getLast?.getD [] = _
  rw [hleaks]
  cases leaks py start.bluez (adapterDbusPath start.adapter) <;> rfl

lemma postLeakNotification_get? (notices : Registry Notice.id) (start : Start) (id : String) :
    (postLeakNotification py notices start).get? id =
      if start.Checked py ∧ id = leakNotificationId then start.notice py else notices.get? id := by
  rw [postLeakNotification]
  extract_lets found
  split
  · next hnot => exact (if_neg fun h => hnot (done_iff.mpr h.1)).symm
  · next hdone =>
    have hchecked : start.Checked py := done_iff.mp (not_not.mp hdone)
    have hfound : found = (leaks py start.bluez (adapterDbusPath start.adapter)).getD [] := checked_leaks hchecked
    have hnotice : start.notice py = if found = [] then none else some (leakNotice found) := by
      rw [Start.notice, hfound]
      split <;> simp_all
    simp only [List.isEmpty_iff]
    by_cases hid : id = leakNotificationId
    · subst hid
      rw [if_pos (c := start.Checked py ∧ _) ⟨hchecked, rfl⟩, hnotice]
      by_cases hf : found = []
      · rw [if_pos hf, if_pos hf, Registry.get?_erase_self]
      · rw [if_neg hf, if_neg hf]
        exact notices.get?_insert_self (leakNotice found)
    · rw [if_neg (c := start.Checked py ∧ _) fun h => hid h.2]
      by_cases hf : found = []
      · rw [if_pos hf, notices.get?_erase_ne hid]
      · rw [if_neg hf]
        exact Option.ext fun a => notices.get?_insert_ne hid

lemma postLeakNotifications_get? (notices : Registry Notice.id) (starts : List Start) (id : String) :
    (starts.foldl (postLeakNotification py) notices).get? id =
      if id = leakNotificationId then
        ((starts.filter (Start.Checked py)).getLast?.map (Start.notice py)).getD (notices.get? id)
      else notices.get? id := by
  induction starts using List.reverseRecOn with
  | nil => simp
  | append_singleton starts start ih =>
    rw [List.foldl_append, List.foldl_cons, List.foldl_nil, postLeakNotification_get?, ih, List.filter_append]
    by_cases hid : id = leakNotificationId
    · by_cases hc : start.Checked py
      · simp [hid, hc]
      · simp [hid, hc]
    · simp [hid]

/-! ### What the notification says -/

/-- The check gets as far as reading the UUIDs of the adapter, and these are they. -/
structure Start.Reads (start : Start) (uuids : List String) : Prop where
  library : start.bluez.dbusFast = true ∨ start.bluez.dbusNext = true
  connects : start.bluez.connect = .ok ()
  introspects : start.bluez.introspect (adapterDbusPath start.adapter) = .ok ()
  properties : start.bluez.getInterface (adapterDbusPath start.adapter) "org.freedesktop.DBus.Properties" = .ok ()
  pairable : start.bluez.set "Pairable" false = .ok ()
  discoverable : start.bluez.set "Discoverable" true = .ok ()
  uuids : start.bluez.uuids = .ok uuids

variable (py) in
def LeakingNames (uuids names : List String) : Prop :=
  List.Forall₂ (fun u name => (py.lower u, name) ∈ leakingUuidTable)
    (uuids.filter fun u => py.lower u ∈ leakingUuidTable.map Prod.fst) names

variable (py) in
def Start.Shows (start : Start) (notice : Option Notice) : Prop :=
  (∃ uuids names, start.Reads uuids ∧ LeakingNames py uuids names ∧ names ≠ [] ∧
    notice = some ⟨"bluetooth_api_bluez_leak", "Bluetooth API: BlueZ plugin conflict",
      leakIntro ++ String.intercalate "\n" (names.map ("- " ++ ·)) ++ leakFix⟩) ∨
    (∀ uuids, start.Reads uuids → LeakingNames py uuids []) ∧ notice = none

lemma classify_names (uuids : List String) : LeakingNames py uuids (classifyLeakingUuids py uuids) := by
  induction uuids with
  | nil => exact .nil
  | cons u uuids ih =>
    rw [LeakingNames, classifyLeakingUuids, List.filterMap_cons, List.filter_cons]
    cases hlookup : leakingUuidTable.lookup (py.lower u) with
    | none =>
      have hnot : py.lower u ∉ leakingUuidTable.map Prod.fst := by
        rintro hm
        obtain ⟨row, hrow, hkey⟩ := List.mem_map.mp hm
        simpa [hkey] using List.lookup_eq_none_iff.mp hlookup row hrow
      rw [if_neg (by simpa using hnot)]
      exact ih
    | some name =>
      obtain ⟨before, after, htable, -⟩ := List.lookup_eq_some_iff.mp hlookup
      have hrow : (py.lower u, name) ∈ leakingUuidTable := by
        rw [htable]
        exact List.mem_append_right _ List.mem_cons_self
      rw [if_pos (decide_eq_true (List.mem_map_of_mem hrow))]
      exact .cons hrow ih

lemma leaks_eq_some {names : List String} : leaks py start.bluez (adapterDbusPath start.adapter) = some names ↔
    ∃ uuids, start.Reads uuids ∧ classifyLeakingUuids py uuids = names := by
  rw [leaks]
  constructor
  · intro h
    split at h
    · rename_i hlibrary
      cases hcheck : start.bluez.connect >>= fun _ => survey py start.bluez (adapterDbusPath start.adapter) with
      | error e =>
        rw [hcheck] at h
        cases h
      | ok found =>
        rw [hcheck] at h
        obtain rfl := Option.some.inj h
        obtain ⟨⟨⟩, hconnect, hsurvey⟩ := bind_eq_ok.mp hcheck
        obtain ⟨⟨⟩, hintrospect, hsurvey⟩ := bind_eq_ok.mp hsurvey
        obtain ⟨⟨⟩, hproperties, hsurvey⟩ := bind_eq_ok.mp hsurvey
        obtain ⟨⟨⟩, hpairable, hsurvey⟩ := bind_eq_ok.mp hsurvey
        obtain ⟨⟨⟩, hdiscoverable, hsurvey⟩ := bind_eq_ok.mp hsurvey
        cases huuids : start.bluez.uuids with
        | error e =>
          rw [huuids] at hsurvey
          cases hsurvey
        | ok uuids =>
          rw [huuids] at hsurvey
          exact ⟨uuids, ⟨hlibrary, hconnect, hintrospect, hproperties, hpairable, hdiscoverable, huuids⟩,
            Except.ok.inj hsurvey⟩
    · cases h
  · rintro ⟨uuids, hreads, rfl⟩
    rw [if_pos hreads.library, survey, hreads.connects, hreads.introspects, hreads.properties, hreads.pairable,
      hreads.discoverable, hreads.uuids]
    rfl

lemma notice_shows (start : Start) : start.Shows py (start.notice py) := by
  rw [Start.notice]
  cases hleaks : leaks py start.bluez (adapterDbusPath start.adapter) with
  | none =>
    refine .inr ⟨fun uuids hreads => ?_, rfl⟩
    cases hleaks.symm.trans (leaks_eq_some.mpr ⟨uuids, hreads, rfl⟩)
  | some names =>
    obtain ⟨uuids, hreads, hnames⟩ := leaks_eq_some.mp hleaks
    have hlisted := @classify_names py uuids
    rw [hnames] at hlisted
    cases names with
    | nil =>
      refine .inr ⟨fun uuids' hreads' => ?_, rfl⟩
      obtain rfl := Except.ok.inj (hreads.uuids.symm.trans hreads'.uuids)
      exact hlisted
    | cons name names => exact .inl ⟨uuids, name :: names, hreads, hlisted, List.cons_ne_nil _ _, rfl⟩

variable (py)

theorem leak_notification_current (notices : Registry Notice.id) (starts : List Start) :
    (∀ id ≠ "bluetooth_api_bluez_leak",
      (starts.foldl (postLeakNotification py) notices).get? id = notices.get? id) ∧
    (∀ start, (starts.filter (Start.Checked py)).getLast? = some start →
      start.Shows py ((starts.foldl (postLeakNotification py) notices).get? "bluetooth_api_bluez_leak")) ∧
    (starts.filter (Start.Checked py) = [] →
      (starts.foldl (postLeakNotification py) notices).get? "bluetooth_api_bluez_leak" =
        notices.get? "bluetooth_api_bluez_leak") := by
  have hrun (id : String) := @postLeakNotifications_get? py notices starts id
  have hid : "bluetooth_api_bluez_leak" = leakNotificationId := rfl
  refine ⟨fun id hother => ?_, fun start hlast => ?_, fun hnone => ?_⟩
  · rw [hrun, if_neg (hid ▸ hother)]
  · rw [hrun, if_pos hid, hlast]
    exact notice_shows start
  · rw [hrun, if_pos hid, hnone]
    rfl

end HaBluetooth.Native
