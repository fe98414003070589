import HaBluetooth.Integration.FlowRuns
import Mathlib.Data.List.Sort
import Mathlib.Data.String.Basic

/-! The scan for serial ports: best first, so that a user who only confirms gets the best gateway there is. -/

namespace HaBluetooth.Integration

open Python

def espressifNativeVid : ℕ := 0x303A

def usbBridgeVids : List ℕ := [0x10C4, 0x1A86, 0x0403, 0x067B]

structure ComPort where
  device : String
  vid : Option ℕ
  pid : Option ℕ
  description : Option String
  manufacturer : Option String

section

variable (py : Library)

/-- The link under `/dev/serial/by-id`, where there is one; `links` are those that resolve, as (target, link). -/
def stablePath (links : List (String × String)) (device : String) : String := (links.reverse.lookup device).getD device

def ComPort.score (p : ComPort) : ℤ :=
  let vid := p.vid.getD 0
  if vid = espressifNativeVid then 100 else if vid ∈ usbBridgeVids then 50 else 0

def ComPort.parts (p : ComPort) : List String :=
  let vid := p.vid.getD 0
  let pid := p.pid.getD 0
  let desc := strip (p.description.getD "")
  let manufacturer := strip (p.manufacturer.getD "")
  (if manufacturer ≠ "" ∧ ¬ (py.lower manufacturer).toList <:+: (py.lower desc).toList then [manufacturer] else []) ++
    (if desc ≠ "" ∧ py.lower desc ∉ ["n/a", "unknown"] then [desc] else []) ++
    if vid ≠ 0 ∧ pid ≠ 0 then [s!"{upperHex 4 vid}:{upperHex 4 pid}"] else []

def describePort (links : List (String × String)) (p : ComPort) : SerialPort where
  path := stablePath links p.device
  label :=
    let suffix := " — ".intercalate (p.parts py)
    if suffix ≠ "" then s!"{stablePath links p.device}  ({suffix})" else stablePath links p.device
  score := p.score

/-- The sort key is `(-score, path)`. -/
def Before (p q : SerialPort) : Prop := q.score < p.score ∨ q.score = p.score ∧ p.path ≤ q.path

instance : DecidableRel Before := fun _ _ => inferInstanceAs (Decidable (_ ∨ _))

def listSerialPorts (links : List (String × String)) (ports : List ComPort) : List SerialPort :=
  (ports.map (describePort py links)).insertionSort Before

end

instance : Std.Total Before where
  total p q := by
    rcases lt_trichotomy p.score q.score with h | h | h
    · exact .inr (.inl h)
    · exact (le_total p.path q.path).imp (fun hp => .inr ⟨h.symm, hp⟩) fun hp => .inr ⟨h, hp⟩
    · exact .inl (.inl h)

instance : IsTrans SerialPort Before where
  trans p q r hpq hqr := by
    rcases hpq with hpq | ⟨hpq, hp⟩
    · rcases hqr with hqr | ⟨hqr, -⟩
      · exact .inl (hqr.trans hpq)
      · exact .inl (hqr.trans_lt hpq)
    · rcases hqr with hqr | ⟨hqr, hq⟩
      · exact .inl (hqr.trans_eq hpq)
      · exact .inr ⟨hqr.trans hpq, hp.trans hq⟩

lemma Before.score_le {p q : SerialPort} (h : Before p q) : q.score ≤ p.score := h.elim le_of_lt fun h => h.1.le

section

variable (py : Library) (links : List (String × String)) (ports : List ComPort)

lemma listSerialPorts_perm : (listSerialPorts py links ports).Perm (ports.map (describePort py links)) :=
  List.perm_insertionSort ..

lemma listSerialPorts_sorted : (listSerialPorts py links ports).Pairwise Before := List.pairwise_insertionSort ..

lemma listSerialPorts_best {port : SerialPort} {rest : List SerialPort}
    (h : listSerialPorts py links ports = port :: rest) :
    (∃ p ∈ ports, port = describePort py links p) ∧ ∀ p ∈ ports, p.score ≤ port.score := by
  have hperm := listSerialPorts_perm py links ports
  have hsorted := listSerialPorts_sorted py links ports
  rw [h] at hperm hsorted
  constructor
  · obtain ⟨p, hp, hd⟩ := List.mem_map.mp (hperm.mem_iff.mp List.mem_cons_self)
    exact ⟨p, hp, hd.symm⟩
  · intro p hp
    have hmem : describePort py links p ∈ port :: rest := hperm.mem_iff.mpr (List.mem_map_of_mem hp)
    rcases List.mem_cons.mp hmem with heq | hrest
    · exact (congrArg SerialPort.score heq).le
    · exact (List.rel_of_pairwise_cons hsorted hrest).score_le

end

/-! ### What the best port is -/

/-- The last link to the device, or the device itself when there is none. -/
def StablePath (links : List (String × String)) (device path : String) : Prop :=
  (∃ before after, links = before ++ (device, path) :: after ∧ ∀ link ∈ after, link.1 ≠ device) ∨
    (∀ link ∈ links, link.1 ≠ device) ∧ path = device

def ComPort.IsNative (p : ComPort) : Prop := p.vid = some 0x303A

def ComPort.IsBridge (p : ComPort) : Prop :=
  p.vid = some 0x10C4 ∨ p.vid = some 0x1A86 ∨ p.vid = some 0x0403 ∨ p.vid = some 0x067B

structure Best (ports : List ComPort) (p : ComPort) : Prop where
  mem : p ∈ ports
  native : ∀ q ∈ ports, q.IsNative → p.IsNative
  bridge : ∀ q ∈ ports, q.IsBridge → p.IsNative ∨ p.IsBridge

lemma stablePath_stable (links : List (String × String)) (device : String) :
    StablePath links device (stablePath links device) := by
  rw [stablePath]
  cases hlookup : links.reverse.lookup device with
  | none =>
    refine .inr ⟨fun link hl => ?_, rfl⟩
    have hne := List.lookup_eq_none_iff.mp hlookup link (List.mem_reverse.mpr hl)
    exact fun he => by simp [he] at hne
  | some path =>
    obtain ⟨before, after, hlinks, hbefore⟩ := List.lookup_eq_some_iff.mp hlookup
    refine .inl ⟨after.reverse, before.reverse, ?_, fun link hl => ?_⟩
    · rw [← List.reverse_reverse links, hlinks]
      simp
    · have hne := hbefore link (List.mem_reverse.mp hl)
      exact fun he => by simp [he] at hne

lemma ComPort.score_cases (p : ComPort) : (p.score = 100 ∧ p.IsNative) ∨
    (p.score = 50 ∧ ¬ p.IsNative ∧ p.IsBridge) ∨ (p.score = 0 ∧ ¬ p.IsNative ∧ ¬ p.IsBridge) := by
  obtain ⟨device, vid, pid, description, manufacturer⟩ := p
  cases vid with
  | none => simp [score, IsNative, IsBridge, espressifNativeVid, usbBridgeVids]
  | some vid =>
    simp only [score, IsNative, IsBridge, espressifNativeVid, usbBridgeVids, Option.getD_some, Option.some.injEq,
      List.mem_cons, List.not_mem_nil, or_false]
    by_cases hn : vid = 0x303A
    · simp [hn]
    · by_cases hb : vid = 0x10C4 ∨ vid = 0x1A86 ∨ vid = 0x0403 ∨ vid = 0x067B
      · simp [hn, hb]
      · simp [hn, hb]

lemma best_of_score {ports : List ComPort} {p : ComPort} (hp : p ∈ ports) (h : ∀ q ∈ ports, q.score ≤ p.score) :
    Best ports p where
  mem := hp
  native q hq hn := by
    have hle := h q hq
    rcases p.score_cases with ⟨-, hpn⟩ | ⟨hs, -⟩ | ⟨hs, -⟩
    · exact hpn
    all_goals
      rcases q.score_cases with ⟨ht, -⟩ | ⟨-, hqn, -⟩ | ⟨-, hqn, -⟩
      · omega
      · exact absurd hn hqn
      · exact absurd hn hqn
  bridge q hq hb := by
    have hle := h q hq
    rcases p.score_cases with ⟨-, hpn⟩ | ⟨-, -, hpb⟩ | ⟨hs, -⟩
    · exact .inl hpn
    · exact .inr hpb
    · rcases q.score_cases with ⟨ht, -⟩ | ⟨ht, -⟩ | ⟨-, -, hqb⟩
      · omega
      · omega
      · exact absurd hb hqb

/-! ### A user who only confirms -/

def Form.defaults (form : Form) : EntryData :=
  form.schema.filterMap fun field => field.default.map fun v => (field.key, v)

namespace Wizard

variable (py : Library) (int : Value → Result ℤ) (hass : FlowHass)

def confirm (s : Wizard) : Wizard := s.step py int ⟨hass, some s.form.defaults⟩

variable {py int hass} {passcode : UInt32} {found : List SerialPort}

lemma confirm_user (hfound : hass.serialPorts = .ok found) : (start passcode).confirm py int hass =
    ⟨.init passcode, esp32Form found, none, [⟨hass, .user, userForm.defaults⟩]⟩ := by
  have hstep : stepOf py int hass .user (some userForm.defaults) (.init passcode) =
      (Flow.lift hass.serialPorts >>= fun ports => pure (.form (esp32Form ports)) : Flow _) (.init passcode) := rfl
  rw [hfound] at hstep
  exact step_form rfl hstep

lemma confirm_typed {flow : ConfigFlow} {answers : List Answer} :
    confirm py int hass ⟨flow, esp32ManualForm, none, answers⟩ =
      ⟨{ flow with usbPort := .str confUsbPortDefault }, esp32ManualForm,
        some (ConfigFlow.title py { flow with usbPort := .str confUsbPortDefault },
          ConfigFlow.entryData { flow with usbPort := .str confUsbPortDefault }),
        answers ++ [⟨hass, .esp32Manual, esp32ManualForm.defaults⟩]⟩ := rfl

lemma confirm_none {flow : ConfigFlow} {answers : List Answer} :
    confirm py int hass ⟨flow, esp32Form [], none, answers⟩ =
      ⟨flow, esp32ManualForm, none, answers ++ [⟨hass, .esp32, (esp32Form []).defaults⟩]⟩ := rfl

lemma confirm_port {flow : ConfigFlow} {answers : List Answer} {port : SerialPort} {rest : List SerialPort}
    (hp : port.path ≠ manualPortSentinel) : confirm py int hass ⟨flow, esp32Form (port :: rest), none, answers⟩ =
      ⟨{ flow with usbPort := .str port.path }, esp32Form (port :: rest),
        some (ConfigFlow.title py { flow with usbPort := .str port.path },
          ConfigFlow.entryData { flow with usbPort := .str port.path }),
        answers ++ [⟨hass, .esp32, (esp32Form (port :: rest)).defaults⟩]⟩ := by
  have hstep : stepOf py int hass .esp32 (some (esp32Form (port :: rest)).defaults) flow =
      (if equalsStr (.str port.path) manualPortSentinel then stepEsp32Manual py none else do
        modify fun self => { self with usbPort := .str port.path }
        finish py : Flow _) flow := rfl
  rw [equalsStr_str, if_neg (by simpa using hp)] at hstep
  exact step_createEntry rfl hstep

theorem confirmed_gateway {links : List (String × String)} {ports : List ComPort}
    (hports : hass.serialPorts = .ok (listSerialPorts py links ports))
    (hpaths : ∀ p ∈ ports, ∀ path, StablePath links p.device path → path ≠ "__manual__") :
    ∃ title data path, ((confirm py int hass)^[3] (start passcode)).created = some (title, data) ∧
      Describes int data (.usbSerial (.str path) (.int passcode.toNat)) ∧
      ((ports = [] ∧ path = "/dev/ttyACM0") ∨ ∃ p, Best ports p ∧ StablePath links p.device path) := by
  change ∃ title data path, (((start passcode).confirm py int hass).confirm py int hass
    |>.confirm py int hass).created = some (title, data) ∧ _ ∧ _
  rw [confirm_user hports]
  cases hfound : listSerialPorts py links ports with
  | nil =>
    rw [confirm_none, confirm_typed]
    refine ⟨_, _, confUsbPortDefault, rfl, ConfigFlow.describes_usbSerial rfl, .inl ⟨?_, rfl⟩⟩
    have hperm := listSerialPorts_perm py links ports
    rw [hfound] at hperm
    exact List.map_eq_nil_iff.mp hperm.nil_eq.symm
  | cons port rest =>
    obtain ⟨⟨p, hp, rfl⟩, hbest⟩ := listSerialPorts_best py links ports hfound
    have hstable := stablePath_stable links p.device
    rw [confirm_port (hpaths p hp _ hstable)]
    exact ⟨_, _, stablePath links p.device, rfl, ConfigFlow.describes_usbSerial rfl,
      .inr ⟨p, best_of_score hp hbest, hstable⟩⟩

def threePorts : List ComPort :=
  [⟨"/dev/ttyS0", none, none, none, none⟩, ⟨"/dev/ttyUSB0", some 0x10C4, some 0xEA60, some "CP2102", none⟩,
    ⟨"/dev/ttyACM0", some 0x303A, some 0x1001, none, none⟩]

def espLink : List (String × String) := [("/dev/ttyACM0", "/dev/serial/by-id/usb-Espressif")]

def threePortsHass : FlowHass :=
  ⟨.ok (listSerialPorts .ascii espLink threePorts), .ok [], .ok [], fun _ => .ok ()⟩

theorem confirmed_gateway_linked :
    ∃ title data path, ((confirm .ascii plainInt threePortsHass)^[3] (start 7)).created = some (title, data) ∧
      Describes plainInt data (.usbSerial (.str path) (.int (7 : UInt32).toNat)) ∧
      ((threePorts = [] ∧ path = "/dev/ttyACM0") ∨
        ∃ p, Best threePorts p ∧ StablePath espLink p.device path) := by
  refine confirmed_gateway rfl ?_
  rintro p hp path (⟨before, after, hlinks, -⟩ | ⟨-, rfl⟩)
  · have hlink : (p.device, path) ∈ espLink := by simp [hlinks]
    obtain ⟨-, rfl⟩ := Prod.mk.inj (List.mem_singleton.mp hlink)
    decide
  · revert p
    decide

end Wizard

end HaBluetooth.Integration
