import HaBluetooth.Dispatcher.Answering
import HaBluetooth.Dispatcher.ExposurePaths
import HaBluetooth.Dispatcher.Machine
import HaBluetooth.Python.JsonReader

/-! What is sent depends on nothing that the home says of entities that are not exposed. -/

namespace HaBluetooth.Dispatcher

open Python Protocol Support

structure SameView (hass hass' : Hass) : Prop where
  areas : hass.areas = hass'.areas
  labels : hass.labels = hass'.labels
  devices : hass.devices = hass'.devices
  entities : hass.entities = hass'.entities
  normalizeName : hass.normalizeName = hass'.normalizeName
  present : ∀ e, (hass.states.get? e).isSome = (hass'.states.get? e).isSome
  exposed : hass.states.items.filter (fun state => hass.isExposed (.str state.entityId)) =
    hass'.states.items.filter fun state => hass'.isExposed (.str state.entityId)

/-- Home Assistant only registers lower-case entity ids. -/
def Hass.LowerCaseIds (hass : Hass) (py : Library) : Prop :=
  ∀ entry ∈ hass.entities.items, py.lower entry.entityId = entry.entityId

lemma Hass.deviceDicts_exposed (hass : Hass) (areaId : Value) :
    hass.deviceDicts areaId = (hass.states.items.filter fun state => hass.isExposed (.str state.entityId)).filterMap
      fun state => (hass.listedEntry areaId state).map (hass.listedDict state) := by
  rw [deviceDicts_eq, List.filterMap_filter]
  refine List.filterMap_congr fun state _ => ?_
  cases hx : hass.isExposed (.str state.entityId) with
  | true => rfl
  | false =>
    have hnone : hass.listedEntry areaId state = none := by
      rw [listedEntry, Option.filter_eq_none_iff]
      intro entry hentry hlisted
      have hexp : hass.isExposed (.str state.entityId) = true :=
        hass.isExposed_iff.mpr ⟨entry, hentry, of_decide_eq_true (Bool.and_eq_true_iff.mp hlisted).1⟩
      rw [hx] at hexp
      cases hexp
    rw [hnone]
    rfl

namespace SameView

variable {hass hass' : Hass} (h : SameView hass hass')
include h

lemma other : hass' = { hass with states := hass'.states, callService := hass'.callService } := by
  obtain ⟨ha, hl, hd, he, hn, -, -⟩ := h
  rw [ha, hl, hd, he, hn]

lemma isExposed (v : Value) : hass.isExposed v = hass'.isExposed v := by
  rw [h.other]
  rfl

lemma onStateChanged (newState : Option State) : hass.onStateChanged newState = hass'.onStateChanged newState := by
  cases newState with
  | none => rfl
  | some state => simp only [Hass.onStateChanged, h.isExposed]

lemma stateOf {e : String} (hx : hass.isExposed (.str e) = true) : hass.states.get? e = hass'.states.get? e := by
  have hx' := h.isExposed (.str e) ▸ hx
  apply Option.ext
  intro state
  have hmem : state ∈ hass.states.items.filter (fun state => hass.isExposed (.str state.entityId)) ↔
      state ∈ hass'.states.items.filter fun state => hass'.isExposed (.str state.entityId) := by rw [h.exposed]
  simp only [List.mem_filter] at hmem
  simp only [Registry.get?_eq_some]
  constructor
  · rintro ⟨hm, rfl⟩
    exact ⟨(hmem.mp ⟨hm, hx⟩).1, rfl⟩
  · rintro ⟨hm, rfl⟩
    exact ⟨(hmem.mpr ⟨hm, hx'⟩).1, rfl⟩

lemma statesGet_isSome (py : Library) (v : Value) : (hass.statesGet py v).isSome = (hass'.statesGet py v).isSome := by
  cases v with
  | str e => simp only [Hass.statesGet, Option.isSome_or, h.present]
  | _ => rfl

lemma statesGet {py : Library} (hlower : hass.LowerCaseIds py) {v : Value} (hx : hass.isExposed v = true) :
    hass.statesGet py v = hass'.statesGet py v := by
  cases v with
  | str e =>
    obtain ⟨entry, hentry, -⟩ := hass.isExposed_iff.mp hx
    obtain ⟨hm, rfl⟩ := hass.entities.get?_eq_some.mp hentry
    simp only [Hass.statesGet, hlower entry hm, h.stateOf hx]
  | _ => rfl

lemma deviceDicts (areaId : Value) : hass.deviceDicts areaId = hass'.deviceDicts areaId := by
  have hlisted : hass.listedEntry = hass'.listedEntry := by
    rw [h.other]
    rfl
  have hdict : hass.listedDict = hass'.listedDict := by
    rw [h.other]
    rfl
  rw [hass.deviceDicts_exposed, hass'.deviceDicts_exposed, h.exposed, hlisted, hdict]

lemma reply {py : Library} (hlower : hass.LowerCaseIds py) (q : Query) : hass.reply py q = hass'.reply py q := by
  cases q with
  | areas => simp only [Hass.reply, h.areas]
  | devices areaId => simp only [Hass.reply, h.deviceDicts]
  | dashboards =>
    rw [h.other]
    rfl
  | state v =>
    have hsome := h.statesGet_isSome py v
    cases hx : hass.isExposed v with
    | true =>
      have hx' := h.isExposed v ▸ hx
      simp only [Hass.reply, hx, hx', h.statesGet hlower hx]
    | false =>
      have hx' := h.isExposed v ▸ hx
      simp only [Hass.reply, hx, hx']
      cases hs : hass.statesGet py v <;> cases hs' : hass'.statesGet py v <;> simp_all

end SameView

/-! ### Two runs -/

def Task.Quiet : Task → Prop
  | .reply cmd _ => cmd ∈ [cmdReqAreas, cmdReqDevices, cmdReqDashboards, cmdReqState]
  | .called _ _ _ => False
  | .push _ => True

def NoService (passcode : UInt32) (raw : Bytes) : Prop :=
  ∀ payload, decodePacket raw ≠ some (passcode.toNat, cmdCallService, payload)

def Silent (hass : Hass) (newState : Option State) : Prop :=
  ∀ state, newState = some state → ¬ hass.Exposes state.entityId

def Input.Query (passcode : UInt32) : Input → Prop
  | .receive raw => NoService passcode raw
  | .resume _ | .stateChanged _ | .connected | .disconnected => True

/-- The same steps but for the hidden part of the home and for events about hidden entities. -/
inductive Alike (py : Library) (passcode : UInt32) : List (Moment × Input) → List (Moment × Input) → Prop
  | nil : Alike py passcode [] []
  | both {hass hass' : Hass} {sendRaw : Bytes → Result Unit} {i : Input} {ms ms' : List (Moment × Input)} :
      SameView hass hass' → hass.LowerCaseIds py → i.Query passcode → Alike py passcode ms ms' →
      Alike py passcode ((⟨hass, sendRaw⟩, i) :: ms) ((⟨hass', sendRaw⟩, i) :: ms')
  | left {m : Moment} {newState : Option State} {ms ms' : List (Moment × Input)} :
      Silent m.hass newState → Alike py passcode ms ms' → Alike py passcode ((m, .stateChanged newState) :: ms) ms'
  | right {m : Moment} {newState : Option State} {ms ms' : List (Moment × Input)} :
      Silent m.hass newState → Alike py passcode ms ms' → Alike py passcode ms ((m, .stateChanged newState) :: ms')

section

variable {py : Library} {passcode : UInt32} {hass hass' : Hass} {sendRaw : Bytes → Result Unit}

lemma Silent.onStateChanged {newState : Option State} (h : Silent hass newState) :
    hass.onStateChanged newState = none := by
  cases newState with
  | none => rfl
  | some state =>
    have hx := h state rfl
    rw [← hass.isExposed_iff_exposes, Bool.not_eq_true] at hx
    exact Hass.onStateChanged_hidden hx

lemma advance_sameView (h : SameView hass hass') (hlower : hass.LowerCaseIds py) {task : Task} (ht : task.Quiet) :
    PacketDispatcher.advance py ⟨hass, passcode, sendRaw⟩ task =
      PacketDispatcher.advance py ⟨hass', passcode, sendRaw⟩ task := by
  cases task with
  | push obj => rfl
  | called => exact ht.elim
  | reply cmd payload =>
    simp only [Task.Quiet, List.mem_cons, List.not_mem_nil, or_false] at ht
    rcases ht with rfl | rfl | rfl | rfl
    · change PacketDispatcher.sendPacket ⟨hass, passcode, sendRaw⟩ (hass.reply py .areas).1
        (hass.reply py .areas).2 >>= _ = _
      rw [h.reply hlower]
      rfl
    · change (Traced.lift (payload.get "area_id" .null) >>= fun areaId => PacketDispatcher.sendPacket
        ⟨hass, passcode, sendRaw⟩ (hass.reply py (.devices areaId)).1 (hass.reply py (.devices areaId)).2 >>= _) = _
      simp only [h.reply hlower]
      rfl
    · change PacketDispatcher.sendPacket ⟨hass, passcode, sendRaw⟩ (hass.reply py .dashboards).1
        (hass.reply py .dashboards).2 >>= _ = _
      rw [h.reply hlower]
      rfl
    · change (Traced.lift (payload.get "entity_id" (.str "")) >>= fun entityId =>
        PacketDispatcher.handleReqState py ⟨hass, passcode, sendRaw⟩ entityId >>= _) =
        (Traced.lift (payload.get "entity_id" (.str "")) >>= fun entityId =>
        PacketDispatcher.handleReqState py ⟨hass', passcode, sendRaw⟩ entityId >>= _)
      simp only [PacketDispatcher.handleReqState_eq, h.reply hlower]
      rfl

def Machine.Quiet (s : Machine) : Prop := ∀ task ∈ s.tasks, task.Quiet

variable {s : Machine}

lemma perform_quiet (hq : s.Quiet) {r : Run (Option Task)} (hr : ∀ task, r.result = .ok (some task) → task.Quiet) :
    (s.perform r).Quiet := by
  intro task ht
  rcases List.mem_append.mp ht with ht | ht
  · exact hq task ht
  · apply hr task
    cases hres : r.result with
    | error e => simp [hres, Except.toOption] at ht
    | ok o => simpa [hres, Except.toOption] using ht

lemma acknowledge_quiet {raw : Bytes} (hraw : NoService passcode raw) {task : Task}
    (h : (PacketDispatcher.acknowledge py ⟨hass, passcode, sendRaw⟩ raw).result = .ok (some task)) : task.Quiet := by
  obtain ⟨cmd, payloadBytes, hdec, hcmd, rfl⟩ := PacketDispatcher.acknowledge_task h
  have hne : cmd ≠ cmdCallService := fun hc => hraw payloadBytes (hc ▸ hdec)
  simp only [List.mem_cons, List.not_mem_nil, or_false, hne] at hcmd
  simpa only [Task.Quiet, List.mem_cons, List.not_mem_nil, or_false] using hcmd

lemma advance_quiet {self : PacketDispatcher} {task task' : Task} (ht : task.Quiet) :
    (self.advance py task).result ≠ .ok (some task') := by
  intro h
  obtain ⟨cmd, payload, rfl, hcmd, -⟩ := PacketDispatcher.advance_task h
  exact hcmd ht

lemma step_alike (h : SameView hass hass') (hlower : hass.LowerCaseIds py) {i : Input} (hi : i.Query passcode)
    (hq : s.Quiet) : s.step py passcode (⟨hass, sendRaw⟩, i) = s.step py passcode (⟨hass', sendRaw⟩, i) ∧
      (s.step py passcode (⟨hass, sendRaw⟩, i)).Quiet := by
  cases i with
  | receive raw => exact ⟨rfl, perform_quiet hq fun task => acknowledge_quiet hi⟩
  | resume i =>
    simp only [Machine.step]
    cases ht : s.tasks[i]? with
    | none => exact ⟨rfl, hq⟩
    | some task =>
      have htask := hq task (List.mem_of_getElem? ht)
      dsimp only
      refine ⟨by rw [advance_sameView h hlower htask], perform_quiet ?_ fun task' h' => ?_⟩
      · exact fun other ho => hq other (List.mem_of_mem_eraseIdx ho)
      · exact (advance_quiet htask h').elim
  | stateChanged newState =>
    have hpush : s.link.stateChanged hass newState = s.link.stateChanged hass' newState :=
      List.filterMap_congr fun newState _ => h.onStateChanged newState
    refine ⟨by simp only [Machine.step, hpush], fun task ht => ?_⟩
    rcases List.mem_append.mp ht with ht | ht
    · exact hq task ht
    · obtain ⟨obj, -, rfl⟩ := List.mem_map.mp ht
      trivial
  | connected => exact ⟨rfl, hq⟩
  | disconnected => exact ⟨rfl, hq⟩

lemma step_silent {m : Moment} {newState : Option State} (h : Silent m.hass newState) :
    s.step py passcode (m, .stateChanged newState) = s := by
  simp only [Machine.step, ClientLink.stateChanged_silent h.onStateChanged, List.map_nil, List.append_nil]

theorem hidden_states_uninfluential {ms ms' : List (Moment × Input)} (h : Alike py passcode ms ms') (hq : s.Quiet) :
    (s.run py passcode ms).sent = (s.run py passcode ms').sent := by
  induction h generalizing s with
  | nil => rfl
  | both hview hlower hi _ ih =>
    obtain ⟨hsame, hquiet⟩ := step_alike hview hlower hi hq
    rw [Machine.run_cons, Machine.run_cons, ← hsame]
    exact ih hquiet
  | left hsilent _ ih =>
    rw [Machine.run_cons, step_silent hsilent]
    exact ih hq
  | right hsilent _ ih =>
    rw [Machine.run_cons, step_silent hsilent]
    exact ih hq

def lampAndSensor (reading : String) : Hass :=
  { PacketDispatcher.labelledLamp with
    states := ⟨[⟨"light.lamp", "light", "on", [], none⟩, ⟨"sensor.cell", "sensor", reading, [], none⟩], by simp⟩ }

lemma lampAndSensor_sameView (reading reading' : String) :
    SameView (lampAndSensor reading) (lampAndSensor reading') := by
  have hlamp (r : String) : (lampAndSensor r).isExposed (.str "light.lamp") = true :=
    (by decide +kernel : PacketDispatcher.labelledLamp.isExposed (.str "light.lamp") = true)
  have hsensor (r : String) : (lampAndSensor r).isExposed (.str "sensor.cell") = false :=
    (by decide +kernel : PacketDispatcher.labelledLamp.isExposed (.str "sensor.cell") = false)
  have hitems (r : String) : (lampAndSensor r).states.items =
    [⟨"light.lamp", "light", "on", [], none⟩, ⟨"sensor.cell", "sensor", r, [], none⟩] := rfl
  refine ⟨rfl, rfl, rfl, rfl, rfl, fun e => ?_, ?_⟩
  · rw [Bool.eq_iff_iff, Registry.get?, Registry.get?, hitems, hitems, List.find?_isSome, List.find?_isSome]
    simp
  · simp only [hitems, List.filter_cons, hlamp, hsensor, if_true, List.filter_nil]
    rfl

def askSensor : Bytes :=
  [0xAA, 0xBB, 0, 0, 0, 1, 0x20, 0, 0, 27] ++ "\x7b\"entity_id\":\"sensor.cell\"\x7d".toUTF8.toList ++
    [0x45, 0x75, 0xCC, 0xDD]

def withReading (reading : String) (i : Input) : Moment × Input := (⟨lampAndSensor reading, fun _ => .ok ()⟩, i)

def changing : List (Moment × Input) :=
  [withReading "3.1" (.receive PacketDispatcher.askDevices), withReading "3.1" (.resume 0),
    withReading "3.0" (.stateChanged (some ⟨"sensor.cell", "sensor", "3.0", [], none⟩)),
    withReading "3.0" (.receive askSensor), withReading "3.0" (.resume 0)]

def unchanging : List (Moment × Input) :=
  [withReading "4.2" (.receive PacketDispatcher.askDevices), withReading "4.2" (.resume 0),
    withReading "4.2" (.receive askSensor), withReading "4.2" (.resume 0)]

theorem hidden_states_uninfluential_sensor :
    (Machine.run jsonLibrary 1 ⟨ClientLink.init.onBleClientConnected, [], []⟩ changing).sent =
      (Machine.run jsonLibrary 1 ⟨ClientLink.init.onBleClientConnected, [], []⟩ unchanging).sent ∧
    (Machine.run jsonLibrary 1 ⟨ClientLink.init.onBleClientConnected, [], []⟩ unchanging).sent.length = 4 := by
  have hlower (r : String) : (lampAndSensor r).LowerCaseIds jsonLibrary := by
    intro entry hentry
    obtain rfl := List.mem_singleton.mp hentry
    decide +kernel
  have hsilent : Silent (lampAndSensor "3.0") (some ⟨"sensor.cell", "sensor", "3.0", [], none⟩) := by
    intro state hstate
    obtain rfl := Option.some.inj hstate
    rw [← Hass.isExposed_iff_exposes, Bool.not_eq_true]
    exact (by decide +kernel : PacketDispatcher.labelledLamp.isExposed (.str "sensor.cell") = false)
  have hquery {raw : Bytes} (hcmd : (decodePacket raw).map (fun r => r.2.1) ≠ some cmdCallService) :
      (Input.receive raw).Query 1 := fun payload h => hcmd (by rw [h]; rfl)
  have hresume : (Input.resume 0).Query 1 := trivial
  refine ⟨hidden_states_uninfluential ?_ fun task ht => absurd ht List.not_mem_nil, by decide +kernel⟩
  apply Alike.both (lampAndSensor_sameView _ _) (hlower _) (hquery (by decide +kernel))
  apply Alike.both (lampAndSensor_sameView _ _) (hlower _) hresume
  apply Alike.left hsilent
  apply Alike.both (lampAndSensor_sameView _ _) (hlower _) (hquery (by decide +kernel))
  exact Alike.both (lampAndSensor_sameView _ _) (hlower _) hresume .nil

end

end HaBluetooth.Dispatcher
