import HaBluetooth.Dispatcher.Tasks

/-! A dispatcher under any schedule: packets arrive, suspended tasks are resumed, the client comes and
goes and states change, in any order and each against the home as it is then. -/

namespace HaBluetooth.Dispatcher

open Python Support

structure Moment where
  hass : Hass
  sendRaw : Bytes → Result Unit

inductive Input
  | receive (raw : Bytes)
  | resume (i : ℕ)
  | stateChanged (newState : Option State)
  | connected
  | disconnected

structure Machine where
  link : ClientLink
  tasks : List Task
  effects : List Effect

namespace Machine

def sent (s : Machine) : List Bytes := s.effects.filterMap Effect.bytes

def perform (s : Machine) (r : Run (Option Task)) : Machine :=
  { s with effects := s.effects ++ r.events, tasks := s.tasks ++ (r.result.toOption.bind id).toList }

variable (py : Library) (passcode : UInt32)

def step (s : Machine) : Moment × Input → Machine
  | (m, .receive raw) => s.perform (PacketDispatcher.acknowledge py ⟨m.hass, passcode, m.sendRaw⟩ raw)
  | (m, .resume i) =>
    match s.tasks[i]? with
    | none => s
    | some task =>
      { s with tasks := s.tasks.eraseIdx i }.perform (PacketDispatcher.advance py ⟨m.hass, passcode, m.sendRaw⟩ task)
  | (m, .stateChanged newState) =>
    { s with tasks := s.tasks ++ (s.link.stateChanged m.hass newState).map .push }
  | (_, .connected) => { s with link := s.link.onBleClientConnected }
  | (_, .disconnected) => { s with link := s.link.onBleClientDisconnected }

def run (s : Machine) (ms : List (Moment × Input)) : Machine := ms.foldl (step py passcode) s

lemma run_cons (s : Machine) (m : Moment × Input) (ms : List (Moment × Input)) :
    s.run py passcode (m :: ms) = (s.step py passcode m).run py passcode ms := rfl

end Machine

end HaBluetooth.Dispatcher
