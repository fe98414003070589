import HaBluetooth.Dispatcher.Handlers

/-! The dispatcher's record of the client, the listener it keeps on the event bus meanwhile, and what
the listener does with an event. -/

namespace HaBluetooth.Dispatcher

open Python Protocol Support

def cmdStateChange : ℕ := 0x30

structure ClientLink where
  bleClientConnected : Bool
  -- whether `_state_unsub` is set
  stateUnsub : Bool
  -- how many of the dispatcher's listeners the bus has
  listeners : ℕ
  deriving DecidableEq, Repr

namespace ClientLink

def init : ClientLink := ⟨false, false, 0⟩

def subscribeStateChanges (link : ClientLink) : ClientLink :=
  if link.stateUnsub then link else { link with stateUnsub := true, listeners := link.listeners + 1 }

def onBleClientConnected (link : ClientLink) : ClientLink :=
  if link.bleClientConnected then link else { link with bleClientConnected := true }.subscribeStateChanges

def onBleClientDisconnected (link : ClientLink) : ClientLink :=
  if !link.bleClientConnected then link
  else
    let link := { link with bleClientConnected := false }
    if link.stateUnsub then { link with stateUnsub := false, listeners := link.listeners - 1 } else link

end ClientLink

def Hass.onStateChanged (hass : Hass) : Option State → Option Value
  | none => none
  | some newState => if !hass.isExposed (.str newState.entityId) then none else some newState.toDict

def ClientLink.stateChanged (link : ClientLink) (hass : Hass) (newState : Option State) : List Value :=
  (List.replicate link.listeners newState).filterMap hass.onStateChanged

namespace Hass

variable {hass : Hass}

lemma onStateChanged_exposed {state : State} (h : hass.isExposed (.str state.entityId) = true) :
    hass.onStateChanged (some state) = some state.toDict := by
  rw [onStateChanged, h]
  rfl

lemma onStateChanged_hidden {state : State} (h : hass.isExposed (.str state.entityId) = false) :
    hass.onStateChanged (some state) = none := by
  rw [onStateChanged, h]
  rfl

end Hass

lemma ClientLink.stateChanged_silent {link : ClientLink} {hass : Hass} {newState : Option State}
    (h : hass.onStateChanged newState = none) : link.stateChanged hass newState = [] := by
  rw [stateChanged, List.filterMap_replicate_of_none h]

lemma ClientLink.stateChanged_loud {link : ClientLink} {hass : Hass} {newState : Option State} {obj : Value}
    (h : hass.onStateChanged newState = some obj) :
    link.stateChanged hass newState = List.replicate link.listeners obj := by
  rw [stateChanged, List.filterMap_replicate_of_some h]

lemma ClientLink.stateChanged_single {link : ClientLink} (h : link.listeners = 1) (hass : Hass)
    (newState : Option State) :
    link.stateChanged hass newState = (hass.onStateChanged newState).toList := by
  rw [stateChanged, h]
  cases hs : hass.onStateChanged newState <;> simp [hs]

end HaBluetooth.Dispatcher
