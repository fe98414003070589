import HaBluetooth.Support.Registry
import HaBluetooth.Python.Values
import Mathlib.Data.Finset.Basic

/-! The part of Home Assistant that the dispatcher reads and calls: the registries, the state
machine and the service bus. -/

namespace HaBluetooth.Dispatcher

open Python Support

structure AreaEntry where
  id : String
  name : String
  icon : Option String

structure LabelEntry where
  labelId : String
  name : String

structure DeviceEntry where
  id : String
  labels : Finset String

structure EntityEntry where
  entityId : String
  areaId : Option String
  deviceId : Option String
  labels : Finset String

/-- `lastChanged` is the ISO text of the time. -/
structure State where
  entityId : String
  domain : String
  state : String
  attributes : List (String × Value)
  lastChanged : Option String

/-- `callService` gives the outcome of a blocking service call under the dispatcher's time limit. -/
structure Hass where
  areas : Registry AreaEntry.id
  labels : Registry LabelEntry.labelId
  devices : Registry DeviceEntry.id
  entities : Registry EntityEntry.entityId
  states : Registry State.entityId
  normalizeName : String → String
  callService : Value → Value → Value → Result Unit

namespace Hass

def empty : Hass where
  areas := .empty
  labels := .empty
  devices := .empty
  entities := .empty
  states := .empty
  normalizeName name := String.ofList ((name.toList.filter (· ≠ ' ')).map Char.toLower)
  callService _ _ _ := .ok ()

variable (hass : Hass)

def labelByName (name : String) : Option LabelEntry :=
  hass.labels.items.find? fun label => decide (hass.normalizeName label.name = hass.normalizeName name)

def statesGet (py : Library) : Value → Option State
  | .str entityId => (hass.states.get? entityId).or (hass.states.get? (py.lower entityId))
  | _ => none

def entityEntry : Value → Option EntityEntry
  | .str entityId => hass.entities.get? entityId
  | _ => none

end Hass

end HaBluetooth.Dispatcher
