import HaBluetooth.Python.Runtime

/-! Python objects as they travel through JSON, with the operations the handlers apply to them. -/

namespace HaBluetooth.Python

/-- A float is named by its `repr`. `datetime` covers dates and times, by their ISO text; `object`
is anything the serializer does not know. -/
inductive Value
  | null
  | bool (b : Bool)
  | int (i : ℤ)
  | float (repr : String)
  | str (s : String)
  | list (items : List Value)
  | dict (entries : List (String × Value))
  | datetime (isoformat : String)
  | object (typeName : String)

namespace Value

def ofOption : Option String → Value
  | some s => .str s
  | none => .null

def typeName : Value → String
  | .null => "NoneType"
  | .bool _ => "bool"
  | .int _ => "int"
  | .float _ => "float"
  | .str _ => "str"
  | .list _ => "list"
  | .dict _ => "dict"
  | .datetime _ => "datetime"
  | .object t => t

def truthy : Value → Bool
  | .null => false
  | .bool b => b
  | .int i => i ≠ 0
  | .float r => r ≠ "0.0" ∧ r ≠ "-0.0"
  | .str s => s ≠ ""
  | .list items => !items.isEmpty
  | .dict entries => !entries.isEmpty
  | .datetime _ | .object _ => true

def get (v : Value) (key : String) (default : Value) : Result Value :=
  match v with
  | .dict entries => .ok ((entries.lookup key).getD default)
  | v => .error ⟨.attributeError, s!"'{v.typeName}' object has no attribute 'get'"⟩

def insertEntry (key : String) (item : Value) : List (String × Value) → List (String × Value)
  | [] => [(key, item)]
  | (k, v) :: entries => if k = key then (k, item) :: entries else (k, v) :: insertEntry key item entries

def setItem (v : Value) (key : String) (item : Value) : Result Value :=
  match v with
  | .dict entries => .ok (.dict (insertEntry key item entries))
  | .list _ => .error ⟨.typeError, "list indices must be integers or slices, not str"⟩
  | v => .error ⟨.typeError, s!"'{v.typeName}' object does not support item assignment"⟩

def IsDict (v : Value) : Prop := ∃ entries, v = .dict entries

end Value

/-- Library functions whose results the handlers only pass on: `json.loads` (`none` stands for
JSONDecodeError), `str.lower`, and `str` of anything that is not a string. -/
structure Library where
  loads : String → Option Value
  lower : String → String
  repr : Value → String

def Library.str (py : Library) : Value → String
  | .str s => s
  | v => py.repr v

/-- The library on plain ASCII text and on the JSON text of an empty array. -/
def Library.ascii : Library where
  loads s := if s = "[]" then some (.list []) else none
  lower s := String.ofList (s.toList.map Char.toLower)
  repr := Value.typeName

/-- `bytes.decode()`; `none` stands for UnicodeDecodeError. -/
def decodeUtf8 (bs : Bytes) : Option String := String.fromUTF8? bs.toByteArray

lemma Value.get_dict (entries : List (String × Value)) (key : String) (default : Value) :
    (Value.dict entries).get key default = .ok ((entries.lookup key).getD default) := rfl

lemma Value.get_error {v : Value} (h : ¬ v.IsDict) (key : String) (default : Value) :
    ∃ e, v.get key default = .error e := by
  cases v <;> first | exact ⟨_, rfl⟩ | exact (h ⟨_, rfl⟩).elim

lemma Value.get_ok {v : Value} {key : String} {default item : Value} (h : v.get key default = .ok item) :
    v.IsDict := by
  by_contra hv
  obtain ⟨e, he⟩ := Value.get_error hv key default
  rw [he] at h
  cases h

lemma Value.setItem_ok {v : Value} {key : String} {item : Value} :
    (∃ w, v.setItem key item = .ok w) ↔ v.IsDict := by
  constructor
  · rintro ⟨w, hw⟩
    cases v <;> first | exact ⟨_, rfl⟩ | cases hw
  · rintro ⟨entries, rfl⟩
    exact ⟨_, rfl⟩

end HaBluetooth.Python
