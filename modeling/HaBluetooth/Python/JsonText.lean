import HaBluetooth.Python.Values

/-! `json.dumps` with its defaults, and which values it refuses. -/

namespace HaBluetooth.Python

def hex4 (n : ℕ) : List Char :=
  [Nat.digitChar (n / 4096 % 16), Nat.digitChar (n / 256 % 16), Nat.digitChar (n / 16 % 16), Nat.digitChar (n % 16)]

def escapeUnit (n : ℕ) : List Char := '\\' :: 'u' :: hex4 n

def escapeChar (c : Char) : List Char :=
  if c = '"' then ['\\', '"']
  else if c = '\\' then ['\\', '\\']
  else if c = '\n' then ['\\', 'n']
  else if c = '\r' then ['\\', 'r']
  else if c = '\t' then ['\\', 't']
  else if c.toNat = 0x0C then ['\\', 'f']
  else if c.toNat = 0x08 then ['\\', 'b']
  else if 0x20 ≤ c.toNat ∧ c.toNat ≤ 0x7E then [c]
  else if c.toNat < 0x10000 then escapeUnit c.toNat
  else
    let n := c.toNat - 0x10000
    escapeUnit (0xD800 ||| n >>> 10 &&& 0x3FF) ++ escapeUnit (0xDC00 ||| n &&& 0x3FF)

def quote (s : String) : List Char := '"' :: s.toList.flatMap escapeChar ++ ['"']

def floatText (r : String) : List Char :=
  if r = "nan" then "NaN".toList
  else if r = "inf" then "Infinity".toList
  else if r = "-inf" then "-Infinity".toList
  else r.toList

def commaSeparated : List (List Char) → List Char
  | [] => []
  | [t] => t
  | t :: u :: ts => t ++ [',', ' '] ++ commaSeparated (u :: ts)

mutual

/-- The text of a value; `_json_default` turns dates and times into strings. -/
def text : Value → List Char
  | .null => "null".toList
  | .bool b => (if b then "true" else "false").toList
  | .int i => (toString i).toList
  | .float r => floatText r
  | .str s => quote s
  | .list items => '[' :: commaSeparated (itemTexts items) ++ [']']
  | .dict entries => '{' :: commaSeparated (entryTexts entries) ++ ['}']
  | .datetime iso => quote iso
  | .object _ => []

def itemTexts : List Value → List (List Char)
  | [] => []
  | v :: items => text v :: itemTexts items

def entryTexts : List (String × Value) → List (List Char)
  | [] => []
  | e :: entries => entryText e :: entryTexts entries

def entryText : String × Value → List Char
  | (key, v) => quote key ++ [':', ' '] ++ text v

end

mutual

def opaqueType : Value → Option String
  | .list items => opaqueItem items
  | .dict entries => opaqueEntries entries
  | .object t => some t
  | .null | .bool _ | .int _ | .float _ | .str _ | .datetime _ => none

def opaqueItem : List Value → Option String
  | [] => none
  | v :: items => (opaqueType v).or (opaqueItem items)

def opaqueEntries : List (String × Value) → Option String
  | [] => none
  | e :: entries => (opaqueEntry e).or (opaqueEntries entries)

def opaqueEntry : String × Value → Option String
  | (_, v) => opaqueType v

end

def Value.Serialisable (v : Value) : Prop := opaqueType v = none

lemma serialisable_list {items : List Value} :
    (Value.list items).Serialisable ↔ ∀ v ∈ items, v.Serialisable := by
  change opaqueItem items = none ↔ _
  induction items with
  | nil => simp [opaqueItem]
  | cons v items ih => simp [opaqueItem, ih, Value.Serialisable]

lemma serialisable_dict {entries : List (String × Value)} :
    (Value.dict entries).Serialisable ↔ ∀ e ∈ entries, e.2.Serialisable := by
  change opaqueEntries entries = none ↔ _
  induction entries with
  | nil => simp [opaqueEntries]
  | cons e entries ih =>
    obtain ⟨key, v⟩ := e
    rw [opaqueEntries, opaqueEntry, Option.or_eq_none_iff, ih, List.forall_mem_cons]
    rfl

@[simp] lemma serialisable_str (s : String) : (Value.str s).Serialisable := rfl

@[simp] lemma serialisable_ofOption (s : Option String) : (Value.ofOption s).Serialisable := by
  cases s <;> rfl

def dumps (v : Value) : Result (List Char) :=
  match opaqueType v with
  | some t => .error ⟨.typeError, s!"Object of type {t} is not JSON serializable"⟩
  | none => .ok (text v)

def encodeUtf8 (cs : List Char) : Bytes := cs.flatMap String.utf8EncodeChar

end HaBluetooth.Python
