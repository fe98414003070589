import HaBluetooth.Python.JsonText

/-! `json.loads` with its defaults. A lone surrogate is a character of a Python string and none of a
`String`: the reader refuses it. Nesting is not limited, nor is the length of an integer. -/

namespace HaBluetooth.Python

def skipSpace (cs : List Char) : List Char := cs.dropWhile fun c => c = ' ' ∨ c = '\t' ∨ c = '\n' ∨ c = '\r'

/-! ### Strings -/

def hexValue (c : Char) : Option ℕ :=
  if c.isDigit then some (c.toNat - 48)
  else if 97 ≤ c.toNat ∧ c.toNat ≤ 102 then some (c.toNat - 87)
  else if 65 ≤ c.toNat ∧ c.toNat ≤ 70 then some (c.toNat - 55)
  else none

def decodeUnit : List Char → Option (ℕ × List Char)
  | a :: b :: c :: d :: cs => do
    let a ← hexValue a
    let b ← hexValue b
    let c ← hexValue c
    let d ← hexValue d
    return (a * 4096 + b * 256 + c * 16 + d, cs)
  | _ => none

def joinSurrogates (unit : ℕ) (rest : List Char) : Option (ℕ × List Char) :=
  match rest with
  | '\\' :: 'u' :: cs =>
    if 0xD800 ≤ unit ∧ unit ≤ 0xDBFF then do
      let (low, cs) ← decodeUnit cs
      if 0xDC00 ≤ low ∧ low ≤ 0xDFFF then return (0x10000 + (unit - 0xD800) * 1024 + (low - 0xDC00), cs)
      else return (unit, rest)
    else some (unit, rest)
  | _ => some (unit, rest)

def unicodeEscape (cs : List Char) : Option (Char × List Char) := do
  let (unit, cs) ← decodeUnit cs
  let (code, cs) ← joinSurrogates unit cs
  if code.isValidChar then return (Char.ofNat code, cs) else none

def escapeValue (c : Char) : Option Char :=
  if c = '"' ∨ c = '\\' ∨ c = '/' then some c
  else if c = 'b' then some (Char.ofNat 0x08)
  else if c = 'f' then some (Char.ofNat 0x0C)
  else if c = 'n' then some '\n'
  else if c = 'r' then some '\r'
  else if c = 't' then some '\t'
  else none

def scanString : ℕ → List Char → Option (List Char × List Char)
  | 0, _ => none
  | n + 1, cs => match cs with
    | [] => none
    | '"' :: cs => some ([], cs)
    | '\\' :: 'u' :: cs => do
      let (c, cs) ← unicodeEscape cs
      let (s, cs) ← scanString n cs
      return (c :: s, cs)
    | '\\' :: e :: cs => do
      let c ← escapeValue e
      let (s, cs) ← scanString n cs
      return (c :: s, cs)
    | c :: cs =>
      if c.toNat < 0x20 then none
      else do
        let (s, cs) ← scanString n cs
        return (c :: s, cs)

/-! ### Numbers -/

def scanDigits (cs : List Char) : List Char × List Char := (cs.takeWhile Char.isDigit, cs.dropWhile Char.isDigit)

def scanNatural : List Char → Option (List Char × List Char)
  | '0' :: cs => some (['0'], cs)
  | cs => if (scanDigits cs).1 = [] then none else some (scanDigits cs)

def scanInteger : List Char → Option (List Char × List Char)
  | '-' :: cs => (scanNatural cs).map fun m => ('-' :: m.1, m.2)
  | cs => scanNatural cs

def scanFraction : List Char → List Char × List Char
  | '.' :: cs => if (scanDigits cs).1 = [] then ([], '.' :: cs) else ('.' :: (scanDigits cs).1, (scanDigits cs).2)
  | cs => ([], cs)

def scanSign : List Char → List Char × List Char
  | '+' :: cs => (['+'], cs)
  | '-' :: cs => (['-'], cs)
  | cs => ([], cs)

def scanExponent : List Char → List Char × List Char
  | [] => ([], [])
  | e :: cs =>
    if (e = 'e' ∨ e = 'E') ∧ (scanDigits (scanSign cs).2).1 ≠ [] then
      (e :: (scanSign cs).1 ++ (scanDigits (scanSign cs).2).1, (scanDigits (scanSign cs).2).2)
    else ([], e :: cs)

def parseInt : List Char → ℤ
  | '-' :: cs => -(Nat.ofDigitChars 10 cs 0)
  | cs => Nat.ofDigitChars 10 cs 0

section

-- `repr(float(text))`, by which a float is named
variable (floatRepr : List Char → String)

def scanNumber (cs : List Char) : Option (Value × List Char) := do
  let (integer, cs) ← scanInteger cs
  let (frac, cs) := scanFraction cs
  let (exp, cs) := scanExponent cs
  if frac = [] ∧ exp = [] then return (.int (parseInt integer), cs)
  else return (.float (floatRepr (integer ++ frac ++ exp)), cs)

/-! ### Values -/

def constants : List (List Char × Value) :=
  [(['n', 'u', 'l', 'l'], .null), (['t', 'r', 'u', 'e'], .bool true), (['f', 'a', 'l', 's', 'e'], .bool false),
    (['N', 'a', 'N'], .float "nan"), (['I', 'n', 'f', 'i', 'n', 'i', 't', 'y'], .float "inf"),
    (['-', 'I', 'n', 'f', 'i', 'n', 'i', 't', 'y'], .float "-inf")]

def scanConstant (cs : List Char) : Option (Value × List Char) :=
  constants.findSome? fun e => if e.1 <+: cs then some (e.2, cs.drop e.1.length) else none

/-- A key that comes twice keeps its first place and its last value. -/
def pairsDict (pairs : List (String × Value)) : Value :=
  .dict (pairs.foldl (fun entries e => Value.insertEntry e.1 e.2 entries) [])

mutual

def scanOnce : ℕ → List Char → Option (Value × List Char)
  | 0, _ => none
  | n + 1, cs => match cs with
    | '"' :: cs => do
      let (s, cs) ← scanString cs.length cs
      return (.str (String.ofList s), cs)
    | '{' :: cs => match skipSpace cs with
      | '}' :: cs => some (.dict [], cs)
      | cs => do
        let (pairs, cs) ← scanPairs n cs
        return (pairsDict pairs, cs)
    | '[' :: cs => match skipSpace cs with
      | ']' :: cs => some (.list [], cs)
      | cs => do
        let (items, cs) ← scanItems n cs
        return (.list items, cs)
    | cs => (scanConstant cs).or (scanNumber floatRepr cs)

def scanItems : ℕ → List Char → Option (List Value × List Char)
  | 0, _ => none
  | n + 1, cs => do
    let (v, cs) ← scanOnce n cs
    match skipSpace cs with
    | ']' :: cs => return ([v], cs)
    | ',' :: cs => do
      let (items, cs) ← scanItems n (skipSpace cs)
      return (v :: items, cs)
    | _ => none

def scanPairs : ℕ → List Char → Option (List (String × Value) × List Char)
  | 0, _ => none
  | n + 1, cs => match cs with
    | '"' :: cs => do
      let (key, cs) ← scanString cs.length cs
      match skipSpace cs with
      | ':' :: cs => do
        let (v, cs) ← scanOnce n (skipSpace cs)
        match skipSpace cs with
        | '}' :: cs => return ([(String.ofList key, v)], cs)
        | ',' :: cs => do
          let (pairs, cs) ← scanPairs n (skipSpace cs)
          return ((String.ofList key, v) :: pairs, cs)
        | _ => none
      | _ => none
    | _ => none

end

/-- Two calls at most start at one character, so that the fuel lasts to the end of the text. -/
def loadsText (cs : List Char) : Option Value :=
  if cs.head? = some (Char.ofNat 0xFEFF) then none
  else do
    let (v, rest) ← scanOnce floatRepr (2 * cs.length + 1) (skipSpace cs)
    if skipSpace rest = [] then return v else none

end

def jsonLibrary : Library := { Library.ascii with loads := fun text => loadsText String.ofList text.toList }

end HaBluetooth.Python
