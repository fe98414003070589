import HaBluetooth.Python.JsonText

/-! The number of bytes of a value's JSON text, from the sizes of its parts. -/

namespace HaBluetooth.Python

def stringSize (s : String) : ℕ := 2 + (s.toList.map fun c => (escapeChar c).length).sum

def separatedSize (sizes : List ℕ) : ℕ := sizes.sum + 2 * (sizes.length - 1)

mutual

def jsonSize : Value → ℕ
  | .null => 4
  | .bool b => if b then 4 else 5
  | .int i => (encodeUtf8 (toString i).toList).length
  | .float r => (encodeUtf8 (floatText r)).length
  | .str s => stringSize s
  | .list items => 2 + separatedSize (itemSizes items)
  | .dict entries => 2 + separatedSize (entrySizes entries)
  | .datetime iso => stringSize iso
  | .object _ => 0

def itemSizes : List Value → List ℕ
  | [] => []
  | v :: items => jsonSize v :: itemSizes items

def entrySizes : List (String × Value) → List ℕ
  | [] => []
  | e :: entries => entrySize e :: entrySizes entries

def entrySize : String × Value → ℕ
  | (key, v) => stringSize key + 2 + jsonSize v

end

lemma itemSizes_map (items : List Value) : itemSizes items = items.map jsonSize := by
  induction items with
  | nil => rfl
  | cons v items ih => rw [itemSizes, ih, List.map_cons]

lemma encodeUtf8_append (cs ds : List Char) : encodeUtf8 (cs ++ ds) = encodeUtf8 cs ++ encodeUtf8 ds :=
  List.flatMap_append

lemma encodeUtf8_cons (c : Char) (cs : List Char) :
    encodeUtf8 (c :: cs) = String.utf8EncodeChar c ++ encodeUtf8 cs := rfl

lemma length_encodeUtf8_ascii {cs : List Char} (h : ∀ c ∈ cs, c.toNat < 128) :
    (encodeUtf8 cs).length = cs.length := by
  induction cs with
  | nil => rfl
  | cons c cs ih =>
    have hc : (String.utf8EncodeChar c).length = 1 := by
      rw [String.length_utf8EncodeChar]
      exact Char.utf8Size_eq_one_iff.mpr (UInt32.le_iff_toNat_le.mpr (Nat.le_of_lt_succ (h c List.mem_cons_self)))
    rw [encodeUtf8_cons, List.length_append, hc, ih fun d hd => h d (List.mem_cons_of_mem c hd), List.length_cons,
      Nat.add_comm]

lemma digitChar_ascii (n : ℕ) : (Nat.digitChar (n % 16)).toNat < 128 := by
  have hn : n % 16 < 16 := Nat.mod_lt _ (by decide)
  have hall : ∀ k < 16, (Nat.digitChar k).toNat < 128 := by decide
  exact hall _ hn

lemma escapeChar_ascii (c : Char) : ∀ d ∈ escapeChar c, d.toNat < 128 := by
  have hu (n : ℕ) : ∀ d ∈ escapeUnit n, d.toNat < 128 := by
    simp [escapeUnit, hex4, digitChar_ascii]
  fun_cases escapeChar c with
  | case1 | case2 | case3 | case4 | case5 | case6 | case7 => simp
  | case8 _ _ _ _ _ _ _ hprintable =>
    intro d hd
    obtain rfl := List.mem_singleton.mp hd
    omega
  | case9 => exact hu _
  | case10 =>
    intro d hd
    rcases List.mem_append.mp hd with hd | hd
    · exact hu _ d hd
    · exact hu _ d hd

lemma escapeChar_ne_nil (c : Char) : escapeChar c ≠ [] := by
  fun_cases escapeChar c <;> exact List.cons_ne_nil _ _

lemma length_le_stringSize (s : String) : s.toList.length ≤ stringSize s := by
  have hall (cs : List Char) : cs.length ≤ (cs.map fun c => (escapeChar c).length).sum := by
    induction cs with
    | nil => exact le_rfl
    | cons c cs ih =>
      have hc := List.length_pos_iff.mpr (escapeChar_ne_nil c)
      simp only [List.map_cons, List.sum_cons, List.length_cons]
      omega
  exact (hall s.toList).trans (Nat.le_add_left _ _)

lemma length_quote (s : String) : (encodeUtf8 (quote s)).length = stringSize s := by
  have hq : ∀ d ∈ quote s, d.toNat < 128 := by
    simp only [quote, List.mem_append, List.mem_cons, List.mem_flatMap]
    rintro d ((rfl | ⟨c, -, hd⟩) | hd)
    · decide
    · exact escapeChar_ascii c d hd
    · simp at hd
      subst hd
      decide
  rw [length_encodeUtf8_ascii hq, quote, stringSize]
  simp [List.length_flatMap]
  omega

lemma length_commaSeparated (ts : List (List Char)) :
    (encodeUtf8 (commaSeparated ts)).length = separatedSize (ts.map fun t => (encodeUtf8 t).length) := by
  induction ts with
  | nil => rfl
  | cons t ts ih =>
    cases ts with
    | nil => simp [commaSeparated, separatedSize]
    | cons u ts =>
      have hsep : (encodeUtf8 [',', ' ']).length = 2 := by decide
      rw [commaSeparated, encodeUtf8_append, encodeUtf8_append, List.length_append, List.length_append, ih, hsep]
      simp [separatedSize]
      omega

mutual

lemma length_text : ∀ v : Value, (encodeUtf8 (text v)).length = jsonSize v
  | .null => by decide
  | .bool b => by cases b <;> decide
  | .int _ => rfl
  | .float _ => rfl
  | .str s => length_quote s
  | .list items => by
    have hb : (encodeUtf8 ['[']).length = 1 ∧ (encodeUtf8 [']']).length = 1 := by decide
    rw [text, ← List.singleton_append, encodeUtf8_append, encodeUtf8_append, List.length_append,
      List.length_append, length_commaSeparated, length_items, jsonSize, hb.1, hb.2]
    omega
  | .dict entries => by
    have hb : (encodeUtf8 ['{']).length = 1 ∧ (encodeUtf8 ['}']).length = 1 := by decide
    rw [text, ← List.singleton_append, encodeUtf8_append, encodeUtf8_append, List.length_append,
      List.length_append, length_commaSeparated, length_entries, jsonSize, hb.1, hb.2]
    omega
  | .datetime iso => length_quote iso
  | .object _ => rfl

lemma length_items : ∀ items : List Value,
    (itemTexts items).map (fun t => (encodeUtf8 t).length) = itemSizes items
  | [] => rfl
  | v :: items => by rw [itemTexts, List.map_cons, length_text v, length_items items, itemSizes]

lemma length_entries : ∀ entries : List (String × Value),
    (entryTexts entries).map (fun t => (encodeUtf8 t).length) = entrySizes entries
  | [] => rfl
  | e :: entries => by rw [entryTexts, List.map_cons, length_entry e, length_entries entries, entrySizes]

lemma length_entry : ∀ e : String × Value, (encodeUtf8 (entryText e)).length = entrySize e
  | (key, v) => by
    have hc : (encodeUtf8 [':', ' ']).length = 2 := by decide
    rw [entryText, encodeUtf8_append, encodeUtf8_append, List.length_append, List.length_append, length_quote,
      length_text v, hc, entrySize]

end

end HaBluetooth.Python
