import HaBluetooth.Python.JsonTokens

/-! What `json.loads` reads from the text of a whole value. -/

namespace HaBluetooth.Python

variable {rest : List Char} {floatRepr : List Char → String}

mutual

/-- What is left of a value in its text: a date or time comes back as a string. -/
def jsonValue : Value → Value
  | .datetime iso => .str iso
  | .list items => .list (jsonItems items)
  | .dict entries => .dict (jsonEntries entries)
  | v => v

def jsonItems : List Value → List Value
  | [] => []
  | v :: items => jsonValue v :: jsonItems items

def jsonEntries : List (String × Value) → List (String × Value)
  | [] => []
  | e :: entries => jsonEntry e :: jsonEntries entries

def jsonEntry : String × Value → String × Value
  | (key, v) => (key, jsonValue v)

end

section

variable (floatRepr)

mutual

/-- A value that Python can hold and `json.dumps` writes: a dictionary has each key once, and a
finite float is what its own text is read as. -/
def Value.Readable : Value → Prop
  | .float r => r = "nan" ∨ r = "inf" ∨ r = "-inf" ∨ scanNumber floatRepr r.toList = some (.float r, [])
  | .list items => ReadableItems items
  | .dict entries => (entries.map Prod.fst).Nodup ∧ ReadableEntries entries
  | .object _ => False
  | .null | .bool _ | .int _ | .str _ | .datetime _ => True

def ReadableItems : List Value → Prop
  | [] => True
  | v :: items => Value.Readable v ∧ ReadableItems items

def ReadableEntries : List (String × Value) → Prop
  | [] => True
  | e :: entries => ReadableEntry e ∧ ReadableEntries entries

def ReadableEntry : String × Value → Prop
  | (_, v) => Value.Readable v

end

end

mutual

lemma serialisable_readable : ∀ v : Value, v.Readable floatRepr → v.Serialisable
  | .null, _ | .bool _, _ | .int _, _ | .float _, _ | .str _, _ | .datetime _, _ => rfl
  | .list items, h => by
    rw [Value.Readable] at h
    exact serialisable_items items h
  | .dict entries, h => by
    rw [Value.Readable] at h
    exact serialisable_entries entries h.2
  | .object _, h => by
    rw [Value.Readable] at h
    exact h.elim

lemma serialisable_items : ∀ items : List Value, ReadableItems floatRepr items → opaqueItem items = none
  | [], _ => rfl
  | v :: items, h => by
    rw [ReadableItems] at h
    rw [opaqueItem, serialisable_readable v h.1, serialisable_items items h.2]
    rfl

lemma serialisable_entries : ∀ entries : List (String × Value), ReadableEntries floatRepr entries →
    opaqueEntries entries = none
  | [], _ => rfl
  | (_, v) :: entries, h => by
    rw [ReadableEntries, ReadableEntry] at h
    rw [opaqueEntries, opaqueEntry, serialisable_readable v h.1, serialisable_entries entries h.2]
    rfl

end

lemma dumps_readable {v : Value} (h : v.Readable floatRepr) : dumps v = .ok (text v) := by
  rw [dumps, serialisable_readable v h]

lemma scanOnce_quote (n : ℕ) (s : String) (rest : List Char) :
    scanOnce floatRepr (n + 1) (quote s ++ rest) = some (.str s, rest) := by
  obtain ⟨cs, hcs, hscan⟩ := scanString_quote s rest
  rw [hcs, scanOnce, hscan]
  simp

lemma scanOnce_float {r : String} (h : Value.Readable floatRepr (.float r)) (hr : Stops rest) (n : ℕ) :
    scanOnce floatRepr (n + 1) (floatText r ++ rest) = some (.float r, rest) := by
  rw [Value.Readable] at h
  have hconstant (cs : List Char) (v : Value) (hc : (cs, v) ∈ constants) :
      scanOnce floatRepr (n + 1) (cs ++ rest) = some (v, rest) := scanOnce_constant hc n rest
  rcases h with rfl | rfl | rfl | h
  · exact hconstant ['N', 'a', 'N'] (.float "nan") (by simp [constants])
  · exact hconstant ['I', 'n', 'f', 'i', 'n', 'i', 't', 'y'] (.float "inf") (by simp [constants])
  · exact hconstant ['-', 'I', 'n', 'f', 'i', 'n', 'i', 't', 'y'] (.float "-inf") (by simp [constants])
  · have hne (t : String) (ht : scanNumber floatRepr t.toList = none) : r ≠ t := by
      rintro rfl
      rw [ht] at h
      cases h
    rw [floatText, if_neg (hne "nan" rfl), if_neg (hne "inf" rfl), if_neg (hne "-inf" rfl)]
    exact scanOnce_number h hr n

/-- A text that opens a value: no blank, no byte order mark and no bracket that closes a list. -/
def ValueHead (cs : List Char) : Prop :=
  ∃ c ds, cs = c :: ds ∧ ¬ (c = ' ' ∨ c = '\t' ∨ c = '\n' ∨ c = '\r') ∧ c ≠ ']' ∧ c ≠ Char.ofNat 0xFEFF

lemma valueHead_cons {c : Char} {ds : List Char}
    (h : ¬ (c = ' ' ∨ c = '\t' ∨ c = '\n' ∨ c = '\r') ∧ c ≠ ']' ∧ c ≠ Char.ofNat 0xFEFF) : ValueHead (c :: ds) :=
  ⟨c, ds, rfl, h⟩

lemma ValueHead.append {cs : List Char} (h : ValueHead cs) (ds : List Char) : ValueHead (cs ++ ds) := by
  obtain ⟨c, es, rfl, hc⟩ := h
  exact ⟨c, es ++ ds, rfl, hc⟩

lemma ValueHead.skipSpace {cs : List Char} (h : ValueHead cs) : skipSpace cs = cs := by
  obtain ⟨c, ds, rfl, hc, -⟩ := h
  exact skipSpace_cons ds hc

lemma valueHead_number {cs : List Char} (h : NumberHead cs) : ValueHead cs := by
  obtain ⟨d, ds, hd, rfl | rfl⟩ := h
  · refine valueHead_cons ⟨?_, digit_ne hd rfl, digit_ne hd rfl⟩
    rintro (h | h | h | h) <;> exact digit_ne hd rfl h
  · exact valueHead_cons (by decide)

lemma valueHead_text {v : Value} (h : v.Readable floatRepr) : ValueHead (text v) := by
  cases v with
  | null => exact valueHead_cons (by decide)
  | bool b => cases b <;> exact valueHead_cons (by decide)
  | int i => exact valueHead_number (scanNumber_head (@scanNumber_int floatRepr i))
  | float r =>
    rw [Value.Readable] at h
    rw [text, floatText]
    rcases h with rfl | rfl | rfl | h
    · exact valueHead_cons (by decide)
    · exact valueHead_cons (by decide)
    · exact valueHead_cons (by decide)
    · split_ifs
      · exact valueHead_cons (by decide)
      · exact valueHead_cons (by decide)
      · exact valueHead_cons (by decide)
      · exact valueHead_number (scanNumber_head h)
  | str s => exact valueHead_cons (by decide)
  | list items => exact valueHead_cons (by decide)
  | dict entries => exact valueHead_cons (by decide)
  | datetime iso => exact valueHead_cons (by decide)
  | object t =>
    rw [Value.Readable] at h
    exact h.elim

lemma insertEntry_new {key : String} {entries : List (String × Value)} (h : key ∉ entries.map Prod.fst) (v : Value) :
    Value.insertEntry key v entries = entries ++ [(key, v)] := by
  induction entries with
  | nil => rfl
  | cons e entries ih =>
    rw [List.map_cons, List.mem_cons, not_or] at h
    rw [Value.insertEntry, if_neg (Ne.symm h.1), ih h.2]
    rfl

lemma foldl_insertEntry (pairs entries : List (String × Value)) (h : ((entries ++ pairs).map Prod.fst).Nodup) :
    pairs.foldl (fun entries e => Value.insertEntry e.1 e.2 entries) entries = entries ++ pairs := by
  induction pairs generalizing entries with
  | nil => simp
  | cons e pairs ih =>
    have hnew : e.1 ∉ entries.map Prod.fst := by
      rw [List.map_append, List.map_cons] at h
      intro he
      exact (List.nodup_append.mp h).2.2 e.1 he e.1 List.mem_cons_self rfl
    rw [List.foldl_cons, insertEntry_new hnew, ih _ (by simpa using h)]
    simp

lemma pairsDict_nodup {pairs : List (String × Value)} (h : (pairs.map Prod.fst).Nodup) :
    pairsDict pairs = .dict pairs := by
  rw [pairsDict, foldl_insertEntry pairs [] (by simpa using h)]
  rfl

lemma jsonEntries_keys (entries : List (String × Value)) :
    (jsonEntries entries).map Prod.fst = entries.map Prod.fst := by
  induction entries with
  | nil => rfl
  | cons e entries ih =>
    obtain ⟨key, v⟩ := e
    rw [jsonEntries, List.map_cons, List.map_cons, ih, jsonEntry]

lemma skipSpace_after {c : Char} (hc : c = ',' ∨ c = ']' ∨ c = '}' ∨ c = ':') (ds : List Char) :
    skipSpace (c :: ds) = c :: ds := by
  apply skipSpace_cons
  rcases hc with rfl | rfl | rfl | rfl <;> decide

lemma skipSpace_blank {cs : List Char} (h : ValueHead cs) : skipSpace (' ' :: cs) = cs := h.skipSpace

lemma commaSeparated_cons (t : List Char) (ts : List (List Char)) (h : ts ≠ []) :
    commaSeparated (t :: ts) = t ++ [',', ' '] ++ commaSeparated ts := by
  cases ts with
  | nil => exact (h rfl).elim
  | cons u ts => rfl

lemma scanOnce_list {n : ℕ} {cs : List Char} {items : List Value} (hcs : ValueHead cs)
    (h : scanItems floatRepr n cs = some (items, rest)) :
    scanOnce floatRepr (n + 1) ('[' :: cs) = some (.list items, rest) := by
  obtain ⟨c, ds, rfl, -, hc, -⟩ := id hcs
  rw [scanOnce, hcs.skipSpace]
  split
  · next he => exact (hc (List.cons.inj he).1).elim
  · rw [h]
    rfl

lemma scanItems_last {n : ℕ} {cs : List Char} {v : Value} (h : scanOnce floatRepr n cs = some (v, ']' :: rest)) :
    scanItems floatRepr (n + 1) cs = some ([v], rest) := by
  rw [scanItems, h]
  rfl

lemma scanItems_more {n : ℕ} {cs ds : List Char} {v : Value} {items : List Value} (hds : ValueHead ds)
    (h : scanOnce floatRepr n cs = some (v, ',' :: ' ' :: ds)) (hi : scanItems floatRepr n ds = some (items, rest)) :
    scanItems floatRepr (n + 1) cs = some (v :: items, rest) := by
  rw [scanItems, h]
  simp only [Option.bind_eq_bind, Option.bind_some, skipSpace_after (.inl rfl), skipSpace_blank hds, hi]
  rfl

lemma scanOnce_dict {n : ℕ} {cs : List Char} {pairs : List (String × Value)} (hcs : ∃ ds, cs = '"' :: ds)
    (h : scanPairs floatRepr n cs = some (pairs, rest)) (hp : (pairs.map Prod.fst).Nodup) :
    scanOnce floatRepr (n + 1) ('\x7b' :: cs) = some (.dict pairs, rest) := by
  obtain ⟨ds, rfl⟩ := hcs
  rw [scanOnce, skipSpace_cons ds (by decide), ← pairsDict_nodup hp]
  change (scanPairs floatRepr n ('"' :: ds)).bind _ = _
  rw [h]
  rfl

lemma scanPairs_last {n : ℕ} {key : String} {cs : List Char} {v : Value} (hcs : ValueHead cs)
    (h : scanOnce floatRepr n cs = some (v, '}' :: rest)) :
    scanPairs floatRepr (n + 1) (quote key ++ ':' :: ' ' :: cs) = some ([(key, v)], rest) := by
  obtain ⟨ks, hks, hscan⟩ := scanString_quote key (':' :: ' ' :: cs)
  rw [hks, scanPairs, hscan]
  simp only [Option.bind_eq_bind, Option.bind_some, skipSpace_after (.inr (.inr (.inr rfl))), skipSpace_blank hcs, h,
    skipSpace_after (.inr (.inr (.inl rfl))), String.ofList_toList]
  rfl

lemma scanPairs_more {n : ℕ} {key : String} {cs ds : List Char} {v : Value} {pairs : List (String × Value)}
    (hcs : ValueHead cs) (h : scanOnce floatRepr n cs = some (v, ',' :: ' ' :: ds)) (hds : ValueHead ds)
    (hp : scanPairs floatRepr n ds = some (pairs, rest)) :
    scanPairs floatRepr (n + 1) (quote key ++ ':' :: ' ' :: cs) = some ((key, v) :: pairs, rest) := by
  obtain ⟨ks, hks, hscan⟩ := scanString_quote key (':' :: ' ' :: cs)
  rw [hks, scanPairs, hscan]
  simp only [Option.bind_eq_bind, Option.bind_some, skipSpace_after (.inr (.inr (.inr rfl))), skipSpace_blank hcs, h,
    skipSpace_after (.inl rfl), skipSpace_blank hds, hp, String.ofList_toList]
  rfl

lemma commaSeparated_opens (t : List Char) (ts : List (List Char)) : ∃ us, commaSeparated (t :: ts) = t ++ us := by
  cases ts with
  | nil => exact ⟨[], (List.append_nil t).symm⟩
  | cons u ts => exact ⟨_, List.append_assoc _ _ _⟩

lemma commaSeparated_head {t : List Char} (h : ValueHead t) (ts : List (List Char)) :
    ValueHead (commaSeparated (t :: ts)) := by
  obtain ⟨us, hus⟩ := commaSeparated_opens t ts
  rw [hus]
  exact h.append us

lemma entryText_eq (key : String) (v : Value) (rest : List Char) :
    entryText (key, v) ++ rest = quote key ++ ':' :: ' ' :: (text v ++ rest) := by
  rw [entryText]
  simp

lemma entryTexts_quote (e : String × Value) (entries : List (String × Value)) (rest : List Char) :
    ∃ ds, commaSeparated (entryTexts (e :: entries)) ++ rest = '"' :: ds := by
  obtain ⟨key, v⟩ := e
  obtain ⟨us, hus⟩ := commaSeparated_opens (entryText (key, v)) (entryTexts entries)
  exact ⟨_, by rw [entryTexts, hus, List.append_assoc, entryText_eq]; rfl⟩

mutual

lemma scanOnce_text : ∀ (v : Value) (n : ℕ) (rest : List Char), v.Readable floatRepr → Stops rest →
    2 * (text v).length + 1 ≤ n → scanOnce floatRepr n (text v ++ rest) = some (jsonValue v, rest)
  | v, 0, _, _, _, hn => by omega
  | .null, n + 1, rest, _, _, _ =>
    @scanOnce_constant floatRepr (['n', 'u', 'l', 'l'], .null) (by simp [constants]) n rest
  | .bool b, n + 1, rest, _, _, _ => by
    cases b with
    | false => exact @scanOnce_constant floatRepr (['f', 'a', 'l', 's', 'e'], .bool false) (by simp [constants]) n rest
    | true => exact @scanOnce_constant floatRepr (['t', 'r', 'u', 'e'], .bool true) (by simp [constants]) n rest
  | .int i, n + 1, rest, _, hr, _ => scanOnce_number (scanNumber_int i) hr n
  | .float r, n + 1, rest, h, hr, _ => scanOnce_float h hr n
  | .str s, n + 1, rest, _, _, _ => scanOnce_quote n s rest
  | .datetime iso, n + 1, rest, _, _, _ => scanOnce_quote n iso rest
  | .object _, n + 1, rest, h, _, _ => by
    rw [Value.Readable] at h
    exact h.elim
  | .list [], n + 1, rest, _, _, _ => rfl
  | .list (v :: items), n + 1, rest, h, _, hn => by
    rw [Value.Readable] at h
    have hlen : (text (.list (v :: items))).length = (commaSeparated (itemTexts (v :: items))).length + 2 := by
      simp [text]
    have hitems := scanItems_text (v :: items) n rest (List.cons_ne_nil _ _) h (by omega)
    have htext : text (.list (v :: items)) ++ rest =
      '[' :: (commaSeparated (itemTexts (v :: items)) ++ ']' :: rest) := by
      simp [text]
    rw [ReadableItems] at h
    rw [htext, jsonValue]
    exact scanOnce_list ((commaSeparated_head (valueHead_text h.1) _).append _) hitems
  | .dict [], n + 1, rest, _, _, _ => rfl
  | .dict (e :: entries), n + 1, rest, h, _, hn => by
    rw [Value.Readable] at h
    have hlen : (text (.dict (e :: entries))).length = (commaSeparated (entryTexts (e :: entries))).length + 2 := by
      simp [text]
    have hpairs := scanPairs_text (e :: entries) n rest (List.cons_ne_nil _ _) h.2 (by omega)
    have htext : text (.dict (e :: entries)) ++ rest =
        '\x7b' :: (commaSeparated (entryTexts (e :: entries)) ++ '}' :: rest) := by
      simp [text]
    rw [htext, jsonValue]
    exact scanOnce_dict (entryTexts_quote e entries _) hpairs (by rw [jsonEntries_keys]; exact h.1)

lemma scanItems_text : ∀ (items : List Value) (n : ℕ) (rest : List Char), items ≠ [] → ReadableItems floatRepr items →
    2 * (commaSeparated (itemTexts items)).length + 2 ≤ n →
    scanItems floatRepr n (commaSeparated (itemTexts items) ++ ']' :: rest) = some (jsonItems items, rest)
  | [], _, _, h, _, _ => (h rfl).elim
  | _ :: _, 0, _, _, _, hn => by omega
  | [v], n + 1, rest, _, h, hn => by
    rw [ReadableItems] at h
    exact scanItems_last (scanOnce_text v n _ h.1 (stops_cons (by decide) rest) (by
      simp only [itemTexts, commaSeparated] at hn
      omega))
  | v :: w :: items, n + 1, rest, _, h, hn => by
    rw [ReadableItems] at h
    have hw := h.2
    rw [ReadableItems] at hw
    have hsep := commaSeparated_cons (text v) (itemTexts (w :: items)) (List.cons_ne_nil _ _)
    have hlen := congrArg List.length hsep
    simp only [List.length_append, List.length_cons, List.length_nil] at hlen
    rw [itemTexts, hlen] at hn
    have hv := scanOnce_text v n (',' :: ' ' :: (commaSeparated (itemTexts (w :: items)) ++ ']' :: rest)) h.1
      (stops_cons (by decide) _) (by omega)
    have hrest := scanItems_text (w :: items) n rest (List.cons_ne_nil _ _) h.2 (by omega)
    rw [itemTexts, hsep, List.append_assoc, List.append_assoc]
    exact scanItems_more ((commaSeparated_head (valueHead_text hw.1) _).append _) hv hrest

lemma scanPairs_text : ∀ (entries : List (String × Value)) (n : ℕ) (rest : List Char), entries ≠ [] →
    ReadableEntries floatRepr entries → 2 * (commaSeparated (entryTexts entries)).length + 2 ≤ n →
    scanPairs floatRepr n (commaSeparated (entryTexts entries) ++ '}' :: rest) = some (jsonEntries entries, rest)
  | [], _, _, h, _, _ => (h rfl).elim
  | _ :: _, 0, _, _, _, hn => by omega
  | [(key, v)], n + 1, rest, _, h, hn => by
    rw [ReadableEntries, ReadableEntry] at h
    have hlen := congrArg List.length (entryText_eq key v [])
    simp only [List.length_append, List.length_cons, List.length_nil] at hlen
    simp only [entryTexts, commaSeparated] at hn ⊢
    rw [entryText_eq]
    exact scanPairs_last ((valueHead_text h.1).append _)
      (scanOnce_text v n _ h.1 (stops_cons (by decide) rest) (by omega))
  | (key, v) :: f :: entries, n + 1, rest, _, h, hn => by
    rw [ReadableEntries, ReadableEntry] at h
    have hsep := commaSeparated_cons (entryText (key, v)) (entryTexts (f :: entries)) (List.cons_ne_nil _ _)
    have hlen := congrArg List.length hsep
    have hentry := congrArg List.length (entryText_eq key v [])
    simp only [List.length_append, List.length_cons, List.length_nil] at hlen hentry
    rw [entryTexts, hlen] at hn
    have hv := scanOnce_text v n (',' :: ' ' :: (commaSeparated (entryTexts (f :: entries)) ++ '}' :: rest)) h.1
      (stops_cons (by decide) _) (by omega)
    have hrest := scanPairs_text (f :: entries) n rest (List.cons_ne_nil _ _) h.2 (by omega)
    obtain ⟨ds, hds⟩ := entryTexts_quote f entries ('}' :: rest)
    rw [entryTexts, hsep, List.append_assoc, List.append_assoc, entryText_eq]
    exact scanPairs_more ((valueHead_text h.1).append _) hv (hds ▸ valueHead_cons (by decide)) hrest

end

lemma loadsText_text {v : Value} (h : v.Readable floatRepr) : loadsText floatRepr (text v) = some (jsonValue v) := by
  have hhead := valueHead_text h
  have hscan := scanOnce_text v (2 * (text v).length + 1) [] h stops_nil le_rfl
  have hbom : (text v).head? ≠ some (Char.ofNat 0xFEFF) := by
    obtain ⟨c, ds, hc, -, -, hmark⟩ := hhead
    rw [hc]
    exact fun heq => hmark (Option.some.inj heq)
  rw [List.append_nil] at hscan
  rw [loadsText, if_neg hbom, hhead.skipSpace, hscan]
  rfl

lemma decodeUtf8_encodeUtf8 (cs : List Char) : decodeUtf8 (encodeUtf8 cs) = some (String.ofList cs) := by
  have hbytes : (encodeUtf8 cs).toByteArray = cs.utf8Encode := rfl
  rw [decodeUtf8, hbytes, String.fromUTF8?, dif_pos ByteArray.isValidUTF8_utf8Encode]
  rfl

end HaBluetooth.Python
