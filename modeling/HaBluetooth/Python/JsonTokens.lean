import HaBluetooth.Python.JsonReader
import Mathlib.Data.List.TakeWhile
import Mathlib.Tactic.NormNum

/-! Strings, numbers and constants as `json.dumps` writes them, read by `json.loads`. -/

namespace HaBluetooth.Python

lemma skipSpace_cons {c : Char} (cs : List Char) (h : ¬ (c = ' ' ∨ c = '\t' ∨ c = '\n' ∨ c = '\r')) :
    skipSpace (c :: cs) = c :: cs := by
  rw [skipSpace, List.dropWhile_cons_of_neg]
  simpa using h

/-! ### Strings -/

lemma hexValue_digitChar {n : ℕ} (h : n < 16) : hexValue (Nat.digitChar n) = some n := by
  have hall : ∀ k < 16, hexValue (Nat.digitChar k) = some k := by decide
  exact hall n h

lemma decodeUnit_hex4 {n : ℕ} (h : n < 0x10000) (rest : List Char) : decodeUnit (hex4 n ++ rest) = some (n, rest) := by
  have hdigit (k : ℕ) : hexValue (Nat.digitChar (k % 16)) = some (k % 16) :=
    hexValue_digitChar (Nat.mod_lt k (by decide))
  have hsum : n / 4096 % 16 * 4096 + n / 256 % 16 * 256 + n / 16 % 16 * 16 + n % 16 = n := by omega
  simp only [hex4, List.cons_append, List.nil_append, decodeUnit, hdigit, Option.bind_eq_bind, Option.bind_some]
  rw [hsum]
  rfl

lemma joinSurrogates_single {unit : ℕ} (h : ¬ (0xD800 ≤ unit ∧ unit ≤ 0xDBFF)) (rest : List Char) :
    joinSurrogates unit rest = some (unit, rest) := by
  unfold joinSurrogates
  split
  · rw [if_neg h]
  · rfl

lemma char_ne_surrogate (c : Char) : ¬ (0xD800 ≤ c.toNat ∧ c.toNat ≤ 0xDFFF) := by
  have hc := c.valid
  simp only [UInt32.isValidChar, Nat.isValidChar] at hc
  change (c.toNat < _ ∨ _ < c.toNat ∧ c.toNat < _) at hc
  omega

lemma unicodeEscape_unit {c : Char} (h : c.toNat < 0x10000) (rest : List Char) :
    unicodeEscape (hex4 c.toNat ++ rest) = some (c, rest) := by
  have hs : ¬ (0xD800 ≤ c.toNat ∧ c.toNat ≤ 0xDBFF) := fun hc => char_ne_surrogate c ⟨hc.1, hc.2.trans (by decide)⟩
  have hv : c.toNat.isValidChar := c.valid
  simp only [unicodeEscape, decodeUnit_hex4 h, joinSurrogates_single hs, Option.bind_eq_bind, Option.bind_some,
    if_pos hv, Char.ofNat_toNat]
  rfl

lemma surrogate_or (n d : ℕ) : 0x400 * d ||| n &&& 0x3FF = 0x400 * d + n % 0x400 := by
  have hlt : n % 0x400 < 2 ^ 10 := Nat.mod_lt n (by norm_num)
  have hand : n &&& 0x3FF = n % 0x400 := Nat.and_two_pow_sub_one_eq_mod n 10
  rw [hand]
  exact (Nat.two_pow_add_eq_or_of_lt hlt d).symm

lemma highSurrogate {n : ℕ} (h : n < 0x100000) : 0xD800 ||| n >>> 10 &&& 0x3FF = 0xD800 + n / 0x400 := by
  have hor := surrogate_or (n >>> 10) 54
  have hshift : n >>> 10 = n / 0x400 := Nat.shiftRight_eq_div_pow n 10
  rw [hshift] at hor ⊢
  norm_num at hor
  omega

lemma lowSurrogate (n : ℕ) : 0xDC00 ||| n &&& 0x3FF = 0xDC00 + n % 0x400 := by
  have hor := surrogate_or n 55
  norm_num at hor
  exact hor

lemma joinSurrogates_pair {high low : ℕ} (hh : high < 0x400) (hl : low < 0x400) (rest : List Char) :
    joinSurrogates (0xD800 + high) (escapeUnit (0xDC00 + low) ++ rest) = some (0x10000 + high * 1024 + low, rest) := by
  simp only [escapeUnit, List.cons_append, joinSurrogates, Option.bind_eq_bind]
  rw [if_pos (by omega), decodeUnit_hex4 (by omega)]
  simp only [Option.bind_some]
  rw [if_pos (by omega), Nat.add_sub_cancel_left, Nat.add_sub_cancel_left]
  rfl

lemma unicodeEscape_pair {c : Char} {n : ℕ} (h : c.toNat = 0x10000 + n) (rest : List Char) :
    unicodeEscape (hex4 (0xD800 ||| n >>> 10 &&& 0x3FF) ++ escapeUnit (0xDC00 ||| n &&& 0x3FF) ++ rest) =
      some (c, rest) := by
  have hv : c.toNat.isValidChar := c.valid
  have hn : n < 0x100000 := by
    simp only [Nat.isValidChar] at hv
    omega
  have hjoin : 0x10000 + n / 0x400 * 1024 + n % 0x400 = c.toNat := by omega
  rw [highSurrogate hn, lowSurrogate, List.append_assoc, unicodeEscape, decodeUnit_hex4 (by omega)]
  simp only [Option.bind_eq_bind, Option.bind_some]
  rw [joinSurrogates_pair (by omega) (by omega), hjoin]
  simp only [Option.bind_some, if_pos hv, Char.ofNat_toNat]
  rfl

lemma scanString_escapeChar (n : ℕ) (c : Char) (rest : List Char) :
    scanString (n + 1) (escapeChar c ++ rest) = (scanString n rest).map fun m => (c :: m.1, m.2) := by
  have hescape {e : Char} (he : e ≠ 'u') (hv : escapeValue e = some c) :
      scanString (n + 1) ('\\' :: e :: rest) = (scanString n rest).map fun m => (c :: m.1, m.2) := by
    rw [scanString]
    simp only [hv, Option.bind_eq_bind, Option.bind_some]
    · cases scanString n rest <;> rfl
    · exact he
  have hunicode {t : List Char} (h : unicodeEscape (t ++ rest) = some (c, rest)) :
      scanString (n + 1) ('\\' :: 'u' :: t ++ rest) = (scanString n rest).map fun m => (c :: m.1, m.2) := by
    change scanString (n + 1) ('\\' :: 'u' :: (t ++ rest)) = _
    rw [scanString]
    simp only [h, Option.bind_eq_bind, Option.bind_some]
    cases scanString n rest <;> rfl
  fun_cases escapeChar c with
  | case1 h => exact hescape (by decide) (by subst h; rfl)
  | case2 _ h => exact hescape (by decide) (by subst h; rfl)
  | case3 _ _ h => exact hescape (by decide) (h ▸ rfl)
  | case4 _ _ _ h => exact hescape (by decide) (h ▸ rfl)
  | case5 _ _ _ _ h => exact hescape (by decide) (h ▸ rfl)
  | case6 _ _ _ _ _ h =>
    have hc : Char.ofNat 0x0C = c := by rw [← h, Char.ofNat_toNat]
    exact hescape (by decide) (hc ▸ rfl)
  | case7 _ _ _ _ _ _ h =>
    have hc : Char.ofNat 0x08 = c := by rw [← h, Char.ofNat_toNat]
    exact hescape (by decide) (hc ▸ rfl)
  | case8 hq hb _ _ _ _ _ hprintable =>
    have hlow : ¬ c.toNat < 0x20 := by omega
    rw [List.singleton_append, scanString]
    · simp only [if_neg hlow, Option.bind_eq_bind]
      cases scanString n rest <;> rfl
    · exact hq
    · rintro _ rfl
      exact (hb rfl).elim
    · rintro _ _ rfl
      exact (hb rfl).elim
  | case9 _ _ _ _ _ _ _ _ h => exact hunicode (unicodeEscape_unit h rest)
  | case10 _ _ _ _ _ _ _ _ h m =>
    exact hunicode (unicodeEscape_pair (Nat.add_sub_cancel' (Nat.le_of_not_lt h)).symm rest)

lemma scanString_escaped (cs rest : List Char) :
    ∀ n, cs.length < n → scanString n (cs.flatMap escapeChar ++ '"' :: rest) = some (cs, rest) := by
  induction cs with
  | nil =>
    intro n hn
    obtain ⟨m, rfl⟩ := Nat.exists_eq_add_of_lt hn
    simp [scanString]
  | cons c cs ih =>
    intro n hn
    obtain ⟨m, rfl⟩ := Nat.exists_eq_add_of_lt hn
    rw [List.flatMap_cons, List.append_assoc, scanString_escapeChar, ih _ (by rw [List.length_cons]; omega)]
    rfl

lemma scanString_quote (s : String) (rest : List Char) :
    ∃ cs, quote s ++ rest = '"' :: cs ∧ scanString cs.length cs = some (s.toList, rest) := by
  refine ⟨s.toList.flatMap escapeChar ++ '"' :: rest, by simp [quote], scanString_escaped _ _ _ ?_⟩
  have hlen (cs : List Char) : cs.length ≤ (cs.flatMap escapeChar).length := by
    induction cs with
    | nil => exact le_rfl
    | cons c cs ih =>
      have hc : 0 < (escapeChar c).length :=
        List.length_pos_iff.mpr (by fun_cases escapeChar c <;> exact List.cons_ne_nil _ _)
      rw [List.flatMap_cons, List.length_append, List.length_cons]
      omega
  have hs := hlen s.toList
  rw [List.length_append, List.length_cons]
  omega

/-! ### Numbers -/

/-- What may follow a value inside a text that `json.dumps` wrote. -/
def Stops (rest : List Char) : Prop := ∀ c ∈ rest.head?, c = ',' ∨ c = ']' ∨ c = '}'

lemma stops_nil : Stops [] := by
  intro c hc
  cases hc

lemma stops_cons {c : Char} (h : c = ',' ∨ c = ']' ∨ c = '}') (rest : List Char) : Stops (c :: rest) := by
  intro d hd
  obtain rfl := Option.some.inj hd
  exact h

variable {rest : List Char}

lemma scanDigits_append (h : Stops rest) (cs : List Char) :
    scanDigits (cs ++ rest) = ((scanDigits cs).1, (scanDigits cs).2 ++ rest) := by
  induction cs with
  | nil =>
    cases rest with
    | nil => rfl
    | cons c rest =>
      have hc : c.isDigit = false := by
        rcases h c rfl with rfl | rfl | rfl <;> rfl
      simp [scanDigits, hc]
  | cons c cs ih =>
    simp only [scanDigits, Prod.mk.injEq] at ih
    cases hc : c.isDigit <;> simp [scanDigits, hc, ih]

lemma Stops.append_ne {c : Char} {cs : List Char} (h : Stops rest) (hc : c ≠ ',' ∧ c ≠ ']' ∧ c ≠ '}')
    (hcs : ∀ ds, cs ≠ c :: ds) (ds : List Char) : cs ++ rest ≠ c :: ds := by
  intro hds
  cases cs with
  | nil =>
    rcases h c (by rw [show rest = c :: ds from hds]; rfl) with rfl | rfl | rfl
    · exact hc.1 rfl
    · exact hc.2.1 rfl
    · exact hc.2.2 rfl
  | cons d cs => exact hcs cs (by rw [(List.cons.inj hds).1])

lemma scanNatural_of_ne {cs : List Char} (h : ∀ ds, cs ≠ '0' :: ds) :
    scanNatural cs = if (scanDigits cs).1 = [] then none else some (scanDigits cs) := by
  rw [scanNatural]
  exact h

lemma scanNatural_append (h : Stops rest) (cs : List Char) :
    scanNatural (cs ++ rest) = (scanNatural cs).map fun m => (m.1, m.2 ++ rest) := by
  by_cases hzero : ∃ ds, cs = '0' :: ds
  · obtain ⟨ds, rfl⟩ := hzero
    rfl
  · have hcs : ∀ ds, cs ≠ '0' :: ds := fun ds hds => hzero ⟨ds, hds⟩
    rw [scanNatural_of_ne hcs, scanNatural_of_ne (h.append_ne (by decide) hcs), scanDigits_append h]
    split <;> rfl

lemma scanInteger_of_ne {cs : List Char} (h : ∀ ds, cs ≠ '-' :: ds) : scanInteger cs = scanNatural cs := by
  rw [scanInteger]
  exact h

lemma scanInteger_append (h : Stops rest) (cs : List Char) :
    scanInteger (cs ++ rest) = (scanInteger cs).map fun m => (m.1, m.2 ++ rest) := by
  by_cases hminus : ∃ ds, cs = '-' :: ds
  · obtain ⟨ds, rfl⟩ := hminus
    simp only [List.cons_append, scanInteger, scanNatural_append h, Option.map_map]
    rfl
  · have hcs : ∀ ds, cs ≠ '-' :: ds := fun ds hds => hminus ⟨ds, hds⟩
    rw [scanInteger_of_ne hcs, scanInteger_of_ne (h.append_ne (by decide) hcs), scanNatural_append h]

lemma scanFraction_of_ne {cs : List Char} (h : ∀ ds, cs ≠ '.' :: ds) : scanFraction cs = ([], cs) := by
  rw [scanFraction]
  exact h

lemma scanFraction_append (h : Stops rest) (cs : List Char) :
    scanFraction (cs ++ rest) = ((scanFraction cs).1, (scanFraction cs).2 ++ rest) := by
  by_cases hpoint : ∃ ds, cs = '.' :: ds
  · obtain ⟨ds, rfl⟩ := hpoint
    simp only [List.cons_append, scanFraction, scanDigits_append h]
    split <;> rfl
  · have hcs : ∀ ds, cs ≠ '.' :: ds := fun ds hds => hpoint ⟨ds, hds⟩
    rw [scanFraction_of_ne hcs, scanFraction_of_ne (h.append_ne (by decide) hcs)]

lemma scanSign_append (h : Stops rest) (cs : List Char) :
    scanSign (cs ++ rest) = ((scanSign cs).1, (scanSign cs).2 ++ rest) := by
  cases cs with
  | nil =>
    cases rest with
    | nil => rfl
    | cons c rest => rcases h c rfl with rfl | rfl | rfl <;> rfl
  | cons c cs =>
    simp only [List.cons_append, scanSign]
    split <;> simp_all

lemma scanExponent_append (h : Stops rest) (cs : List Char) :
    scanExponent (cs ++ rest) = ((scanExponent cs).1, (scanExponent cs).2 ++ rest) := by
  cases cs with
  | nil =>
    cases rest with
    | nil => rfl
    | cons c rest =>
      have hc : ¬ (c = 'e' ∨ c = 'E') := by
        rcases h c rfl with rfl | rfl | rfl <;> decide
      simp [scanExponent, hc]
  | cons c cs =>
    simp only [List.cons_append, scanExponent, scanSign_append h, scanDigits_append h]
    split <;> rfl

variable {floatRepr : List Char → String}

lemma scanNumber_append (h : Stops rest) (cs : List Char) :
    scanNumber floatRepr (cs ++ rest) = (scanNumber floatRepr cs).map fun m => (m.1, m.2 ++ rest) := by
  rw [scanNumber, scanInteger_append h, scanNumber]
  cases scanInteger cs with
  | none => rfl
  | some m =>
    simp only [Option.map_some, Option.bind_eq_bind, Option.bind_some, scanFraction_append h, scanExponent_append h]
    split <;> rfl

lemma scanNatural_head {cs : List Char} {m : List Char × List Char} (h : scanNatural cs = some m) :
    ∃ d ds, cs = d :: ds ∧ d.isDigit := by
  cases cs with
  | nil => cases h
  | cons d ds =>
    refine ⟨d, ds, rfl, ?_⟩
    by_contra hd
    have hne : ∀ es, d :: ds ≠ '0' :: es := by
      intro es hes
      exact hd (by rw [(List.cons.inj hes).1]; rfl)
    have hnone : (scanDigits (d :: ds)).1 = [] := List.takeWhile_cons_of_neg hd
    rw [scanNatural_of_ne hne, if_pos hnone] at h
    cases h

/-- The text of a number opens with a digit, or with a sign and a digit. -/
def NumberHead (cs : List Char) : Prop :=
  ∃ d ds, d.isDigit ∧ (cs = d :: ds ∨ cs = '-' :: d :: ds)

lemma scanNumber_head {cs : List Char} {m : Value × List Char} (h : scanNumber floatRepr cs = some m) :
    NumberHead cs := by
  rw [scanNumber] at h
  obtain ⟨i, hi, -⟩ := Option.bind_eq_some_iff.mp h
  by_cases hminus : ∃ ds, cs = '-' :: ds
  · obtain ⟨ds, rfl⟩ := hminus
    obtain ⟨j, hj, -⟩ := Option.map_eq_some_iff.mp hi
    obtain ⟨d, es, rfl, hd⟩ := scanNatural_head hj
    exact ⟨d, es, hd, .inr rfl⟩
  · rw [scanInteger_of_ne fun ds hds => hminus ⟨ds, hds⟩] at hi
    obtain ⟨d, es, rfl, hd⟩ := scanNatural_head hi
    exact ⟨d, es, hd, .inl rfl⟩

lemma scanDigits_digits {cs : List Char} (h : ∀ c ∈ cs, c.isDigit) : scanDigits cs = (cs, []) :=
  Prod.ext (List.takeWhile_eq_self_iff.mpr h) (List.dropWhile_eq_nil_iff.mpr h)

lemma toDigits_head {n : ℕ} (h : 0 < n) (ds : List Char) : Nat.toDigits 10 n ≠ '0' :: ds := by
  induction n using Nat.strong_induction_on generalizing ds with
  | _ n ih =>
    intro hds
    rw [Nat.toDigits_eq_if (by decide)] at hds
    split at hds
    · have hzero := (List.cons.inj hds).1
      rw [Nat.digitChar_eq_zero] at hzero
      omega
    · obtain ⟨d, es, hes⟩ := List.exists_cons_of_ne_nil (@Nat.toDigits_ne_nil (n / 10) 10)
      rw [hes, List.cons_append] at hds
      exact ih (n / 10) (by omega) (by omega) es (by rw [hes, (List.cons.inj hds).1])

lemma scanNatural_toDigits (n : ℕ) : scanNatural (Nat.toDigits 10 n) = some (Nat.toDigits 10 n, []) := by
  rcases Nat.eq_zero_or_pos n with rfl | hn
  · rfl
  · have hdigits : ∀ c ∈ Nat.toDigits 10 n, c.isDigit := fun c hc =>
      Nat.isDigit_of_mem_toDigits (by decide) (by decide) hc
    rw [scanNatural_of_ne (toDigits_head hn), scanDigits_digits hdigits, if_neg Nat.toDigits_ne_nil]

lemma toDigits_ne_minus (n : ℕ) (ds : List Char) : Nat.toDigits 10 n ≠ '-' :: ds := by
  intro h
  have hd := Nat.isDigit_of_mem_toDigits (by decide) (by decide) (h ▸ List.mem_cons_self)
  cases hd

lemma scanNumber_integer {cs : List Char} (h : scanInteger cs = some (cs, [])) :
    scanNumber floatRepr cs = some (.int (parseInt cs), []) := by
  rw [scanNumber, h]
  rfl

lemma scanNumber_int (i : ℤ) : scanNumber floatRepr (toString i).toList = some (.int i, []) := by
  cases i with
  | ofNat n =>
    have ht : (toString (Int.ofNat n)).toList = Nat.toDigits 10 n := Nat.toList_repr
    have hint : scanInteger (Nat.toDigits 10 n) = some (Nat.toDigits 10 n, []) := by
      rw [scanInteger_of_ne (toDigits_ne_minus n), scanNatural_toDigits]
    have hval : parseInt (Nat.toDigits 10 n) = n := by
      rw [parseInt, Nat.ofDigitChars_ten_toDigits]
      exact toDigits_ne_minus n
    rw [ht, scanNumber_integer hint, hval]
    rfl
  | negSucc n =>
    have ht : (toString (Int.negSucc n)).toList = '-' :: Nat.toDigits 10 (n + 1) := by
      change ("-" ++ Nat.repr (n + 1)).toList = _
      rw [String.toList_append, Nat.toList_repr]
      rfl
    have hint : scanInteger ('-' :: Nat.toDigits 10 (n + 1)) = some ('-' :: Nat.toDigits 10 (n + 1), []) := by
      rw [scanInteger, scanNatural_toDigits]
      rfl
    have hval : parseInt ('-' :: Nat.toDigits 10 (n + 1)) = Int.negSucc n := by
      rw [parseInt, Nat.ofDigitChars_ten_toDigits]
      rfl
    rw [ht, scanNumber_integer hint, hval]

/-! ### Constants -/

lemma scanConstant_append {e : List Char × Value} (h : e ∈ constants) (rest : List Char) :
    scanConstant (e.1 ++ rest) = some (e.2, rest) := by
  simp only [constants, List.mem_cons, List.not_mem_nil, or_false] at h
  rcases h with rfl | rfl | rfl | rfl | rfl | rfl <;> simp [scanConstant, constants]

lemma digit_ne {d c : Char} (hd : d.isDigit) (hc : c.isDigit = false) : d ≠ c := by
  rintro rfl
  rw [hc] at hd
  cases hd

lemma scanConstant_number {cs : List Char} (h : NumberHead cs) : scanConstant cs = none := by
  rw [scanConstant, List.findSome?_eq_none_iff]
  intro e he
  rw [if_neg]
  intro hp
  simp only [constants, List.mem_cons, List.not_mem_nil, or_false] at he
  obtain ⟨d, ds, hd, rfl | rfl⟩ := h
  · rcases he with rfl | rfl | rfl | rfl | rfl | rfl
    all_goals exact digit_ne hd rfl (List.cons_prefix_cons.mp hp).1.symm
  · rcases he with rfl | rfl | rfl | rfl | rfl | rfl
    case inr.inr.inr.inr.inr => exact digit_ne hd rfl (List.cons_prefix_cons.mp (List.cons_prefix_cons.mp hp).2).1.symm
    all_goals exact absurd (List.cons_prefix_cons.mp hp).1 (by decide)

lemma scanOnce_plain {n : ℕ} {cs : List Char} (hs : ∀ ds, cs ≠ '"' :: ds) (hd : ∀ ds, cs ≠ '\x7b' :: ds)
    (hl : ∀ ds, cs ≠ '[' :: ds) : scanOnce floatRepr (n + 1) cs = (scanConstant cs).or (scanNumber floatRepr cs) := by
  rw [scanOnce]
  · exact hs
  · exact hd
  · exact hl

lemma scanOnce_constant {e : List Char × Value} (h : e ∈ constants) (n : ℕ) (rest : List Char) :
    scanOnce floatRepr (n + 1) (e.1 ++ rest) = some (e.2, rest) := by
  have hc := scanConstant_append h rest
  simp only [constants, List.mem_cons, List.not_mem_nil, or_false] at h
  rw [scanOnce_plain, hc]
  · rfl
  all_goals rcases h with rfl | rfl | rfl | rfl | rfl | rfl <;> simp

lemma scanOnce_number {cs : List Char} {v : Value} (h : scanNumber floatRepr cs = some (v, [])) (hr : Stops rest)
    (n : ℕ) : scanOnce floatRepr (n + 1) (cs ++ rest) = some (v, rest) := by
  have hnum : scanNumber floatRepr (cs ++ rest) = some (v, rest) := by
    rw [scanNumber_append hr, h]
    rfl
  have hhead := scanNumber_head hnum
  rw [scanOnce_plain, scanConstant_number hhead, hnum]
  · rfl
  all_goals
    intro ds hds
    obtain ⟨d, es, hd, he | he⟩ := hhead
    all_goals
      rw [hds] at he
      have hc := (List.cons.inj he).1
    · exact digit_ne hd rfl hc.symm
    · exact absurd hc (by decide)

end HaBluetooth.Python
