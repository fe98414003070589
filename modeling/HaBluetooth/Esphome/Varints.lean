import HaBluetooth.Esphome.Frames
import HaBluetooth.Python.StreamReader
import HaBluetooth.Support.Base128

/-! `_read_varint` on every stream: what it takes and refuses, and the tenth byte that its guard comes too late for. -/

namespace HaBluetooth.Esphome

open Python Support
open Base128 (Continues Numeral)

def readByte : Reader ℕ := do
  let bytes ← readexactly 1
  return (bytes.headD 0).toNat

/-- The loop of `_read_varint`, with its two variables. -/
def readVarintLoop (value shift : ℕ) : Reader ℕ := do
  let byte ← readByte
  let value := value ||| (byte &&& 0x7F) <<< shift
  if byte &&& 0x80 = 0 then return value
  else if shift + 7 > 63 then throw ⟨.valueError, "Varint too large"⟩
  else readVarintLoop value (shift + 7)
termination_by 64 - shift

def readVarint : Reader ℕ := readVarintLoop 0 0

lemma readByte_nil : readByte [] = .error (incompleteRead 0 1) [] := rfl

lemma readByte_cons (b : UInt8) (rest : Bytes) : readByte (b :: rest) = .ok b.toNat rest :=
  Reader.bind_ok _ (Reader.readexactly_one b rest)

/-! ### One byte -/

lemma low_bits (value : ℕ) : value &&& 0x7F = value % 128 := Nat.and_two_pow_sub_one_eq_mod value 7

lemma continuation_bit (b : UInt8) : b.toNat &&& 0x80 = 0 ↔ ¬ Continues b := by
  have hb : b.toNat < 256 := b.toNat_lt
  have hbit : b.toNat &&& 0x80 = b.toNat / 2 ^ 7 % 2 * 2 ^ 7 := by
    rw [← Nat.toNat_testBit]
    exact Nat.and_two_pow b.toNat 7
  rw [hbit, Continues]
  omega

lemma continuation_byte {r : ℕ} (hr : r < 128) : (UInt8.ofNat (r ||| 0x80)).toNat = r + 128 := by
  have hor : 128 + r = 128 ||| r := @Nat.two_pow_add_eq_or_of_lt 7 r hr 1
  rw [Nat.or_comm, ← hor, UInt8.toNat_ofNat', Nat.mod_eq_of_lt (by omega), Nat.add_comm]

lemma or_low_bits {acc shift : ℕ} (hacc : acc < 2 ^ shift) (b : UInt8) :
    acc ||| (b.toNat &&& 0x7F) <<< shift = acc + b.toNat % 128 * 2 ^ shift := by
  rw [low_bits, Nat.shiftLeft_eq, Nat.or_comm, Nat.mul_comm, ← Nat.two_pow_add_eq_or_of_lt hacc, Nat.add_comm]

lemma accumulated_lt {acc shift : ℕ} (hacc : acc < 2 ^ shift) (b : UInt8) :
    acc + b.toNat % 128 * 2 ^ shift < 2 ^ (shift + 7) := by
  have hlow : b.toNat % 128 + 1 ≤ 2 ^ 7 := Nat.mod_lt _ (by norm_num)
  calc acc + b.toNat % 128 * 2 ^ shift < 2 ^ shift + b.toNat % 128 * 2 ^ shift := Nat.add_lt_add_right hacc _
    _ = 2 ^ shift * (b.toNat % 128 + 1) := by ring
    _ ≤ 2 ^ shift * 2 ^ 7 := Nat.mul_le_mul_left _ hlow
    _ = 2 ^ (shift + 7) := (pow_add 2 shift 7).symm

lemma readVarintLoop_cons {acc shift : ℕ} (hacc : acc < 2 ^ shift) (b : UInt8) (rest : Bytes) :
    readVarintLoop acc shift (b :: rest) =
      if ¬ Continues b then .ok (acc + b.toNat % 128 * 2 ^ shift) rest
      else if shift + 7 > 63 then .error ⟨.valueError, "Varint too large"⟩ rest
      else readVarintLoop (acc + b.toNat % 128 * 2 ^ shift) (shift + 7) rest := by
  rw [readVarintLoop, Reader.bind_ok _ (readByte_cons _ _)]
  simp only [or_low_bits hacc, continuation_bit]
  split
  · rfl
  · split <;> rfl

/-! ### What `_encode_varint` writes -/

lemma numeral_encodeVarint (value : ℕ) : Numeral (encodeVarint value) := by
  induction value using encodeVarint.induct with
  | case1 value hbig ih =>
    rw [encodeVarint, if_pos hbig, low_bits]
    refine .more ?_ ih
    rw [Continues, continuation_byte (Nat.mod_lt _ (by norm_num))]
    exact Nat.le_add_left 128 _
  | case2 value hsmall =>
    rw [encodeVarint, if_neg hsmall, low_bits]
    refine .last ?_
    rw [Continues, UInt8.toNat_ofNat']
    omega

lemma value_encodeVarint (value : ℕ) : Base128.value (encodeVarint value) = value := by
  induction value using encodeVarint.induct with
  | case1 value hbig ih =>
    rw [encodeVarint, if_pos hbig, low_bits, Base128.value_cons, continuation_byte (Nat.mod_lt _ (by norm_num)), ih,
      Nat.shiftRight_eq_div_pow]
    omega
  | case2 value hsmall =>
    rw [encodeVarint, if_neg hsmall, low_bits, Base128.value_singleton, UInt8.toNat_ofNat']
    omega

/-! ### A whole stream -/

lemma readVarintLoop_numeral {enc : Bytes} (henc : Numeral enc) {acc shift : ℕ} (hacc : acc < 2 ^ shift)
    (hlen : shift + 7 * enc.length ≤ 70) (rest : Bytes) :
    readVarintLoop acc shift (enc ++ rest) = .ok (acc + Base128.value enc * 2 ^ shift) rest := by
  induction henc generalizing acc shift with
  | @last b hb => rw [List.singleton_append, readVarintLoop_cons hacc, if_pos hb, Base128.value_singleton]
  | @more b enc hb henc ih =>
    have hpos := henc.length_pos
    rw [List.length_cons] at hlen
    rw [List.cons_append, readVarintLoop_cons hacc, if_neg (not_not_intro hb), if_neg (by omega),
      ih (accumulated_lt hacc b) (by omega), Base128.value_cons, pow_add]
    congr 1
    ring

lemma readVarintLoop_tooLong {more : Bytes} (hmore : ∀ b ∈ more, Continues b) {acc shift : ℕ} (hacc : acc < 2 ^ shift)
    (hshift : shift ≤ 63) (hlen : shift + 7 * more.length = 70) (rest : Bytes) :
    readVarintLoop acc shift (more ++ rest) = .error ⟨.valueError, "Varint too large"⟩ rest := by
  induction more generalizing acc shift with
  | nil =>
    rw [List.length_nil] at hlen
    omega
  | cons b more ih =>
    obtain ⟨hb, hmore⟩ := List.forall_mem_cons.mp hmore
    rw [List.length_cons] at hlen
    rw [List.cons_append, readVarintLoop_cons hacc, if_neg (not_not_intro hb)]
    split
    · have hnil : more = [] := List.length_eq_zero_iff.mp (by omega)
      rw [hnil, List.nil_append]
    · exact ih hmore (accumulated_lt hacc b) (by omega) (by omega)

lemma readVarintLoop_short {s : Bytes} (hs : ∀ b ∈ s, Continues b) {acc shift : ℕ} (hacc : acc < 2 ^ shift)
    (hlen : shift + 7 * s.length ≤ 63) : readVarintLoop acc shift s = .error (incompleteRead 0 1) [] := by
  induction s generalizing acc shift with
  | nil => rw [readVarintLoop, Reader.bind_error _ readByte_nil]
  | cons b s ih =>
    obtain ⟨hb, hs⟩ := List.forall_mem_cons.mp hs
    rw [List.length_cons] at hlen
    rw [readVarintLoop_cons hacc, if_neg (not_not_intro hb), if_neg (by omega),
      ih hs (accumulated_lt hacc b) (by omega)]

lemma readVarint_numeral {enc : Bytes} (henc : Numeral enc) (hlen : enc.length ≤ 10) (rest : Bytes) :
    readVarint (enc ++ rest) = .ok (Base128.value enc) rest := by
  rw [readVarint, readVarintLoop_numeral henc (by norm_num) (by omega), pow_zero, Nat.mul_one, Nat.zero_add]

lemma readVarint_tooLong {more : Bytes} (hmore : ∀ b ∈ more, Continues b) (hlen : more.length = 10) (rest : Bytes) :
    readVarint (more ++ rest) = .error ⟨.valueError, "Varint too large"⟩ rest :=
  readVarintLoop_tooLong hmore (by norm_num) (by omega) (by omega) rest

lemma readVarint_short {s : Bytes} (hs : ∀ b ∈ s, Continues b) (hlen : s.length < 10) :
    readVarint s = .error (incompleteRead 0 1) [] :=
  readVarintLoop_short hs (by norm_num) (by omega)

theorem readVarint_eq_ok {s rest : Bytes} {value : ℕ} :
    readVarint s = .ok value rest ↔
      ∃ enc, s = enc ++ rest ∧ Numeral enc ∧ enc.length ≤ 10 ∧ value = Base128.value enc := by
  constructor
  · intro h
    obtain ⟨enc, rest', rfl, henc, hlen⟩ | ⟨more, rest', rfl, hlen, hmore⟩ | ⟨hlen, hs⟩ := Base128.numeral_within 10 s
    · rw [readVarint_numeral henc hlen] at h
      cases h
      exact ⟨enc, rfl, henc, hlen, rfl⟩
    · rw [readVarint_tooLong hmore hlen] at h
      cases h
    · rw [readVarint_short hs hlen] at h
      cases h
  · rintro ⟨enc, rfl, henc, hlen, rfl⟩
    exact readVarint_numeral henc hlen rest

lemma readVarint_encode {value : ℕ} (h : value < 2 ^ 64) (rest : Bytes) :
    readVarint (encodeVarint value ++ rest) = .ok value rest := by
  have hlen : (encodeVarint value).length ≤ 9 + 1 := length_encodeVarint (lt_trans h (by norm_num))
  rw [readVarint_numeral (numeral_encodeVarint value) hlen, value_encodeVarint]

/-! ### Sixty-four bits -/

def TooLong (s : Bytes) : Prop := ∃ more rest, s = more ++ rest ∧ more.length = 10 ∧ ∀ b ∈ more, Continues b

def TooLarge (s : Bytes) : Prop := ∃ enc rest, s = enc ++ rest ∧ Numeral enc ∧ 2 ^ 64 ≤ Base128.value enc

/-- `_read_varint` takes from the stream a number of 64 bits or nothing. -/
structure SixtyFourBit (s : Bytes) : Prop where
  returned : ∀ value rest, readVarint s = .ok value rest →
    value < 2 ^ 64 ∧ ∃ consumed, s = consumed ++ rest ∧ consumed.length ≤ 10 ∧ value = Base128.value consumed
  refused : TooLong s ∨ TooLarge s → ∃ rest, readVarint s = .error ⟨.valueError, "Varint too large"⟩ rest

/-- The tenth byte ends the numeral, and has bits above the one that is left of the 64. -/
def WideTenth (s : Bytes) : Prop :=
  ∃ init tenth rest, s = init ++ tenth :: rest ∧ init.length = 9 ∧ (∀ b ∈ init, Continues b) ∧
    ¬ Continues tenth ∧ 2 ≤ tenth.toNat

lemma tenth_byte_lt_iff {init : Bytes} (hinit : init.length = 9) (tenth : UInt8) :
    Base128.value (init ++ [tenth]) < 2 ^ 64 ↔ tenth.toNat % 128 < 2 := by
  rw [← Base128.value_snoc_lt_iff init, hinit]
  norm_num

lemma readVarint_wideTenth {s : Bytes} (h : WideTenth s) :
    ∃ value rest, readVarint s = .ok value rest ∧ 2 ^ 64 ≤ value := by
  obtain ⟨init, tenth, rest, rfl, hinit, hmore, hlast, hwide⟩ := h
  have hlen : (init ++ [tenth]).length ≤ 10 := by simp [hinit]
  refine ⟨Base128.value (init ++ [tenth]), rest, ?_, ?_⟩
  · rw [List.append_cons]
    exact readVarint_numeral (.snoc hmore hlast) hlen rest
  · rw [← Nat.not_lt, tenth_byte_lt_iff hinit]
    omega

lemma value_lt_of_not_wideTenth {enc rest : Bytes} (henc : Numeral enc) (hlen : enc.length ≤ 10)
    (h : ¬ WideTenth (enc ++ rest)) : Base128.value enc < 2 ^ 64 := by
  obtain ⟨init, last, rfl, hinit, hlast⟩ := henc.exists_snoc
  rw [List.length_append, List.length_singleton] at hlen
  by_cases hnine : init.length = 9
  · rw [tenth_byte_lt_iff hnine]
    by_contra hwide
    exact h ⟨init, last, rest, List.append_assoc .., hnine, hinit, hlast, by omega⟩
  · calc Base128.value (init ++ [last]) < 128 ^ (init ++ [last]).length := Base128.value_lt _
      _ ≤ 128 ^ 9 := Nat.pow_le_pow_right (by norm_num) (by simp; omega)
      _ < 2 ^ 64 := by norm_num

theorem readVarint_sixtyFourBit_iff (s : Bytes) : SixtyFourBit s ↔ ¬ WideTenth s := by
  constructor
  · intro h hwide
    obtain ⟨value, rest, hread, hvalue⟩ := readVarint_wideTenth hwide
    exact Nat.not_lt.mpr hvalue (h.returned value rest hread).1
  · intro h
    constructor
    · intro value rest hread
      obtain ⟨enc, rfl, henc, hlen, rfl⟩ := readVarint_eq_ok.mp hread
      exact ⟨value_lt_of_not_wideTenth henc hlen h, enc, rfl, hlen, rfl⟩
    · rintro (⟨more, rest, rfl, hlen, hmore⟩ | ⟨enc, rest, rfl, henc, hvalue⟩)
      · exact ⟨rest, readVarint_tooLong hmore hlen rest⟩
      · have hlen : 10 < enc.length := by
          by_contra hlen
          exact Nat.not_lt.mpr hvalue (value_lt_of_not_wideTenth henc (Nat.not_lt.mp hlen) h)
        obtain ⟨more, rest', rfl, hmore, hall⟩ := henc.exists_more hlen
        rw [List.append_assoc]
        exact ⟨rest' ++ rest, readVarint_tooLong hall hmore _⟩

theorem wide_tenth_byte_accepted :
    readVarint (List.replicate 9 0x80 ++ [0x02]) = .ok (2 ^ 64) [] ∧
      ¬ SixtyFourBit (List.replicate 9 0x80 ++ [0x02]) := by
  have hread : readVarint (List.replicate 9 0x80 ++ [0x02]) = .ok (2 ^ 64) [] := by
    have hnumeral : Numeral (List.replicate 9 0x80 ++ [0x02]) := .snoc (by simp) (by decide)
    exact readVarint_numeral hnumeral (by decide) []
  exact ⟨hread, fun h => absurd (h.returned _ _ hread).1 (lt_irrefl _)⟩

end HaBluetooth.Esphome
