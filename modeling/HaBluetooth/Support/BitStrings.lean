import HaBluetooth.Support.BigEndian
import HaBluetooth.Support.ShiftRegister

/-! Bytes as bit strings, most significant bit first, fed to a shift register. -/

namespace HaBluetooth.Support.BitStrings

open ShiftRegister

def bits (b : UInt8) : List Bool := (List.range 8).map fun i => b.toBitVec.getMsbD i

def bitString (bs : List UInt8) : List Bool := bs.flatMap bits

def xorBytes (xs ys : List UInt8) : List UInt8 := List.zipWith (· ^^^ ·) xs ys

@[simp] lemma length_bits (b : UInt8) : (bits b).length = 8 := by simp [bits]

@[simp] lemma bitString_nil : bitString [] = [] := rfl

@[simp] lemma bitString_cons (b : UInt8) (bs : List UInt8) : bitString (b :: bs) = bits b ++ bitString bs := rfl

@[simp] lemma bitString_append (xs ys : List UInt8) :
    bitString (xs ++ ys) = bitString xs ++ bitString ys := List.flatMap_append

@[simp] lemma length_bitString (bs : List UInt8) : (bitString bs).length = 8 * bs.length := by
  induction bs with
  | nil => rfl
  | cons b bs ih =>
    simp [ih]
    omega

lemma bits_xor (x y : UInt8) : bits (x ^^^ y) = List.zipWith (· ^^ ·) (bits x) (bits y) := by
  simp [bits, List.range_succ]

lemma bitString_xor (xs ys : List UInt8) :
    bitString (xorBytes xs ys) = List.zipWith (· ^^ ·) (bitString xs) (bitString ys) := by
  induction xs generalizing ys with
  | nil => rfl
  | cons x xs ih =>
    cases ys with
    | nil => simp [xorBytes]
    | cons y ys =>
      have hh := ih ys
      simp only [xorBytes] at hh ⊢
      rw [List.zipWith_cons_cons, bitString_cons, bitString_cons, bitString_cons, hh, bits_xor,
        List.zipWith_append (by simp)]

lemma load_bits (b : UInt8) : load 8 (bits b) = b.toBitVec := by
  apply BitVec.eq_of_getMsbD_eq
  intro i hi
  rw [getMsbD_load _ _ hi]
  simp [bits, hi]

lemma load_pair (a b : UInt8) : (load 16 (bitString [a, b])).toNat = BigEndian.value [a, b] := by
  have hl : load 16 (bitString [a, b]) = a.toBitVec ++ b.toBitVec := by
    rw [bitString_cons, bitString_cons, bitString_nil, List.append_nil,
      load_append (m := 8) (n := 8) _ _ (length_bits a), load_bits, load_bits]
  rw [hl, BitVec.toNat_append, ← Nat.shiftLeft_add_eq_or_of_lt b.toBitVec.isLt]
  simp [BigEndian.value, Nat.shiftLeft_eq]

lemma bits_zero {x : UInt8} (h : ∀ b ∈ bits x, b = false) : x = 0 := by
  apply UInt8.toBitVec_inj.mp
  apply BitVec.eq_of_getMsbD_eq
  intro i hi
  have hh := h (x.toBitVec.getMsbD i) (List.mem_map.mpr ⟨i, by simpa using hi, rfl⟩)
  simpa using hh

lemma bitString_zero {bs : List UInt8} (h : ∀ b ∈ bitString bs, b = false) : ∀ x ∈ bs, x = 0 := by
  intro x hx
  exact bits_zero fun b hb => h b (List.mem_flatMap.mpr ⟨x, hx, hb⟩)

lemma xorBytes_append {as bs : List UInt8} (cs ds : List UInt8) (h : as.length = bs.length) :
    xorBytes (as ++ cs) (bs ++ ds) = xorBytes as bs ++ xorBytes cs ds := List.zipWith_append h

@[simp] lemma length_xorBytes (xs ys : List UInt8) :
    (xorBytes xs ys).length = min xs.length ys.length := List.length_zipWith

lemma xorBytes_fixed {xs es : List UInt8} (hl : xs.length = es.length) (h : xorBytes xs es = xs) :
    ∀ e ∈ es, e = 0 := by
  induction xs generalizing es with
  | nil =>
    obtain rfl : es = [] := List.length_eq_zero_iff.mp hl.symm
    simp
  | cons x xs ih =>
    obtain ⟨e, es, rfl⟩ : ∃ e fs, es = e :: fs := List.exists_cons_of_length_eq_add_one hl.symm
    simp only [xorBytes, List.zipWith_cons_cons, List.cons.injEq] at h
    have he : e = 0 := by
      have hh := congrArg (x ^^^ ·) h.1
      simpa [← UInt8.xor_assoc] using hh
    intro f hf
    rcases List.mem_cons.mp hf with rfl | hf
    · exact he
    · exact ih (by simpa using hl) h.2 f hf

end HaBluetooth.Support.BitStrings
