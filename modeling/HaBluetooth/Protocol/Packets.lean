import HaBluetooth.Python.Runtime
import HaBluetooth.Support.BitStrings
import Mathlib.Data.Nat.Bitwise

/-! The passcode packet: CRC16-CCITT, the encoder and the decoder. -/

namespace HaBluetooth.Protocol

open Python Support

def pktHeader : Bytes := [0xAA, 0xBB]
def pktEnd : Bytes := [0xCC, 0xDD]

def pktInnerSize : ℕ := 8

def crcStep (crc : ℕ) : ℕ := (if crc &&& 0x8000 ≠ 0 then crc <<< 1 ^^^ 0x1021 else crc <<< 1) &&& 0xFFFF

def crcByte (crc : ℕ) (byte : UInt8) : ℕ := crcStep^[8] (crc ^^^ byte.toNat <<< 8)

def crc16Ccitt (data : Bytes) : ℕ := data.foldl crcByte 0xFFFF

def packInner (passcode cmd flags payloadLen : ℕ) : Result Bytes := do
  let p ← structPack 4 passcode
  let c ← structPack 1 cmd
  let f ← structPack 1 flags
  let l ← structPack 2 payloadLen
  return p ++ c ++ f ++ l

def encodePacket (passcode cmd : ℕ) (payload : Bytes) (flags : ℕ) : Result Bytes := do
  if payload.length > 0xFFFF then
    throw ⟨.valueError, s!"Payload too large for uint16 length field: {payload.length} bytes"⟩
  let header ← packInner passcode cmd flags payload.length
  let inner := header ++ payload
  let crc ← structPack 2 (crc16Ccitt inner)
  return pktHeader ++ inner ++ crc ++ pktEnd

def decodePacket (data : Bytes) : Option (ℕ × ℕ × Bytes) :=
  if data.length < 14 then none
  else if data.take 2 ≠ pktHeader ∨ data.drop (data.length - 2) ≠ pktEnd then none
  else
    let inner := (data.take (data.length - 4)).drop 2
    let crcReceived := BigEndian.value ((data.take (data.length - 2)).drop (data.length - 4))
    if crc16Ccitt inner ≠ crcReceived then none
    else if inner.length < pktInnerSize then none
    else
      let passcode := BigEndian.value (inner.take 4)
      let cmd := BigEndian.value ((inner.drop 4).take 1)
      let payloadLen := BigEndian.value ((inner.drop 6).take 2)
      let expectedTotal := pktInnerSize + payloadLen
      if inner.length < expectedTotal then none
      else some (passcode, cmd, (inner.take expectedTotal).drop pktInnerSize)

-- CRC16-CCITT's published check value
example : crc16Ccitt [0x31, 0x32, 0x33, 0x34, 0x35, 0x36, 0x37, 0x38, 0x39] = 0x29B1 := by decide +kernel

/-! ### The byte loop is the shift register -/

section Register

open ShiftRegister BitStrings

def generator : BitVec 16 := 0x1021#16

lemma crcStep_toNat (r : BitVec 16) : crcStep r.toNat = (shift generator r).toNat := by
  have hm : (r.toNat &&& 0x8000 ≠ 0) ↔ r.msb = true := by
    rw [BitVec.msb_eq_getLsbD_last, BitVec.getLsbD, show 0x8000 = 2 ^ 15 from rfl, Nat.and_two_pow]
    cases r.toNat.testBit (16 - 1) <;> simp_all
  simp only [crcStep, shift, hm]
  split
  · rw [show 0xFFFF = 2 ^ 16 - 1 from rfl, Nat.and_two_pow_sub_one_eq_mod, BitVec.toNat_xor,
      BitVec.toNat_shiftLeft, Nat.xor_mod_two_pow]
    rfl
  · rw [show 0xFFFF = 2 ^ 16 - 1 from rfl, Nat.and_two_pow_sub_one_eq_mod, BitVec.toNat_shiftLeft]

lemma crcStep_iterate (n : ℕ) (r : BitVec 16) : crcStep^[n] r.toNat = ((shift generator)^[n] r).toNat := by
  induction n generalizing r with
  | zero => rfl
  | succ n ih => rw [Function.iterate_succ_apply, Function.iterate_succ_apply, crcStep_toNat, ih]

lemma crcByte_toNat (r : BitVec 16) (b : UInt8) : crcByte r.toNat b = (run generator r (bits b)).toNat := by
  have hb : (load 16 (bits b)).toNat = b.toNat <<< 8 := by
    have hl : load 16 (bits b) = b.toBitVec ++ 0#8 := by
      rw [← List.append_nil (bits b), load_append (m := 8) (n := 8) _ _ (length_bits b), load_bits]
      rfl
    rw [hl, BitVec.toNat_append]
    simp
  rw [run_load generator r _ (by simp), length_bits, ← crcStep_iterate, crcByte, BitVec.toNat_xor, hb]

lemma crc16Ccitt_toNat (data : Bytes) :
    crc16Ccitt data = (run generator 0xFFFF#16 (bitString data)).toNat := by
  have hh (r : BitVec 16) : data.foldl crcByte r.toNat = (run generator r (bitString data)).toNat := by
    induction data generalizing r with
    | nil => rfl
    | cons b data ih => rw [List.foldl_cons, crcByte_toNat, ih, bitString_cons, run_append]
  exact hh 0xFFFF#16

lemma crc16Ccitt_lt (data : Bytes) : crc16Ccitt data < 256 ^ 2 := by
  rw [crc16Ccitt_toNat]
  exact (run generator 0xFFFF#16 (bitString data)).isLt

end Register

end HaBluetooth.Protocol
