import HaBluetooth.Protocol.BurstErrors
import HaBluetooth.Support.PolynomialRegister

/-! The CRC as a remainder of polynomials over the field of two elements. -/

namespace HaBluetooth.Protocol

open Python Support ShiftRegister BitStrings Polynomial

lemma modulus_generator : modulus generator = X ^ 16 + X ^ 12 + X ^ 5 + 1 := by
  have hload : generator = load 16 [false, false, false, true, false, false, false, false, false, false, true,
      false, false, false, false, true] := by decide
  rw [modulus, hload, toPoly_load (by rfl)]
  simp [ofBits_cons, add_assoc]

lemma register_crc (data : Bytes) :
    BitVec.ofNat 16 (crc16Ccitt data) = run generator 0xFFFF#16 (bitString data) := by
  rw [crc16Ccitt_toNat, BitVec.ofNat_toNat, BitVec.setWidth_eq]

lemma crc16Ccitt_appended (data : Bytes) : crc16Ccitt (data ++ BigEndian.toBytes 2 (crc16Ccitt data)) = 0 := by
  have hvalue := BigEndian.value_toBytes (crc16Ccitt_lt data)
  rw [crc16Ccitt_toNat, run_codeword (BigEndian.length_toBytes 2 _) hvalue.symm]
  rfl

theorem crc_is_remainder (data : Bytes) :
    crc16Ccitt data < 2 ^ 16 ∧
      toPoly (BitVec.ofNat 16 (crc16Ccitt data)) =
        (toPoly 0xFFFF#16 * X ^ (8 * data.length) + ofBits (bitString data) * X ^ 16) %ₘ
          (X ^ 16 + X ^ 12 + X ^ 5 + 1) ∧
      crc16Ccitt (data ++ BigEndian.toBytes 2 (crc16Ccitt data)) = 0 := by
  refine ⟨crc16Ccitt_lt data, ?_, crc16Ccitt_appended data⟩
  rw [register_crc, toPoly_run generator (by decide), length_bitString, modulus_generator]

end HaBluetooth.Protocol
