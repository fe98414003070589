import HaBluetooth.Python.Runtime

/-! Splitting a frame into flagged BLE chunks. `encode_ble_chunks` and the GATT server's
`_encode_chunks` are the same loop with different payload sizes. -/

namespace HaBluetooth.Protocol

open Python

def bleChunkContinues : UInt8 := 0x00
def bleChunkFinal : UInt8 := 0x01
def bleMaxPayload : ℕ := 508

def encodeFrom (size : ℕ) [NeZero size] (data : Bytes) (offset : ℕ) : List Bytes :=
  if offset < data.length then
    let stop := min (offset + size) data.length
    let flag := if stop = data.length then bleChunkFinal else bleChunkContinues
    (flag :: (data.take stop).drop offset) :: encodeFrom size data stop
  else []
termination_by data.length - offset
decreasing_by
  have hs := NeZero.pos size
  omega

instance : NeZero bleMaxPayload := ⟨by decide⟩

def encodeBleChunks (data : Bytes) : List Bytes := encodeFrom bleMaxPayload data 0

def decodeBleChunks (chunks : List Bytes) : Bytes := (chunks.map (List.drop 1)).flatten

lemma encodeFrom_more {size : ℕ} [NeZero size] {data : Bytes} {offset : ℕ} (h : offset < data.length) :
    encodeFrom size data offset =
      ((if min (offset + size) data.length = data.length then bleChunkFinal else bleChunkContinues) ::
        (data.take (min (offset + size) data.length)).drop offset) ::
          encodeFrom size data (min (offset + size) data.length) := by
  rw [encodeFrom, if_pos h]

lemma encodeFrom_done {size : ℕ} [NeZero size] {data : Bytes} {offset : ℕ} (h : data.length ≤ offset) :
    encodeFrom size data offset = [] := by
  rw [encodeFrom, if_neg (not_lt.mpr h)]

lemma length_encodeFrom (size : ℕ) [NeZero size] (data : Bytes) (offset : ℕ) :
    (encodeFrom size data offset).length = (data.length - offset + (size - 1)) / size := by
  have hs := NeZero.pos size
  fun_induction encodeFrom size data offset with
  | case1 offset h stop flag ih =>
    rw [List.length_cons, ih]
    by_cases hfull : offset + size ≤ data.length
    · have hstop : stop = offset + size := min_eq_left hfull
      have hsum : data.length - offset + (size - 1) = data.length - stop + (size - 1) + size := by omega
      rw [hsum, Nat.add_div_right _ hs]
    · have hstop : stop = data.length := min_eq_right (by omega)
      have hzero : (data.length - stop + (size - 1)) / size = 0 := Nat.div_eq_of_lt (by omega)
      have hone : (data.length - offset + (size - 1)) / size = 1 :=
        Nat.div_eq_of_lt_le (by omega) (by omega)
      rw [hzero, hone]
  | case2 offset h =>
    rw [List.length_nil, Nat.div_eq_of_lt (by omega)]

end HaBluetooth.Protocol
