import Mathlib.Data.Nat.Bitwise

/-!
# Little-endian words

Words of 16 and 32 bits as bytes, low byte first: what a word is worth, that splitting it loses
nothing, and reading words at offsets of a byte list.
-/

namespace LittleEndian

/-- A 16-bit word from its bytes. -/
def word16 (low high : UInt8) : UInt16 := low.toUInt16 ||| (high.toUInt16 <<< 8)

/-- A 32-bit word from its bytes. -/
def word32 (byte0 byte1 byte2 byte3 : UInt8) : UInt32 :=
  byte0.toUInt32 ||| (byte1.toUInt32 <<< 8) ||| (byte2.toUInt32 <<< 16) ||| (byte3.toUInt32 <<< 24)

/-- Bits above a small number are added to it. -/
theorem or_shiftLeft {low width : Nat} (small : low < 2 ^ width) (high : Nat) :
    low ||| (high <<< width) = low + 2 ^ width * high := by
  rw [Nat.or_comm, ← Nat.shiftLeft_add_eq_or_of_lt small, Nat.shiftLeft_eq, Nat.add_comm,
    Nat.mul_comm]

/-- The value of a 16-bit word. -/
theorem word16_toNat (low high : UInt8) :
    (word16 low high).toNat = low.toNat + 256 * high.toNat := by
  have small := low.toNat_lt
  have bound := high.toNat_lt
  have shifted : (high.toNat <<< 8) % 65536 = high.toNat <<< 8 := by
    rw [Nat.shiftLeft_eq]
    omega
  simp only [word16, UInt16.toNat_or, UInt16.toNat_shiftLeft, UInt8.toNat_toUInt16]
  simpa [shifted] using or_shiftLeft small high.toNat

/-- The value of a 32-bit word. -/
theorem word32_toNat (byte0 byte1 byte2 byte3 : UInt8) :
    (word32 byte0 byte1 byte2 byte3).toNat =
      byte0.toNat + 256 * byte1.toNat + 65536 * byte2.toNat + 16777216 * byte3.toNat := by
  have small0 := byte0.toNat_lt
  have small1 := byte1.toNat_lt
  have small2 := byte2.toNat_lt
  have small3 := byte3.toNat_lt
  have shifted {value width : Nat} (fits : value * 2 ^ width < 4294967296) :
      (value <<< width) % 4294967296 = value <<< width := by
    rw [Nat.shiftLeft_eq, Nat.mod_eq_of_lt fits]
  have word : (word32 byte0 byte1 byte2 byte3).toNat =
      byte0.toNat ||| (byte1.toNat <<< 8) ||| (byte2.toNat <<< 16) ||| (byte3.toNat <<< 24) := by
    simp only [word32, UInt32.toNat_or, UInt32.toNat_shiftLeft, UInt8.toNat_toUInt32]
    simp [shifted (show byte1.toNat * 2 ^ 8 < 4294967296 by omega),
      shifted (show byte2.toNat * 2 ^ 16 < 4294967296 by omega),
      shifted (show byte3.toNat * 2 ^ 24 < 4294967296 by omega)]
  have low : byte0.toNat + 2 ^ 8 * byte1.toNat < 2 ^ 16 := by omega
  have middle : byte0.toNat + 2 ^ 8 * byte1.toNat + 2 ^ 16 * byte2.toNat < 2 ^ 24 := by omega
  rw [word, or_shiftLeft small0, or_shiftLeft low, or_shiftLeft middle]
  omega

/-- The bytes of a 16-bit word give it back. -/
@[simp] theorem word16_split (value : UInt16) :
    word16 value.toUInt8 (value >>> 8).toUInt8 = value := by
  have bound := value.toNat_lt
  apply UInt16.toNat_inj.mp
  simp only [word16_toNat, UInt16.toNat_toUInt8, UInt16.toNat_shiftRight, Nat.shiftRight_eq_div_pow]
  simp
  omega

/-- The bytes of a 32-bit word give it back. -/
@[simp] theorem word32_split (value : UInt32) :
    word32 value.toUInt8 (value >>> 8).toUInt8 (value >>> 16).toUInt8 (value >>> 24).toUInt8 =
      value := by
  have bound := value.toNat_lt
  apply UInt32.toNat_inj.mp
  simp only [word32_toNat, UInt32.toNat_toUInt8, UInt32.toNat_shiftRight, Nat.shiftRight_eq_div_pow]
  simp
  omega

/-- Words are equal when their bytes are. -/
theorem word16_inj {low high low' high' : UInt8} :
    word16 low high = word16 low' high' ↔ low = low' ∧ high = high' := by
  refine ⟨fun same => ?_, fun same => same.1 ▸ same.2 ▸ rfl⟩
  have value := congrArg UInt16.toNat same
  rw [word16_toNat, word16_toNat] at value
  have small := low.toNat_lt
  have small' := low'.toNat_lt
  exact ⟨UInt8.toNat_inj.mp (by omega), UInt8.toNat_inj.mp (by omega)⟩

/-- The bits of a word are those of its bytes. -/
theorem word16_getLsbD (low high : UInt8) (i : Nat) :
    (word16 low high).toBitVec.getLsbD i =
      if i < 8 then low.toBitVec.getLsbD i else high.toBitVec.getLsbD (i - 8) := by
  by_cases inside : i < 8
  · simp [word16, inside]
    omega
  · have beyond : low.toBitVec.getLsbD i = false := BitVec.getLsbD_of_ge _ _ (by omega)
    by_cases last : i < 16
    · simp [word16, inside, beyond, last]
    · have nothing : high.toBitVec.getLsbD (i - 8) = false := BitVec.getLsbD_of_ge _ _ (by omega)
      simp [word16, inside, beyond, nothing]

/-- Setting bits of the high byte. -/
theorem word16_or_high (low high mask : UInt8) :
    word16 low high ||| word16 0 mask = word16 low (high ||| mask) := by
  apply UInt16.toBitVec_inj.mp
  refine BitVec.eq_of_getLsbD_eq fun i _ => ?_
  simp only [UInt16.toBitVec_or, UInt8.toBitVec_or, BitVec.getLsbD_or, word16_getLsbD]
  split <;> simp

/-- Keeping bits of the high byte. -/
theorem word16_and_high (low high mask : UInt8) :
    word16 low high &&& word16 0 mask = word16 0 (high &&& mask) := by
  apply UInt16.toBitVec_inj.mp
  refine BitVec.eq_of_getLsbD_eq fun i _ => ?_
  simp only [UInt16.toBitVec_and, UInt8.toBitVec_and, BitVec.getLsbD_and, word16_getLsbD]
  split <;> simp

/-- Clearing bits of the high byte. -/
theorem word16_and_not_high (low high mask : UInt8) :
    word16 low high &&& ~~~word16 0 mask = word16 low (high &&& ~~~mask) := by
  apply UInt16.toBitVec_inj.mp
  refine BitVec.eq_of_getLsbD_eq fun i inside => ?_
  simp only [UInt16.toBitVec_and, UInt16.toBitVec_not, UInt8.toBitVec_and, UInt8.toBitVec_not,
    BitVec.getLsbD_and, BitVec.getLsbD_not, word16_getLsbD, inside, decide_true, Bool.true_and]
  split
  · simp
  · have place : i - 8 < 8 := by omega
    simp [place]

/-- The byte at an offset, zero beyond the end. -/
def byteAt (bytes : List UInt8) (offset : Nat) : UInt8 := bytes.getD offset 0

/-- The 16-bit word at an offset. -/
def word16At (bytes : List UInt8) (offset : Nat) : UInt16 :=
  word16 (byteAt bytes offset) (byteAt bytes (offset + 1))

/-- The 32-bit word at an offset. -/
def word32At (bytes : List UInt8) (offset : Nat) : UInt32 :=
  word32 (byteAt bytes offset) (byteAt bytes (offset + 1)) (byteAt bytes (offset + 2))
    (byteAt bytes (offset + 3))

end LittleEndian
