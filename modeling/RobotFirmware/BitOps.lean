import Mathlib.Data.Nat.Bitwise
import RobotFirmware.Structure.Overlay

/-!
# Register fields

`bit_set_range` writes a value into a field of a register: it makes the mask of the field, clears
the field and sets it. The C code does so with `int`s and converts what it returns to `uint8_t`.
Written one after the other, fields show in each bit the last value written over it, and the other
bits are never touched.
-/

namespace RobotFirmware

namespace BitOps

/-! ## Operations -/

/-- A `uint8_t` as an `int`. -/
def promote (byte : UInt8) : BitVec 32 := byte.toBitVec.setWidth 32

/-- An `int` as a `uint8_t`. -/
def convert (value : BitVec 32) : UInt8 := .ofBitVec (value.setWidth 8)

/-- `bitmask_from_x_2_y`. For the fields of a byte no shift leaves the range of an `int`. -/
def bitmaskFromX2Y (lsb msb : UInt8) : UInt8 :=
  convert (((promote 1 <<< (promote msb - promote lsb + promote 1)) - promote 1) <<< promote lsb)

/-- `bitmask_clear`. -/
def bitmaskClear (bitvector mask : UInt8) : UInt8 := convert (promote bitvector &&& ~~~promote mask)

/-- `bit_set_range`. -/
def bitSetRange (bitvector lsb msb newVal : UInt8) : UInt8 :=
  let mask := bitmaskFromX2Y lsb msb
  let bitvector := bitmaskClear bitvector mask
  convert (promote bitvector ||| ((promote newVal <<< promote lsb) &&& promote mask))

/-! ## Bits -/

/-- A bit of a byte. -/
def bits (byte : UInt8) (bit : Nat) : Bool := byte.toBitVec.getLsbD bit

/-- The bits are the byte. -/
theorem bits_inj {first second : UInt8} (same : bits first = bits second) : first = second := by
  apply UInt8.toBitVec_inj.mp
  exact BitVec.eq_of_getLsbD_eq fun bit _ => congrFun same bit

/-- A byte has eight bits. -/
theorem bits_of_le {bit : Nat} (outside : 8 ≤ bit) (byte : UInt8) : bits byte bit = false :=
  BitVec.getLsbD_of_ge _ _ outside

/-- Conversion keeps the low bits. -/
theorem bits_convert {bit : Nat} (inside : bit < 8) (value : BitVec 32) :
    bits (convert value) bit = value.getLsbD bit := by
  simp [bits, convert, inside]

/-- Promotion keeps the bits. -/
theorem getLsbD_promote (byte : UInt8) (bit : Nat) :
    (promote byte).getLsbD bit = bits byte bit := by
  rw [promote, BitVec.getLsbD_setWidth, bits]
  by_cases inside : bit < 32
  · simp [inside]
  · rw [BitVec.getLsbD_of_ge _ _ (by omega), Bool.and_false]

/-- Promotion keeps the value. -/
theorem toNat_promote (byte : UInt8) : (promote byte).toNat = byte.toNat := by
  have bound := byte.toNat_lt
  rw [promote, BitVec.toNat_setWidth, UInt8.toNat_toBitVec, Nat.mod_eq_of_lt (by omega)]

/-- Clearing takes the bits of the mask away. -/
theorem bits_bitmaskClear (bitvector mask : UInt8) {bit : Nat} (low : bit < 8) :
    bits (bitmaskClear bitvector mask) bit = (bits bitvector bit && !bits mask bit) := by
  have wide : decide (bit < 32) = true := decide_eq_true (by omega)
  rw [bitmaskClear, bits_convert low, BitVec.getLsbD_and, BitVec.getLsbD_not, getLsbD_promote,
    getLsbD_promote, wide, Bool.true_and]

/-- The value shows in the bits of the mask, and the register in the others. -/
theorem bits_bitSetRange (bitvector lsb msb newVal : UInt8) {bit : Nat} (low : bit < 8) :
    bits (bitSetRange bitvector lsb msb newVal) bit =
      if bits (bitmaskFromX2Y lsb msb) bit then
        !decide (bit < lsb.toNat) && bits newVal (bit - lsb.toNat)
      else bits bitvector bit := by
  have wide : decide (bit < 32) = true := decide_eq_true (by omega)
  rw [bitSetRange, bits_convert low, BitVec.getLsbD_or, BitVec.getLsbD_and, getLsbD_promote,
    getLsbD_promote, bits_bitmaskClear _ _ low, BitVec.shiftLeft_eq', toNat_promote,
    BitVec.getLsbD_shiftLeft, getLsbD_promote, wide, Bool.true_and]
  cases bits (bitmaskFromX2Y lsb msb) bit <;> simp

/-! ## Fields -/

/-- A call of `bit_set_range` on some field of a register. -/
structure Update where
  /-- The lowest bit of the field. -/
  lsb : UInt8
  /-- Its highest bit. -/
  msb : UInt8
  /-- The value, of any size. -/
  newVal : UInt8
  /-- The field has a bit. -/
  ordered : lsb ≤ msb
  /-- The field is part of the register. -/
  inside : msb ≤ 7

namespace Update

/-- The register after an update. -/
def apply (bitvector : UInt8) (update : Update) : UInt8 :=
  bitSetRange bitvector update.lsb update.msb update.newVal

/-- Whether a bit of the register is in the field. -/
def covers (update : Update) (bit : Nat) : Bool :=
  update.lsb.toNat ≤ bit && bit ≤ update.msb.toNat

/-- What the update says about a bit of the register. -/
def bit? (update : Update) (bit : Nat) : Option Bool :=
  if update.covers bit then some (bits update.newVal (bit - update.lsb.toNat)) else none

/-- The fields have no bit in common. -/
def Disjoint (first second : Update) : Prop :=
  ∀ bit, first.covers bit = false ∨ second.covers bit = false

variable (update : Update)

/-- The bounds as numbers. -/
theorem bounds : update.lsb.toNat ≤ update.msb.toNat ∧ update.msb.toNat ≤ 7 :=
  ⟨UInt8.le_iff_toNat_le.mp update.ordered, UInt8.le_iff_toNat_le.mp update.inside⟩

/-- The number of bits of the field. -/
theorem toNat_count :
    (promote update.msb - promote update.lsb + promote 1).toNat =
      update.msb.toNat - update.lsb.toNat + 1 := by
  have bounds := update.bounds
  have one : (promote 1).toNat = 1 := rfl
  rw [BitVec.toNat_add, BitVec.toNat_sub, toNat_promote, toNat_promote, one]
  omega

/-- The mask before it is shifted. -/
theorem toNat_ones :
    ((promote 1 <<< (promote update.msb - promote update.lsb + promote 1)) - promote 1).toNat =
      2 ^ (update.msb.toNat - update.lsb.toNat + 1) - 1 := by
  have bounds := update.bounds
  have one : (promote 1).toNat = 1 := rfl
  have positive := Nat.two_pow_pos (update.msb.toNat - update.lsb.toNat + 1)
  have size : 2 ^ (update.msb.toNat - update.lsb.toNat + 1) ≤ 2 ^ 8 :=
    Nat.pow_le_pow_right (by decide) (by omega)
  rw [BitVec.toNat_sub, BitVec.shiftLeft_eq', toNat_count, BitVec.toNat_shiftLeft, one,
    Nat.one_shiftLeft]
  generalize 2 ^ (update.msb.toNat - update.lsb.toNat + 1) = power at positive size ⊢
  omega

/-- The mask has the bits of the field. -/
theorem bits_mask {bit : Nat} (low : bit < 8) :
    bits (bitmaskFromX2Y update.lsb update.msb) bit = update.covers bit := by
  have bounds := update.bounds
  rw [bitmaskFromX2Y, bits_convert low, BitVec.shiftLeft_eq', toNat_promote,
    BitVec.getLsbD_shiftLeft, BitVec.getLsbD, toNat_ones, Nat.testBit_two_pow_sub_one, covers,
    Bool.eq_iff_iff]
  simp only [Bool.and_eq_true, Bool.not_eq_true', decide_eq_true_eq, decide_eq_false_iff_not]
  omega

/-- Nothing is said about bits outside the register. -/
theorem bit?_of_le {bit : Nat} (outside : 8 ≤ bit) : update.bit? bit = none := by
  have bounds := update.bounds
  have uncovered : update.covers bit = false := by
    rw [covers, Bool.and_eq_false_imp]
    intro _
    exact decide_eq_false (by omega)
  rw [bit?, uncovered]
  rfl

/-- An update is laid over the bits of the register. -/
theorem bits_apply (bitvector : UInt8) :
    bits (update.apply bitvector) = Overlay.lay (bits bitvector) update.bit? := by
  funext bit
  by_cases low : bit < 8
  · rw [apply, bits_bitSetRange _ _ _ _ low, update.bits_mask low, Overlay.lay, bit?]
    cases covered : update.covers bit with
    | true =>
      have above : ¬ bit < update.lsb.toNat := by
        rw [covers, Bool.and_eq_true, decide_eq_true_eq] at covered
        omega
      rw [if_pos rfl, if_pos rfl, decide_eq_false above]
      rfl
    | false => rfl
  · have outside : 8 ≤ bit := Nat.le_of_not_lt low
    rw [Overlay.lay_none (update.bit?_of_le outside), bits_of_le outside, bits_of_le outside]

/-- A field below another one is disjoint from it. -/
theorem disjoint_of_lt {lower upper : Update} (below : lower.msb < upper.lsb) :
    lower.Disjoint upper := by
  have apart : lower.msb.toNat < upper.lsb.toNat := UInt8.lt_iff_toNat_lt.mp below
  intro bit
  obtain low | high := Nat.lt_or_ge bit upper.lsb.toNat
  · exact .inr (by rw [covers, decide_eq_false (by omega), Bool.false_and])
  · exact .inl (by rw [covers, Bool.and_comm, decide_eq_false (by omega), Bool.false_and])

/-- Disjoint fields are overlays that share no place. -/
theorem apart_of_disjoint {first second : Update} (disjoint : first.Disjoint second) :
    Overlay.Apart first.bit? second.bit? := by
  intro bit
  refine (disjoint bit).imp (fun uncovered => ?_) fun uncovered => ?_
  · rw [bit?, uncovered]
    rfl
  · rw [bit?, uncovered]
    rfl

end Update

/-! ## Sequences of updates -/

/-- The register after updates, one after the other. -/
def applyAll (bitvector : UInt8) (updates : List Update) : UInt8 :=
  updates.foldl Update.apply bitvector

/-- The last update whose field has a bit. -/
def lastOn (bit : Nat) (updates : List Update) : Option Update :=
  updates.reverse.find? fun update => update.covers bit

/-- Updates are laid one over the other. -/
theorem bits_applyAll (bitvector : UInt8) (updates : List Update) :
    bits (applyAll bitvector updates) = (updates.map Update.bit?).foldl Overlay.lay
      (bits bitvector) := by
  induction updates generalizing bitvector with
  | nil => rfl
  | cons update updates ih =>
    rw [List.map_cons, List.foldl_cons, ← update.bits_apply]
    exact ih (update.apply bitvector)

/-- What the first of some updates says about a bit whose field has it. -/
theorem findSome?_bit? (updates : List Update) (bit : Nat) :
    (updates.findSome? fun update => update.bit? bit) =
      (updates.find? fun update => update.covers bit).map fun update =>
        bits update.newVal (bit - update.lsb.toNat) := by
  induction updates with
  | nil => rfl
  | cons update updates ih =>
    rw [List.findSome?_cons, List.find?_cons, Update.bit?]
    cases update.covers bit with
    | true => rfl
    | false => exact ih

/-- The last update whose field has a bit determines it. -/
theorem bits_applyAll_last (bitvector : UInt8) (updates : List Update) (bit : Nat) :
    bits (applyAll bitvector updates) bit =
      match lastOn bit updates with
      | some update => bits update.newVal (bit - update.lsb.toNat)
      | none => bits bitvector bit := by
  rw [bits_applyAll, Overlay.foldl_lay, ← List.map_reverse, List.findSome?_map, lastOn]
  have found := findSome?_bit? updates.reverse bit
  rw [Function.comp_def, found]
  cases updates.reverse.find? fun update => update.covers bit <;> rfl

/-- Updates of fields of which no two have a bit in common may be made in any order. -/
theorem applyAll_perm {updates order : List Update} (disjoint : updates.Pairwise Update.Disjoint)
    (same : updates.Perm order) (bitvector : UInt8) :
    applyAll bitvector updates = applyAll bitvector order := by
  have apart : (updates.map Update.bit?).Pairwise Overlay.Apart :=
    List.pairwise_map.mpr (disjoint.imp Update.apart_of_disjoint)
  apply bits_inj
  rw [bits_applyAll, bits_applyAll]
  exact Overlay.foldl_lay_perm apart (same.map Update.bit?) _

/-- Each bit of a register is that of the last value written over it, or the initial one. Updates of
disjoint fields commute, an update may be repeated, and no value touches a bit outside its field. -/
theorem bitSetRange_composition (initial : UInt8) (updates : List Update) :
    (∀ bit, bits (applyAll initial updates) bit =
        match lastOn bit updates with
        | some update => bits update.newVal (bit - update.lsb.toNat)
        | none => bits initial bit) ∧
      (∀ first second : Update, first.Disjoint second →
        applyAll initial [first, second] = applyAll initial [second, first]) ∧
      (∀ update, applyAll initial [update, update] = applyAll initial [update]) ∧
      ∀ (update : Update) (bit : Nat), update.covers bit = false →
        bits (update.apply initial) bit = bits initial bit := by
  refine ⟨bits_applyAll_last initial updates, fun first second disjoint => ?_, fun update => ?_,
    fun update bit uncovered => ?_⟩
  · have pair : [first, second].Pairwise Update.Disjoint := by simpa using disjoint
    exact applyAll_perm pair (List.Perm.swap second first []) initial
  · apply bits_inj
    rw [bits_applyAll, bits_applyAll]
    exact Overlay.lay_lay (bits initial) update.bit?
  · have silent : update.bit? bit = none := by
      rw [Update.bit?, uncovered]
      rfl
    rw [update.bits_apply, Overlay.lay_none silent]

/-- The low bits of a register. -/
def lowBits : Update := ⟨0, 4, 0x15, by decide, by decide⟩

/-- Two bits above them, with a value too wide for them. -/
def highBits : Update := ⟨5, 6, 0xAB, by decide, by decide⟩

/-- These two fields may be written in either order. -/
theorem bitSetRange_composition_fields :
    lowBits.Disjoint highBits ∧ applyAll 0xFF [lowBits, highBits] = 0xF5 ∧
      applyAll 0xFF [lowBits, highBits] = applyAll 0xFF [highBits, lowBits] := by
  have disjoint : lowBits.Disjoint highBits := Update.disjoint_of_lt (by decide)
  exact ⟨disjoint, rfl, (bitSetRange_composition 0xFF []).2.1 lowBits highBits disjoint⟩

end BitOps

end RobotFirmware
