import RobotFirmware.Device.Drv8830
import Mathlib.Data.Rat.Floor
import Mathlib.Tactic.Linarith
import Mathlib.Tactic.NormNum

/-!
# The voltage of a motor

`set_voltage` in exact arithmetic. A voltage outside the dead band is clamped, its magnitude is
truncated to one of the levels of the driver, and the level is shifted over the two direction
bits.
-/

namespace RobotFirmware.Drv8830

/-- `DRV8830_IN1_BIT`. -/
def in1Bit : Int16 := 0
/-- `DRV8830_IN2_BIT`. -/
def in2Bit : Int16 := 1

/-- The conversion to `int16_t`, which drops the fraction. -/
def truncate (value : ℚ) : Int16 := Int16.ofInt (if value < 0 then ⌈value⌉ else ⌊value⌋)

/-- The conversion to `uint8_t`. -/
def narrow (value : Int16) : UInt8 := value.toUInt16.toUInt8

/-- The voltage without the dead band, within the valid range. -/
def clamp (voltage : ℚ) : ℚ :=
  let voltage := if -0.48 ≤ voltage ∧ voltage ≤ 0.48 then 0 else voltage
  if voltage < -5.06 then -5.06 else if 5.06 < voltage then 5.06 else voltage

/-- The level for the magnitude of a voltage. -/
def level (voltage : ℚ) : Int16 := truncate (64 * |voltage| / (4 * 1.285) - 1)

/-- The control value for a clamped voltage. -/
def controlValue (voltage : ℚ) : Int16 :=
  let shifted := level voltage <<< 2
  if voltage < 0 then (shifted ||| (1 <<< in1Bit)) &&& ~~~(1 <<< in2Bit)
  else if 0 < voltage then (shifted ||| (1 <<< in2Bit)) &&& ~~~(1 <<< in1Bit)
  else 0

/-- The byte that `set_voltage` writes. -/
def controlByte (voltage : ℚ) : UInt8 := narrow (controlValue (clamp voltage))

/-- `set_voltage`. -/
def setVoltage (motor : Motor) (voltage : ℚ) : Firmware Unit :=
  setMotorControl motor (controlByte voltage)

/-! ## The parts of the control byte -/

/-- The bit `IN1`, which drives a motor backwards. -/
def in1 (byte : UInt8) : Bool := byte.toNat.testBit 0

/-- The bit `IN2`, which drives a motor forwards. -/
def in2 (byte : UInt8) : Bool := byte.toNat.testBit 1

/-- The field `VSET` in bits 2–7. -/
def vset (byte : UInt8) : Nat := byte.toNat / 4

/-- The magnitude lies in the step of the given level. -/
structure InStep (magnitude : ℚ) (n : Nat) : Prop where
  lower : 4 * 1.285 * (n + 1) / 64 ≤ magnitude
  upper : magnitude < 4 * 1.285 * (n + 2) / 64

/-- Four times the reference voltage. -/
theorem fullScale_eq : (4 * 1.285 : ℚ) = 257 / 50 := by norm_num

/-- A larger magnitude has no smaller level. -/
theorem InStep.mono {small large : ℚ} {n m : Nat} (first : InStep small n) (second : InStep large m)
    (le : small ≤ large) : n ≤ m := by
  by_contra below
  have next : (m : ℚ) + 1 ≤ n := by exact_mod_cast Nat.lt_of_not_le below
  have lower := first.lower
  have upper := second.upper
  rw [fullScale_eq] at lower upper
  linarith only [lower, upper, le, next]

/-- A magnitude has one level. -/
theorem InStep.unique {magnitude : ℚ} {n m : Nat} (first : InStep magnitude n)
    (second : InStep magnitude m) : n = m :=
  Nat.le_antisymm (first.mono second le_rfl) (second.mono first le_rfl)

/-- Outside the dead band and within the range, the level is the step, which fits six bits. -/
theorem level_eq {voltage : ℚ} (above : 0.48 < |voltage|) (within : |voltage| ≤ 5.06) :
    ∃ n : Nat, n ≤ 62 ∧ level voltage = Int16.ofNat n ∧ InStep |voltage| n := by
  have nonneg : 0 ≤ 64 * |voltage| / (4 * 1.285) - 1 := by
    rw [fullScale_eq]
    norm_num at above
    linarith only [above]
  have floor := Int.floor_nonneg.mpr nonneg
  obtain ⟨n, same⟩ := Int.eq_ofNat_of_zero_le floor
  have lower := Int.floor_le (64 * |voltage| / (4 * 1.285) - 1)
  have upper := Int.lt_floor_add_one (64 * |voltage| / (4 * 1.285) - 1)
  rw [same, Int.cast_natCast] at lower upper
  rw [fullScale_eq] at lower upper
  have small : (n : ℚ) < 63 := by
    norm_num at within
    linarith only [lower, within]
  refine ⟨n, Nat.le_of_lt_succ (by exact_mod_cast small), ?_, ?_, ?_⟩
  · rw [level, truncate, if_neg (not_lt.mpr nonneg), same]
    rfl
  · rw [fullScale_eq]
    linarith only [lower]
  · rw [fullScale_eq]
    linarith only [upper]

/-- In the dead band the voltage is 0. -/
theorem clamp_rest {voltage : ℚ} (small : |voltage| ≤ 0.48) : clamp voltage = 0 := by
  have band : -0.48 ≤ voltage ∧ voltage ≤ 0.48 := by
    norm_num at small ⊢
    exact abs_le.mp small
  simp only [clamp, if_pos band]
  rw [if_neg (by norm_num), if_neg (by norm_num)]

/-- Outside the dead band the voltage keeps its sign, and its magnitude is limited. -/
theorem clamp_driven {voltage : ℚ} (above : 0.48 < |voltage|) :
    |clamp voltage| = min |voltage| 5.06 ∧ (clamp voltage < 0 ↔ voltage < 0) ∧
      (0 < clamp voltage ↔ 0 < voltage) := by
  have outside : ¬ (-0.48 ≤ voltage ∧ voltage ≤ 0.48) := by
    norm_num at above ⊢
    intro lower
    by_contra upper
    exact absurd (abs_le.mpr ⟨lower, not_lt.mp upper⟩) (not_le.mpr above)
  have positive : (0 : ℚ) < 5.06 := by norm_num
  simp only [clamp, if_neg outside]
  split_ifs with below beyond
  · have backwards : voltage < 0 := by linarith only [below, positive]
    have limited : 5.06 ≤ |voltage| := by rw [abs_of_neg backwards]; linarith only [below]
    refine ⟨?_, iff_of_true (neg_lt_zero.mpr positive) backwards,
      iff_of_false (by linarith only [positive]) (not_lt.mpr backwards.le)⟩
    rw [abs_neg, abs_of_pos positive, min_eq_right limited]
  · have forwards : 0 < voltage := positive.trans beyond
    have limited : 5.06 ≤ |voltage| := by rw [abs_of_pos forwards]; exact beyond.le
    refine ⟨?_, iff_of_false (not_lt.mpr positive.le) (not_lt.mpr forwards.le),
      iff_of_true positive forwards⟩
    rw [abs_of_pos positive, min_eq_right limited]
  · have inside : |voltage| ≤ 5.06 := abs_le.mpr ⟨not_lt.mp below, not_lt.mp beyond⟩
    exact ⟨(min_eq_left inside).symm, Iff.rfl, Iff.rfl⟩

/-- A control value with a level and the given direction bits. -/
def Carries (value : Int16) (n : Nat) (backwards forwards : Bool) : Prop :=
  value.toInt = (narrow value).toNat ∧ vset (narrow value) = n ∧
    in1 (narrow value) = backwards ∧ in2 (narrow value) = forwards ∧ narrow value ≠ 0

instance (value : Int16) (n : Nat) (backwards forwards : Bool) :
    Decidable (Carries value n backwards forwards) :=
  inferInstanceAs (Decidable (_ ∧ _ ∧ _ ∧ _ ∧ _))

/-- A level with the bit for backwards keeps its bits. -/
theorem carries_backwards : ∀ n : Fin 63,
    Carries ((Int16.ofNat n <<< 2 ||| (1 <<< in1Bit)) &&& ~~~(1 <<< in2Bit)) n true false := by
  decide +kernel

/-- A level with the bit for forwards keeps its bits. -/
theorem carries_forwards : ∀ n : Fin 63,
    Carries ((Int16.ofNat n <<< 2 ||| (1 <<< in2Bit)) &&& ~~~(1 <<< in1Bit)) n false true := by
  decide +kernel

/-- The shift of a level is exact. -/
theorem shift_level : ∀ n : Fin 63,
    (Int16.ofNat n <<< 2).toInt = 4 * (Int16.ofNat n).toInt := by
  decide +kernel

/-! ## The control byte -/

/-- A request is encoded with the given level. -/
structure Encoded (voltage : ℚ) (n : Nat) : Prop where
  /-- The shift loses no bit. -/
  shifted : (level (clamp voltage) <<< 2).toInt = 4 * (level (clamp voltage)).toInt
  /-- Nor does the narrowing. -/
  narrowed : (controlValue (clamp voltage)).toInt = (controlByte voltage).toNat
  /-- The level is in its field. -/
  field : vset (controlByte voltage) = n
  /-- The byte is 0 in the dead band only. -/
  rest : controlByte voltage = 0 ↔ |voltage| ≤ 0.48
  /-- Outside, the level is the step of the limited magnitude. -/
  step : 0.48 < |voltage| → InStep (min |voltage| 5.06) n
  /-- `IN1` is set for negative voltages. -/
  backwards : in1 (controlByte voltage) = true ↔ 0.48 < |voltage| ∧ voltage < 0
  /-- `IN2` is set for positive voltages. -/
  forwards : in2 (controlByte voltage) = true ↔ 0.48 < |voltage| ∧ 0 < voltage

/-- In the dead band the byte is 0. -/
theorem encoded_rest {voltage : ℚ} (small : |voltage| ≤ 0.48) : Encoded voltage 0 := by
  have value : controlValue 0 = 0 := by
    simp only [controlValue, lt_irrefl, if_false]
  have byte : controlByte voltage = 0 := by
    rw [controlByte, clamp_rest small, value]
    decide
  have unlevelled : level 0 = -1 := by
    rw [level, truncate, abs_zero, if_pos (by norm_num)]
    norm_num
    decide
  have never {other : Prop} : ¬ (0.48 < |voltage| ∧ other) := fun both =>
    absurd both.1 (not_lt.mpr small)
  refine ⟨?_, ?_, ?_, iff_of_true byte small, fun above => absurd above (not_lt.mpr small), ?_, ?_⟩
  · rw [clamp_rest small, unlevelled]
    decide
  · rw [byte, clamp_rest small, value]
    decide
  · rw [byte]
    decide
  · rw [byte]
    exact iff_of_false (by decide) never
  · rw [byte]
    exact iff_of_false (by decide) never

/-- Outside the dead band the byte carries the level and the direction. -/
theorem encoded_driven {voltage : ℚ} (above : 0.48 < |voltage|) : ∃ n, Encoded voltage n := by
  obtain ⟨magnitude, negative, positive⟩ := clamp_driven above
  have limited : |clamp voltage| ≤ 5.06 := magnitude ▸ min_le_right _ _
  have driven : 0.48 < |clamp voltage| := by
    rw [magnitude]
    exact lt_min above (by norm_num)
  obtain ⟨n, small, same, step⟩ := level_eq driven limited
  have fits : n < 63 := Nat.lt_succ_of_le small
  rw [magnitude] at step
  have shifted : (level (clamp voltage) <<< 2).toInt = 4 * (level (clamp voltage)).toInt :=
    same ▸ shift_level ⟨n, fits⟩
  refine ⟨n, ?_⟩
  obtain backwards | rfl | forwards := lt_trichotomy voltage 0
  · obtain ⟨narrowed, field, first, second, nonzero⟩ := carries_backwards ⟨n, fits⟩
    have value : controlValue (clamp voltage) =
        (Int16.ofNat n <<< 2 ||| (1 <<< in1Bit)) &&& ~~~(1 <<< in2Bit) := by
      rw [controlValue, if_pos (negative.mpr backwards), same]
    rw [← value] at narrowed field first second nonzero
    refine ⟨shifted, narrowed, field, iff_of_false nonzero (not_le.mpr above), fun _ => step,
      iff_of_true first ⟨above, backwards⟩, iff_of_false ?_ fun both => ?_⟩
    · rw [controlByte, second]
      exact Bool.false_ne_true
    · exact absurd both.2 (not_lt.mpr backwards.le)
  · exact absurd above (by norm_num)
  · obtain ⟨narrowed, field, first, second, nonzero⟩ := carries_forwards ⟨n, fits⟩
    have value : controlValue (clamp voltage) =
        (Int16.ofNat n <<< 2 ||| (1 <<< in2Bit)) &&& ~~~(1 <<< in1Bit) := by
      rw [controlValue, if_neg (fun below => absurd (negative.mp below) (not_lt.mpr forwards.le)),
        if_pos (positive.mpr forwards), same]
    rw [← value] at narrowed field first second nonzero
    refine ⟨shifted, narrowed, field, iff_of_false nonzero (not_le.mpr above), fun _ => step,
      iff_of_false ?_ fun both => ?_, iff_of_true second ⟨above, forwards⟩⟩
    · rw [controlByte, first]
      exact Bool.false_ne_true
    · exact absurd both.2 (not_lt.mpr forwards.le)

/-- Every request is encoded, with the level in the byte. -/
theorem encoded (voltage : ℚ) : Encoded voltage (vset (controlByte voltage)) := by
  obtain small | above := le_or_gt |voltage| 0.48
  · have whole := encoded_rest small
    exact whole.field.symm ▸ whole
  · obtain ⟨n, whole⟩ := encoded_driven above
    exact whole.field.symm ▸ whole

/-- A larger magnitude is not written with a smaller level. -/
theorem vset_mono {voltage other : ℚ} (le : |voltage| ≤ |other|) :
    vset (controlByte voltage) ≤ vset (controlByte other) := by
  obtain small | above := le_or_gt |voltage| 0.48
  · rw [(encoded_rest small).field]
    exact Nat.zero_le _
  · exact ((encoded voltage).step above).mono ((encoded other).step (above.trans_le le))
      (min_le_min_right _ le)

/-- The opposite voltage is written with the same level and the opposite direction. -/
theorem opposite (voltage : ℚ) :
    vset (controlByte (-voltage)) = vset (controlByte voltage) ∧
      in1 (controlByte (-voltage)) = in2 (controlByte voltage) ∧
        in2 (controlByte (-voltage)) = in1 (controlByte voltage) := by
  have magnitude := abs_neg voltage
  refine ⟨Nat.le_antisymm (vset_mono magnitude.le) (vset_mono magnitude.ge), ?_, ?_⟩
  · rw [Bool.eq_iff_iff, (encoded _).backwards, (encoded _).forwards, magnitude, neg_lt_zero]
  · rw [Bool.eq_iff_iff, (encoded _).backwards, (encoded _).forwards, magnitude, neg_pos]

/-- `set_voltage` writes one byte to the motor, in which the request is encoded; the level does not
decrease with the magnitude, and opposite voltages differ in the direction only. -/
theorem setVoltage_faithful (motor : Motor) (voltage other : ℚ) :
    (∀ trace value, (setVoltage motor voltage).Runs trace (.done value) → ∃ result : Int,
      trace = [⟨.i2cWriteBlocking .i2c0 motor.address [regControl, controlByte voltage] false,
        result⟩]) ∧
    Encoded voltage (vset (controlByte voltage)) ∧
    (|voltage| ≤ |other| → vset (controlByte voltage) ≤ vset (controlByte other)) ∧
    vset (controlByte (-voltage)) = vset (controlByte voltage) ∧
      in1 (controlByte (-voltage)) = in2 (controlByte voltage) ∧
        in2 (controlByte (-voltage)) = in1 (controlByte voltage) := by
  refine ⟨fun trace value run => ?_, encoded voltage, vset_mono, opposite voltage⟩
  change Interaction.Program.Runs (.perform _ fun _ => .done ()) trace _ at run
  cases run with
  | step result later =>
    obtain ⟨rfl, -⟩ := later.of_done
    exact ⟨result, rfl⟩

end RobotFirmware.Drv8830
