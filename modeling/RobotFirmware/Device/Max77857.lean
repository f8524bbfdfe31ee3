import RobotFirmware.BitOps
import RobotFirmware.Platform

/-!
# The MAX77857 converter

`max77857_init` writes three fields of `CONT1` over its reset value. The field `FREQ` is one bit
wide and its value is too wide for it, so the second bit of the value is not written.
-/

namespace RobotFirmware.Max77857

open BitOps

/-- `MAX77857_ADDR`. -/
def addr : UInt8 := 0x66
/-- `MAX77857_REG_REG_CONT1_ADDR`. -/
def regCont1Addr : UInt8 := 0x12
/-- `MAX77857_REG_REG_CONT1_RESET`. -/
def regCont1Reset : UInt8 := 0x50

/-- The field `ILM` with `MAX77857_REG_REG_CONT1_ILM_DEFAULT`. -/
def ilm : Update where
  lsb := 0
  msb := 2
  newVal := 0x5
  ordered := by decide
  inside := by decide

/-- The field `COMP` with `MAX77857_REG_REG_CONT1_COMP_DEFAULT`. -/
def comp : Update where
  lsb := 5
  msb := 7
  newVal := 0x2
  ordered := by decide
  inside := by decide

/-- The field `FREQ` with `MAX77857_REG_REG_CONT1_FREQ_DEFAULT`. -/
def freq : Update where
  lsb := 3
  msb := 3
  newVal := 0x2
  ordered := by decide
  inside := by decide

/-- `max77857_init`. -/
def init : Firmware Unit := do
  let cont1 := bitSetRange regCont1Reset ilm.lsb ilm.msb ilm.newVal
  let cont1 := bitSetRange cont1 comp.lsb comp.msb comp.newVal
  let cont1 := bitSetRange cont1 freq.lsb freq.msb freq.newVal
  i2cWriteErrorHandling .i2c1 addr [regCont1Addr, cont1] false

end RobotFirmware.Max77857
