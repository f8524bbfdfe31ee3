import RobotFirmware.BitOps
import RobotFirmware.Device.MotorVoltage
import RobotFirmware.Robot
import RobotFirmware.StartUp.Platform

/-!
# The initialisation of the devices

What `on_start` calls for each device before the self tests. The pins are the constants that it
passes, as in the rest of the model.
-/

namespace RobotFirmware

/-! ## The charger -/

/-- `bit_assign`. -/
def BitOps.bitAssign (bitvector newValue idx : UInt8) : UInt8 :=
  let bit : BitVec 32 := if newValue ≠ 0 then 1 else 0
  convert ((promote bitvector &&& ~~~(promote 1 <<< promote idx)) ||| (bit <<< promote idx))

namespace Max77976

open BitOps

/-- `MAX77976_REG_CHG_CNFG_00_ADDR`. -/
def regChgCnfg00 : UInt8 := 0x16
/-- `MAX77976_REG_CHG_CNFG_02_ADDR`. -/
def regChgCnfg02 : UInt8 := 0x18
/-- `MAX77976_REG_CHG_CNFG_06_ADDR`, which holds `CHGPROT`. -/
def regChgCnfg06 : UInt8 := 0x1C
/-- `MAX77976_REG_CHG_CNFG_08_ADDR`. -/
def regChgCnfg08 : UInt8 := 0x1E
/-- `MAX77976_REG_CHG_CNFG_09_ADDR`. -/
def regChgCnfg09 : UInt8 := 0x1F
/-- `MAX77976_REG_CHG_CNFG_00_MODE_CHARGE_BUCK`. -/
def modeChargeBuck : UInt8 := 0x5
/-- `MAX77976_REG_CHG_CNFG_02_CHG_CC_1250`. -/
def chgCc1250 : UInt8 := 0x19
/-- `MAX77976_REG_CHG_CNFG_08_RESET`. -/
def chgCnfg08Reset : UInt8 := 0x2
/-- `MAX77976_REG_CHG_CNFG_08_FSW_2P6`. -/
def fsw2P6 : UInt8 := 0
/-- `MAX77976_REG_CHG_CNFG_08_FSW_LSB`. -/
def fswLsb : UInt8 := 1
/-- `MAX77976_REG_CHG_CNFG_09_RESET`. -/
def chgCnfg09Reset : UInt8 := 0x89
/-- `MAX77976_REG_CHG_CNFG_09_CHGIN_ILIM_LSB`. -/
def chginIlimLsb : UInt8 := 0
/-- `MAX77976_REG_CHG_CNFG_09_CHGIN_ILIM_MSB`. -/
def chginIlimMsb : UInt8 := 5
/-- `MAX77976_REG_CHG_CNFG_09_CHGIN_ILIM_3000`. -/
def chginIlim3000 : UInt8 := 0x3B
/-- The value of `CHG_CNFG_06` that makes the other registers writable. -/
def chgprotUnlock : UInt8 := 0x0C
/-- The value of `CHG_CNFG_06` that protects them. -/
def chgprotLock : UInt8 := 0x00

/-- The registers that `max77976_init` configures while they are unlocked, with their values. -/
def configuration : List (UInt8 × UInt8) :=
  [(regChgCnfg00, modeChargeBuck),
    (regChgCnfg02, chgCc1250),
    (regChgCnfg08, bitAssign chgCnfg08Reset fsw2P6 fswLsb),
    (regChgCnfg09, bitSetRange chgCnfg09Reset chginIlimLsb chginIlimMsb chginIlim3000)]

/-- A write of two bytes of `buf`. -/
def writeReg (reg value : UInt8) : Firmware Unit :=
  i2cWriteErrorHandling .i2c1 addr [reg, value] false

/-- `max77976_init`. -/
def init : Firmware Int32 := do
  rp2040Log "max77976 init started\n" []
  perform (.gpioInit gpioInterrupt)
  perform (.gpioPut gpioInterrupt false)
  perform (.gpioSetDir gpioInterrupt false)
  perform (.gpioPullUp gpioInterrupt)
  gpioSetIrqEnabled gpioInterrupt gpioIrqEdgeFall true
  setInterruptMasks
  let _ ← getInterruptVals
  writeReg regChgCnfg06 chgprotUnlock
  configuration.forM fun (reg, value) => writeReg reg value
  writeReg regChgCnfg06 chgprotLock
  return 0

end Max77976

/-! ## The motor drivers -/

/-- `drv8830_init`. -/
def Drv8830.init : Firmware Unit := do
  rp2040Log "DRV8830 init\n" []
  perform (.gpioInit gpioFault1)
  perform (.gpioInit gpioFault2)
  perform (.gpioPut gpioFault1 false)
  perform (.gpioPut gpioFault2 false)
  perform (.gpioSetDir gpioFault1 false)
  perform (.gpioSetDir gpioFault2 false)
  perform (.gpioPullUp gpioFault1)
  perform (.gpioPullUp gpioFault2)
  gpioSetIrqEnabled gpioFault1 irqMask true
  gpioSetIrqEnabled gpioFault2 irqMask true
  setVoltage .left 0
  setVoltage .right 0
  rp2040Log "DRV8830 init complete\n" []

/-! ## The level shifters -/

/-- `SN74AHC125RGYR_GPIO1`. -/
def Sn74ahc125rgyr.gpio1 : Nat := 8
/-- `SN74AHC125RGYR_GPIO2`. -/
def Sn74ahc125rgyr.gpio2 : Nat := 22

/-- `sn74ahc125rgyr_init`. -/
def Sn74ahc125rgyr.init (gpio : Nat) : Firmware Unit := do
  perform (.gpioInit gpio)
  perform (.gpioSetDir gpio true)
  perform (.gpioPut gpio true)

/-- `sn74ahc125rgyr_on_end_of_start`. -/
def Sn74ahc125rgyr.onEndOfStart (gpio : Nat) : Firmware Unit := perform (.gpioPut gpio false)

/-! ## The fuel gauge -/

/-- `bq27742_g1_clear_shutdown`. -/
def Bq27742G1.clearShutdown : Firmware Unit := do
  let _ ← control 0x0014
  rp2040Log "Clearing Shutdown on bq27742_g1\n" []

/-- `bq27742_g1_fw_version_check`. -/
def Bq27742G1.fwVersionCheck : Firmware Unit := do
  let returnBuf ← control 0x0002
  rp2040Log "FW Version: 0x%02x%02x\n"
    [.byte (returnBuf.get ⟨1, Nat.one_lt_two⟩), .byte (returnBuf.get ⟨0, Nat.zero_lt_two⟩)]

namespace StartUp

/-- `bq27742_g1_init`. -/
def bq27742G1Init : Starting Unit := do
  platform (rp2040Log "bq27742_g1 init started\n" [])
  platform Bq27742G1.clearShutdown
  platform Bq27742G1.configureHostInterrupts
  platform (perform (.gpioInit Bq27742G1.gpioInterrupt))
  platform (perform (.gpioPut Bq27742G1.gpioInterrupt false))
  platform (perform (.gpioSetDir Bq27742G1.gpioInterrupt false))
  start (.gpioDisablePulls Bq27742G1.gpioInterrupt)
  platform Bq27742G1.initEnd

/-! ## Wireless power -/

/-- `WIRELESS_CHG_EN`. -/
def wirelessChgEn : Nat := 9
/-- `WIRELESS_CHG_VRECT`. -/
def wirelessChgVrect : Nat := 27
/-- `GPIO_OTG`. -/
def gpioOtg : Nat := 5
/-- `ADC0`, which `ncp3901_init` passes as a literal. -/
def adc0Pin : Nat := 26

/-- `STWLC38JRM_init`. -/
def stwlc38jrmInit (enablePin vrectPin : Nat) : Starting Unit := do
  platform (perform (.gpioInit enablePin))
  platform (perform (.gpioSetDir enablePin true))
  platform (perform (.gpioPut enablePin true))
  platform (perform (.sleepMs 100))
  platform (perform (.gpioPut enablePin false))
  start (.adcGpioInit vrectPin)

/-- `ncp3901_init`. -/
def ncp3901Init : Starting Unit := do
  platform (perform (.gpioInit Ncp3901.gpioWirelessCharger))
  platform (perform (.gpioPut Ncp3901.gpioWirelessCharger false))
  platform (perform (.gpioSetDir Ncp3901.gpioWirelessCharger false))
  platform (perform (.gpioPullUp Ncp3901.gpioWirelessCharger))
  platform (gpioSetIrqEnabled Ncp3901.gpioWirelessCharger (gpioIrqEdgeRise ||| gpioIrqEdgeFall)
    true)
  platform (perform (.gpioInit gpioOtg))
  platform (perform (.gpioPut gpioOtg false))
  platform (perform (.gpioSetDir gpioOtg true))
  start (.adcGpioInit adc0Pin)

/-! ## Buses, lights and encoders -/

/-- `I2C_SDA0`. -/
def i2cSda0 : Nat := 0
/-- `I2C_SCL0`. -/
def i2cScl0 : Nat := 1
/-- `I2C_SDA1`. -/
def i2cSda1 : Nat := 2
/-- `I2C_SCL1`. -/
def i2cScl1 : Nat := 3

/-- One of the two halves of `i2c_start`. -/
def i2cStartOne (i2c : I2c) (sda scl : Nat) : Starting Unit := do
  start (.i2cInit i2c (400 * 1000))
  start (.gpioSetFunction sda .i2c)
  start (.gpioSetFunction scl .i2c)
  platform (perform (.gpioPullUp sda))
  platform (perform (.gpioPullUp scl))

/-- `i2c_start`. -/
def i2cStart : Starting Unit := do
  i2cStartOne .i2c0 i2cSda0 i2cScl0
  i2cStartOne .i2c1 i2cSda1 i2cScl1

/-- `LED_EN_PIN`. -/
def ledEnPin : Nat := 21

/-- `turn_on_leds`. -/
def turnOnLeds : Starting Unit := do
  start (.gpioSetFunction ledEnPin .pwm)
  let slice : Nat ← start (.pwmGpioToSliceNum ledEnPin)
  start (.pwmSetWrap slice 255)
  start (.pwmSetGpioLevel ledEnPin 128)
  start (.pwmSetEnabled slice true)

/-- `ENCODER_1_CHANNEL_A`. -/
def encoder1ChannelA : Nat := 12
/-- `ENCODER_2_CHANNEL_A`. -/
def encoder2ChannelA : Nat := 14

/-- `encoder_init`. -/
def encoderInit : Starting Unit := do
  let offset : Nat ← start .pioAddProgram
  start (.quadratureEncoderProgramInit 0 offset encoder1ChannelA 0)
  start (.quadratureEncoderProgramInit 1 offset encoder2ChannelA 0)

end StartUp

end RobotFirmware
