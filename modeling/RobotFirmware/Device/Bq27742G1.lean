import RobotFirmware.Platform

/-!
# The BQ27742-G1 fuel gauge

The getters that telemetry calls, the interrupt path (an edge queues one parse call and swaps
the enabled edge until the line is released), and the update of the data flash at start-up.
Every function clears the static buffers before it uses them, so on one core they are as good as
local values, as which they appear here. The parse call on core 1 reads the flags into locals and
shares the buffers with the getters on core 0 only in `bq27742_g1_control`. The values of the
getters are therefore meant for calls that no `bq27742_g1_control` overlaps; the registers that are
selected do not depend on an overlap, since the first byte that `bq27742_g1_control` sends is 0x00
at every time.
-/

namespace RobotFirmware.Bq27742G1

/-- `BQ27742_G1_ADDR`. -/
def addr : UInt8 := 0x55
/-- `BQ27742_G1_INTERRUPT_PIN`, the pin stored in `_gpio_interrupt`. -/
def gpioInterrupt : Nat := 20
/-- `BQ27742_G1_REG_FLAGS`. -/
def regFlags : UInt8 := 0x0A
/-- `BQ27742_G1_REG_SAFETY_STATUS`. -/
def regSafetyStatus : UInt8 := 0x1A
/-- `BQ27742_G1_CONTROL_IMAX_INT_CLEAR`. -/
def controlImaxIntClear : UInt16 := 0x0023
/-- `bq27742_g1_irq_mask`. -/
def irqMask : UInt32 := gpioIrqEdgeFall
/-- `bq27742_g1_deassert_irq_mask`. -/
def deassertIrqMask : UInt32 := gpioIrqEdgeRise

/-- `ISD_MASK`. -/
def isdMask : UInt16 := (1 : UInt16) <<< 5
/-- `TDD_MASK`. -/
def tddMask : UInt16 := (1 : UInt16) <<< 4
/-- `OTC_MASK`. -/
def otcMask : UInt16 := (1 : UInt16) <<< 3
/-- `OTD_MASK`. -/
def otdMask : UInt16 := (1 : UInt16) <<< 2
/-- `OVP_MASK`. -/
def ovpMask : UInt16 := (1 : UInt16) <<< 1
/-- `UVP_MASK`. -/
def uvpMask : UInt16 := 1
/-- `BATHI_MASK`. -/
def bathiMask : UInt16 := (1 : UInt16) <<< 13
/-- `BATLOW_MASK`. -/
def batlowMask : UInt16 := (1 : UInt16) <<< 12
/-- `CHG_INH_MASK`. -/
def chgInhMask : UInt16 := (1 : UInt16) <<< 11
/-- `FC_MASK`. -/
def fcMask : UInt16 := (1 : UInt16) <<< 9
/-- `CHG_SUS_MASK`. -/
def chgSusMask : UInt16 := (1 : UInt16) <<< 7
/-- `IMAX_MASK`. -/
def imaxMask : UInt16 := (1 : UInt16) <<< 4
/-- `CHG_MASK`. -/
def chgMask : UInt16 := (1 : UInt16) <<< 3
/-- `SOC1_MASK`. -/
def soc1Mask : UInt16 := (1 : UInt16) <<< 2
/-- `SOCF_MASK`. -/
def socfMask : UInt16 := (1 : UInt16) <<< 1
/-- `DSG_MASK`. -/
def dsgMask : UInt16 := 1

/-- Two bytes of a buffer as a little-endian word. -/
def word (bytes : Vector UInt8 2) : UInt16 := (bytes[1].toUInt16 <<< 8) ||| bytes[0].toUInt16

/-- `bq27742_g1_read_bytes`. -/
def readBytes (command : UInt8) (len : Nat) : Firmware (Vector UInt8 len) := do
  i2cWriteErrorHandling .i2c0 addr [command] true
  i2cReadErrorHandling .i2c0 addr len false

/-- `bq27742_g1_control`: four bytes are written because three do not work, then the pointer
goes back to the control register and its two bytes are returned. -/
def control (subcommandCode : UInt16) : Firmware (Vector UInt8 2) := do
  let low := (subcommandCode &&& 0x00FF).toUInt8
  let high := ((subcommandCode &&& 0xFF00) >>> 8).toUInt8
  i2cWriteErrorHandling .i2c0 addr [0x00, low, high, 0x00] true
  i2cWriteErrorHandling .i2c0 addr [0x00] true
  i2cReadErrorHandling .i2c0 addr 2 false

/-- Log one message when a bit is set. -/
def logBit (value mask : UInt16) (message : String) : Firmware Unit := do
  if value &&& mask ≠ 0 then rp2040Log message []

/-- `bq27742_g1_get_voltage`. -/
def getVoltage : Firmware UInt16 := do
  let voltage := word (← readBytes 0x08 2)
  rp2040Log "Voltage: %d\n" [.int voltage.toNat]
  return voltage

/-- `bq27742_g1_get_safety_stats`. -/
def getSafetyStats : Firmware UInt8 := do
  let lowByte := (← readBytes regSafetyStatus 2)[0]
  let status := lowByte.toUInt16
  rp2040Log "SafetyStats: " []
  logBit status isdMask "Internal Short condition detected, "
  logBit status tddMask "Tab Disconnect condition detected, "
  logBit status otcMask "Overtemperature in charge condition detected, "
  logBit status otdMask "Overtemperature in discharge condition detected, "
  logBit status ovpMask "Overvoltage condition detected, "
  logBit status uvpMask "Undervoltage condition detected, "
  if status &&& (isdMask ||| tddMask ||| otcMask ||| otdMask ||| ovpMask ||| uvpMask) = 0 then
    rp2040Log "No error detected in battery protection\n" []
  return lowByte

/-- `bq27742_g1_get_temp`. The converted value is computed in `temperature_`, but the static
`temperature`, cleared on entry, is what is returned. -/
def getTemp : Firmware UInt16 := do
  let temperature : UInt16 := 0
  let _ ← readBytes 0x06 2
  rp2040Log "Temperature: %d\n" [.int temperature.toNat]
  return temperature

/-- `bq27742_g1_get_soh`; the static `soh` that is logged has just been cleared. -/
def getSoh : Firmware UInt8 := do
  let returnBuf ← readBytes 0x2e 2
  rp2040Log "SOH: 0x2e=%02x, 0x2f=%02x\n" [.byte returnBuf[0], .byte returnBuf[1]]
  rp2040Log "SOH: %02f\n" [.int 0]
  return returnBuf[0]

/-- `bq27742_g1_get_flags`. -/
def getFlags : Firmware UInt16 := do
  let flags := word (← readBytes regFlags 2)
  rp2040Log "Tags: " []
  logBit flags bathiMask "High battery voltage condition BATHI detected, "
  logBit flags batlowMask "Low battery voltage condition BATLOW detected, "
  logBit flags chgInhMask "Temperature is < T1 Temp or > T4 Temp while charging is not active. CHG_INH detected, "
  logBit flags fcMask "Charge termination reached and FC Set Percent = -1. Or SOC > FC Percent is not -1. FC detected, "
  logBit flags chgSusMask "Temp < T1 Temp or > T5 Temp while charging active. CHG_SUS detected, "
  logBit flags imaxMask "Imax value has changed enough to interrupt. IMAX detected, "
  logBit flags chgMask "Fast charging allowed. CHG detected, "
  logBit flags soc1Mask "SOC1 reached."
  logBit flags socfMask "SOCF Set Percent reached. SOCF detected, "
  logBit flags dsgMask "Discharging detected. DSG detected, "
  if flags &&& (bathiMask ||| batlowMask ||| chgInhMask ||| fcMask ||| chgSusMask ||| imaxMask |||
      chgMask ||| soc1Mask ||| socfMask ||| dsgMask) = 0 then
    rp2040Log "No SystemStat errors detected" []
  rp2040Log "\n" []
  return flags

/-- `bq27742_g1_rearm_assert_irq`. -/
def rearmAssertIrq : Firmware Unit := do
  store .bq27742G1InterruptPending false
  gpioSetIrqEnabled gpioInterrupt deassertIrqMask false
  gpioSetIrqEnabled gpioInterrupt irqMask true

/-- The line has been released: expect the next assertion. -/
def rearmIfReleased : Firmware Unit := do
  if ← gpioGet gpioInterrupt then rearmAssertIrq

/-- `bq27742_g1_queue_parse_interrupt`. -/
def queueParseInterrupt : Firmware Unit := do
  if ← load .bq27742G1InterruptPending then return ()
  else
    store .bq27742G1InterruptPending true
    gpioSetIrqEnabled gpioInterrupt irqMask false
    gpioSetIrqEnabled gpioInterrupt deassertIrqMask true
    if !(← callQueueTryAddNonblocking .bq27742G1ParseInterruptVals 0) then rearmIfReleased

/-- The falling edge in `bq27742_g1_on_interrupt`. -/
def onAssert (eventMask : UInt32) : Firmware Unit := do
  if eventMask &&& irqMask ≠ 0 then
    gpioAcknowledgeIrq gpioInterrupt irqMask
    queueParseInterrupt

/-- The rising edge in `bq27742_g1_on_interrupt`. -/
def onDeassert (eventMask : UInt32) : Firmware Unit := do
  if eventMask &&& deassertIrqMask ≠ 0 then
    gpioAcknowledgeIrq gpioInterrupt deassertIrqMask
    rearmIfReleased

/-- `bq27742_g1_on_interrupt`. -/
def onInterrupt (gpio : Nat) (eventMask : UInt32) : Firmware Unit := do
  if gpio ≠ gpioInterrupt then return ()
  else
    onAssert eventMask
    onDeassert eventMask

/-- Clear a latched IMAX interrupt. -/
def clearImax (flags : UInt16) : Firmware Unit := do
  if flags &&& imaxMask ≠ 0 then
    rp2040Log "BQ27742-G1 interrupt: IMAX set, clearing latched interrupt\n" []
    let _ ← control controlImaxIntClear

/-- The message when none of the enabled bits is set. -/
def logNoStatus (flags safety : UInt16) : Firmware Unit := do
  if flags &&& (soc1Mask ||| bathiMask ||| batlowMask ||| imaxMask) = 0 ∧
      safety &&& (isdMask ||| tddMask ||| otcMask ||| otdMask ||| ovpMask ||| uvpMask) = 0 then
    rp2040Log "BQ27742-G1 interrupt: no enabled status bits currently set\n" []

/-- `bq27742_g1_parse_interrupt_vals`. -/
def parseInterruptVals : Firmware Int32 := do
  let flags := word (← readBytes regFlags 2)
  let safety := word (← readBytes regSafetyStatus 2)
  let level ← gpioGet gpioInterrupt
  rp2040Log "BQ27742-G1 interrupt: GPIO%d=%d Flags=0x%04x SafetyStatus=0x%04x\n"
    [.int gpioInterrupt, .int level.toNat, .int flags.toNat, .int safety.toNat]
  logBit flags soc1Mask "BQ27742-G1 interrupt: SOC1 set\n"
  logBit flags bathiMask "BQ27742-G1 interrupt: BATHI set\n"
  logBit flags batlowMask "BQ27742-G1 interrupt: BATLOW set\n"
  clearImax flags
  logBit safety isdMask "BQ27742-G1 interrupt: ISD set\n"
  logBit safety tddMask "BQ27742-G1 interrupt: TDD set\n"
  logBit safety otcMask "BQ27742-G1 interrupt: OTC set\n"
  logBit safety otdMask "BQ27742-G1 interrupt: OTD set\n"
  logBit safety ovpMask "BQ27742-G1 interrupt: OVP set\n"
  logBit safety uvpMask "BQ27742-G1 interrupt: UVP set\n"
  logNoStatus flags safety
  rearmIfReleased
  return Int32.ofNat flags.toNat

/-- The end of `bq27742_g1_init`, from `gpio_set_irq_enabled` on. -/
def initEnd : Firmware Unit := do
  gpioSetIrqEnabled gpioInterrupt irqMask true
  if !(← gpioGet gpioInterrupt) then
    rp2040Log "BQ27742-G1 RC2_3V3 already asserted on GPIO%d\n" [.int gpioInterrupt]
    queueParseInterrupt
  rp2040Log "bq27742_g1 init finished\n" []

/-! ## The data flash -/

/-- `BQ27742_G1_REG_PACK_CONFIGURATION`. -/
def regPackConfiguration : UInt8 := 0x3A
/-- `BQ27742_G1_REG_DATA_FLASH_CLASS`. -/
def regDataFlashClass : UInt8 := 0x3E
/-- `BQ27742_G1_REG_DATA_FLASH_BLOCK`. -/
def regDataFlashBlock : UInt8 := 0x3F
/-- `BQ27742_G1_REG_BLOCK_DATA`. -/
def regBlockData : UInt8 := 0x40
/-- `BQ27742_G1_REG_BLOCK_DATA_CHECKSUM`. -/
def regBlockDataChecksum : UInt8 := 0x60
/-- `BQ27742_G1_REG_BLOCK_DATA_CONTROL`. -/
def regBlockDataControl : UInt8 := 0x61
/-- `BQ27742_G1_DF_SUBCLASS_REGISTERS`. -/
def dfSubclassRegisters : UInt8 := 64
/-- `BQ27742_G1_DF_BLOCK_REGISTERS`. -/
def dfBlockRegisters : UInt8 := 0
/-- `BQ27742_G1_DF_BLOCK_LEN`. -/
abbrev dfBlockLen : Nat := 32
/-- `BQ27742_G1_DF_PACK_CONFIG_OFFSET`. -/
def dfPackConfigOffset : Fin dfBlockLen := 0
/-- `BQ27742_G1_DF_PACK_CONFIG_C_OFFSET`. -/
def dfPackConfigCOffset : Fin dfBlockLen := 3
/-- `BQ27742_G1_PACK_CONFIG_HOSTIPU_MASK`. -/
def packConfigHostipuMask : UInt16 := (1 : UInt16) <<< 14
/-- `BQ27742_G1_PACK_CONFIG_HOSTIPOL_MASK`. -/
def packConfigHostipolMask : UInt16 := (1 : UInt16) <<< 13
/-- `BQ27742_G1_PACK_CONFIG_HOSTIE_MASK`. -/
def packConfigHostieMask : UInt16 := (1 : UInt16) <<< 12
/-- `BQ27742_G1_PACK_CONFIG_C_BTP_EN_MASK`. -/
def packConfigCBtpEnMask : UInt8 := 1

/-- A block of the data flash. -/
abbrev Block : Type := Vector UInt8 dfBlockLen

/-- Two bytes of a block as a word, the high one first. -/
def Block.word (block : Block) (high low : Fin dfBlockLen) : UInt16 :=
  ((block.get high).toUInt16 <<< 8) ||| (block.get low).toUInt16

/-- `bq27742_g1_write_byte`. -/
def writeByte (command value : UInt8) : Firmware Unit :=
  i2cWriteErrorHandling .i2c0 addr [command, value] false

/-- `bq27742_g1_data_flash_checksum`. -/
def dataFlashChecksum (blockData : Block) : UInt8 :=
  0xFF - blockData.toList.foldl (fun sum byte => sum + byte) 0

/-- `bq27742_g1_get_pack_configuration`. -/
def getPackConfiguration : Firmware UInt16 := do
  return word (← readBytes regPackConfiguration 2)

/-- The part that reading and writing a block share: select it and wait. -/
def selectBlock (subclass block : UInt8) : Firmware Unit := do
  writeByte regBlockDataControl 0x00
  writeByte regDataFlashClass subclass
  writeByte regDataFlashBlock block
  perform (.sleepMs 1)

/-- `bq27742_g1_read_data_flash_block`, with what `block_data` holds afterwards. -/
def readDataFlashBlock (subclass block : UInt8) : Firmware (Bool × Block) := do
  selectBlock subclass block
  let blockData ← readBytes regBlockData dfBlockLen
  let checksum := (← readBytes regBlockDataChecksum 1).get 0
  let calculatedChecksum := dataFlashChecksum blockData
  if checksum ≠ calculatedChecksum then
    rp2040Log "ERROR: BQ27742-G1 data flash checksum mismatch read=0x%02x calculated=0x%02x\n"
      [.byte checksum, .byte calculatedChecksum]
    return (false, blockData)
  else return (true, blockData)

/-- `bq27742_g1_write_data_flash_block`. -/
def writeDataFlashBlock (subclass block : UInt8) (blockData : Block) : Firmware Unit := do
  selectBlock subclass block
  i2cWriteErrorHandling .i2c0 addr (regBlockData :: blockData.toList) false
  writeByte regBlockDataChecksum (dataFlashChecksum blockData)

/-- Where Pack Configuration lies in a block, high byte first: the byte order is guessed by
comparing both readings with the command read. -/
def packConfigIndices (packConfig : UInt16) (blockData : Block) :
    Firmware (Fin dfBlockLen × Fin dfBlockLen) := do
  let first := dfPackConfigOffset
  let second := dfPackConfigOffset + 1
  let dataFlashPackConfigBe := blockData.word first second
  let dataFlashPackConfigLe := blockData.word second first
  if dataFlashPackConfigLe = packConfig ∧ dataFlashPackConfigBe ≠ packConfig then
    return (second, first)
  else if dataFlashPackConfigBe ≠ packConfig then
    rp2040Log "BQ27742-G1 PackConfiguration byte order not verified by command read; using TRM order\n" []
    return (first, second)
  else return (first, second)

/-- The new value of Pack Configuration. -/
def newPackConfig (oldPackConfig : UInt16) : UInt16 :=
  ((oldPackConfig ||| packConfigHostieMask) &&& ~~~packConfigHostipuMask) &&&
    ~~~packConfigHostipolMask

/-- The new value of Pack Configuration C. -/
def newPackConfigC (oldPackConfigC : UInt8) : UInt8 := oldPackConfigC &&& ~~~packConfigCBtpEnMask

/-- The block with the new values stored into it. -/
def editBlock (blockData : Block) (high low : Fin dfBlockLen) (packConfig : UInt16)
    (packConfigC : UInt8) : Block :=
  ((blockData.set high ((packConfig >>> 8) &&& 0xFF).toUInt8).set low
    (packConfig &&& 0xFF).toUInt8).set dfPackConfigCOffset packConfigC

/-- The end of `bq27742_g1_configure_host_interrupts`: read the block again and compare. -/
def verifyBlock (high low : Fin dfBlockLen) (oldPackConfig packConfig : UInt16)
    (oldPackConfigC packConfigC : UInt8) : Firmware Unit := do
  let (read, verify) ← readDataFlashBlock dfSubclassRegisters dfBlockRegisters
  if !read then
    rp2040Log "ERROR: BQ27742-G1 could not verify RC2 data flash write\n" []
  else if verify.word high low ≠ packConfig ∨ verify.get dfPackConfigCOffset ≠ packConfigC then
    rp2040Log "ERROR: BQ27742-G1 RC2 data flash write did not verify. PackConfig=0x%04x expected=0x%04x PackConfigC=0x%02x expected=0x%02x\n"
      [.int (verify.word high low).toNat, .int packConfig.toNat,
        .byte (verify.get dfPackConfigCOffset), .byte packConfigC]
  else
    rp2040Log "BQ27742-G1 RC2 host interrupts configured. PackConfiguration 0x%04x -> 0x%04x, PackConfigC 0x%02x -> 0x%02x\n"
      [.int oldPackConfig.toNat, .int packConfig.toNat, .byte oldPackConfigC, .byte packConfigC]

/-- `bq27742_g1_configure_host_interrupts` after the block has been read. -/
def updateBlock (packConfig : UInt16) (blockData : Block) : Firmware Unit := do
  let (high, low) ← packConfigIndices packConfig blockData
  let oldPackConfig := blockData.word high low
  let oldPackConfigC := blockData.get dfPackConfigCOffset
  if oldPackConfig = newPackConfig oldPackConfig ∧ oldPackConfigC =
    newPackConfigC oldPackConfigC then
    rp2040Log "BQ27742-G1 RC2 host interrupts already configured\n" []
  else
    writeDataFlashBlock dfSubclassRegisters dfBlockRegisters
      (editBlock blockData high low (newPackConfig oldPackConfig) (newPackConfigC oldPackConfigC))
    perform (.sleepMs 10)
    verifyBlock high low oldPackConfig (newPackConfig oldPackConfig) oldPackConfigC
      (newPackConfigC oldPackConfigC)

/-- `bq27742_g1_configure_host_interrupts`. -/
def configureHostInterrupts : Firmware Unit := do
  let packConfig ← getPackConfiguration
  rp2040Log "BQ27742-G1 PackConfiguration before RC2 init: 0x%04x\n" [.int packConfig.toNat]
  let (read, blockData) ← readDataFlashBlock dfSubclassRegisters dfBlockRegisters
  if !read then
    rp2040Log "ERROR: BQ27742-G1 could not read data flash for RC2 init\n" []
  else updateBlock packConfig blockData

end RobotFirmware.Bq27742G1
