import RobotFirmware.Platform

/-!
# The MAX77976 charger

The interrupt path and the telemetry read-out, both on `i2c1`. Clearing the three-byte
interrupt buffer with `sizeof MAX77976_INT_BUF_LEN` stores a fourth byte, and the packed
read-out is taken from `send_buf[4]` to `send_buf[7]`, behind an array of four bytes.
-/

namespace RobotFirmware.Max77976

/-- `MAX77976_ADDR`. -/
def addr : UInt8 := 0x6B
/-- `MAX77976_REG_CHG_INT`. -/
def regChgInt : UInt8 := 0x10
/-- `MAX77976_REG_CHG_INT_MASK`. -/
def regChgIntMask : UInt8 := 0x11
/-- `BATTERY_CHARGER_INTERRUPT_PIN`, the pin stored in `_gpio_interrupt`. -/
def gpioInterrupt : Nat := 6
/-- `interrupt_mask`. -/
def interruptMask : UInt32 := gpioIrqEdgeFall

/-- `max77976_on_battery_charger_interrupt`. -/
def onBatteryChargerInterrupt (eventMask : UInt32) : Firmware Unit := do
  if eventMask &&& interruptMask ≠ 0 then
    gpioAcknowledgeIrq gpioInterrupt interruptMask
    callQueueTryAdd .max77976ParseInterruptVals 0
    if ← load .testMax77976Started then
      callQueueTryAdd .max77976TestResponse 1

/-- `max77976_get_interrupt_vals`. -/
def getInterruptVals : Firmware (Vector UInt8 3) := do
  perform (.strayStore 3)
  i2cWriteErrorHandling .i2c1 addr [regChgInt] true
  let buf ← i2cReadErrorHandling .i2c1 addr 3 false
  rp2040Log "MAX77976 interrupts vals: 0x10: 0x%02x, 0x11: 0x%02x, 0x12: 0x%02x\n"
    [.byte buf[0], .byte buf[1], .byte buf[2]]
  return buf

/-- The messages for one interrupt bit: that it was detected, and one of two for its status. -/
def logInterrupt (buf : Vector UInt8 3) (bit : UInt8) (detected set clear : String) :
    Firmware Unit := do
  if buf[0] &&& bit ≠ 0 then
    rp2040Log detected []
    if buf[2] &&& bit ≠ 0 then rp2040Log set [] else rp2040Log clear []

/-- The flag that a test sets no interrupt for. -/
def noteNoInterrupt (buf : Vector UInt8 3) : Firmware Unit := do
  if buf[0] = 0 then store .testMax77976InterruptBool true

/-- `max77976_parse_interrupt_vals`. -/
def parseInterruptVals : Firmware Int32 := do
  let buf ← getInterruptVals
  logInterrupt buf ((1 : UInt8) <<< 7) "MAX77976: AICL_I interrupt detected.\n"
    "MAX77976: AICL mode.\n" "MAX77976: AICL mode not detected.\n"
  logInterrupt buf ((1 : UInt8) <<< 6) "MAX77976: CHGIN_I interrupt detected.\n"
    "MAX77976: CHGIN input is valid.\n" "MAX77976: CHGIN input is not valid.\n"
  logInterrupt buf ((1 : UInt8) <<< 5) "MAX77976: INLIM_I interrupt detected.\n"
    "MAX77976: The CHGIN input current has been reaching the current limit for at least 30ms.\n"
    "MAX77976: The CHGIN input current has not reached the current limit.\n"
  logInterrupt buf ((1 : UInt8) <<< 4) "MAX77976: CHG_I interrupt detected.\n"
    "MAX77976: The charger has suspended charging or TREG = 1.\n"
    "MAX77976: The charger is okay or the charger is off.\n"
  logInterrupt buf ((1 : UInt8) <<< 3) "MAX77976: BAT_I interrupt detected.\n"
    "MAX77976: The battery has an issue or the charger has been suspended.\n"
    "MAX77976: The battery is okay.\n"
  logInterrupt buf ((1 : UInt8) <<< 1) "MAX77976: DISQBAT_I interrupt detected.\n"
    "MAX77976: DISQBAT is high and QBATT is disabled.\n"
    "MAX77976: DISQBAT is low and QBATT is not disabled.\n"
  logInterrupt buf 1 "MAX77976: BYP_I interrupt detected.\n"
    "MAX77976: Something powered by the bypass node has hit current limit.\n"
    "MAX77976: The bypass node is okay.\n"
  noteNoInterrupt buf
  return ((buf[1].toUInt32 <<< 8) ||| buf[0].toUInt32).toInt32

/-- `max77976_test_response`. -/
def testResponse : Firmware Int32 := do
  store .testMax77976Completed true
  return 0

/-- `max77976_set_interrupt_masks_all_masked`, which sends all of `send_buf`. -/
def setInterruptMasksAllMasked : Firmware Unit :=
  i2cWriteErrorHandling .i2c1 addr [regChgIntMask, 0b11111111, 0, 0] false

/-- `max77976_set_interrupt_masks`. -/
def setInterruptMasks : Firmware Unit :=
  let aiclM := (1 : UInt8) <<< 7
  let chginM := (0 : UInt8) <<< 6
  let inlimM := (1 : UInt8) <<< 5
  let chgM := (1 : UInt8) <<< 4
  let batM := (1 : UInt8) <<< 3
  let spr2 := (1 : UInt8) <<< 2
  let disqbatM := (1 : UInt8) <<< 1
  let bypM := (1 : UInt8) <<< 0
  i2cWriteErrorHandling .i2c1 addr
    [regChgIntMask, aiclM ||| chginM ||| inlimM ||| chgM ||| batM ||| spr2 ||| disqbatM ||| bypM, 0,
      0]
    false

/-- `test_max77976_interrupt`. -/
def testInterrupt : Firmware Unit := do
  rp2040Log "test_max77976_interrupt starting...\n" []
  setInterruptMasksAllMasked
  store .testMax77976Started true
  movePin gpioInterrupt (perform (.gpioSetDir gpioInterrupt true)) false
    "test_max77976_interrupt: prior to driving low GPIO%d. Current Value:%d\n"
    "test_max77976_interrupt: GPIO%d was not driven low. Current Value:%d\n"
    "test_max77976_interrupt: after driving low GPIO%d. Current Value:%d\n"
  let left ← waitForTest .testMax77976Completed "test_max77976_interrupt timed out\n" testRounds
  perform (.gpioSetDir gpioInterrupt false)
  perform (.gpioPullUp gpioInterrupt)
  store .testMax77976Started false
  store .testMax77976Completed false
  setInterruptMasks
  rp2040Log "test_max77976_interrupt: Passed after %lu milliseconds.\n" [waitedMs left]

/-- The messages of the `CHGIN_DTLS` switch. -/
def chginDtlsText (chginDtls : UInt8) : String :=
  match chginDtls.toNat with
  | 0b00 => "VBUS is invalid. VCHGIN rising: VCHGIN < VCHGIN_UVLO. VCHGIN falling: VCHGIN < VCHGIN_REG (AICL)"
  | 0b01 => "VBUS is invalid. VCHGIN < VBATT + VCHGIN2SYS and VCHGIN > VCHGIN_UVLO"
  | 0b10 => "VBUS is invalid. VCHGIN > VCHGIN_OVLO"
  | _ => "VBUS is valid. VCHGIN > VCHGIN_UVLO and VCHGIN > VBATT + VCHGIN2SYS and VCHGIN < VCHGIN_OVLO"

/-- The messages of the `TREG` switch. -/
def tregText (treg : UInt8) : String :=
  if treg = 0 then "The junction temperature is less than the threshold set by REGTEMP and the full charge current limit is available"
  else "The junction temperature is greater than the threshold set by REGTEMP and the charge current limit may be folding back to reduce power dissipation."

/-- The messages of the `BAT_DTLS` switch. -/
def batDtlsText (batDtls : UInt8) : String :=
  match batDtls.toNat with
  | 0b000 => "Battery Removal"
  | 0b001 => "Battery Prequalification Voltage"
  | 0b010 => "Battery Timer Fault"
  | 0b011 => "Battery Regular Voltage"
  | 0b100 => "Battery Low Voltage"
  | 0b101 => "Battery Overvoltage"
  | 0b110 => "Reserved"
  | _ => "Battery Only"

/-- The messages of the `CHG_DTLS` switch. -/
def chgDtlsText (chgDtls : UInt8) : String :=
  match chgDtls.toNat with
  | 0x00 => "Charger is in dead-battery prequalification or low-battery prequalification mode."
  | 0x01 => "Charger is in fast-charge constant current mode."
  | 0x02 => "Charger is in fast-charge constant voltage mode."
  | 0x03 => "Charger is in top-off mode."
  | 0x04 => "Charger is in done mode."
  | 0x05 => "Reserved"
  | 0x06 => "Charger is in timer-fault mode."
  | 0x07 => "Charger is suspended because QBATT is disabled"
  | 0x08 => "Charger is off, charger input invalid and/or charger is disabled."
  | 0x09 => "Reserved"
  | 0x0A => "Charger is off and the junction temperature is > TSHDN."
  | 0x0B => "Charger is off because the watchdog timer expired"
  | 0x0C => "Charger is suspended or charge current or voltage is reduced based on JEITA control."
  | 0x0D => "Charger is suspended because battery removal is detected on THM pin."
  | 0x0E => "Charger is suspended because SUSPEND pin is high."
  | _ => "Reserved"

/-- The messages of the `BYP_DTLS` switch, which has no default. -/
def bypDtlsText (bypDtls : UInt8) : Option String :=
  match bypDtls.toNat with
  | 0x00 => some "The bypass node is okay."
  | 0x01 => some "OTG_ILIM when CHG_CNFG_00.MODE=0xA or 0xE or 0xF"
  | 0x02 => some "BSTILIM"
  | 0x04 => some "BCKNegILIM"
  | 0x08 => some "BST_SWON_DONE"
  | _ => none

/-- The `BYP_DTLS` switch. -/
def logBypDtls (bypDtls : UInt8) : Firmware Unit :=
  match bypDtlsText bypDtls with
  | some text => rp2040Log text []
  | none => return ()

/-- One exchange of `max77976_get_chg_details`: select a register and read one byte of it. -/
def readDetail (reg : UInt8) : Firmware UInt8 := do
  i2cWriteErrorHandling .i2c1 addr [reg] true
  return (← i2cReadErrorHandling .i2c1 addr 1 false).get ⟨0, Nat.zero_lt_one⟩

/-- `max77976_get_chg_details`. -/
def getChgDetails : Firmware UInt32 := do
  let chgDetails00 ← readDetail 0x13
  let chginDtls := (chgDetails00 &&& 0x60) >>> 5
  rp2040Log "CHG_DETAILS_00: 0x%02x\n CHGIN_DTLS: 0x%02x\n" [.byte chgDetails00, .byte chginDtls]
  rp2040Log "CHG_DETAILS_00_CHGIN_DTLS: " []
  rp2040Log (chginDtlsText chginDtls) []
  rp2040Log "\n" []
  let chgDetails01 ← readDetail 0x14
  let treg := (chgDetails01 &&& ((1 : UInt8) <<< 7)) >>> 7
  let batDtls := (chgDetails01 &&& 0x70) >>> 4
  let chgDtls := chgDetails01 &&& 0xF
  rp2040Log "CHG_DETAILS_01: 0x%02x\n TREG: 0x%02x\n BAT_DTLS: 0x%02x\n CHG_DTLS: 0x%02x\n"
    [.byte chgDetails01, .byte treg, .byte batDtls, .byte chgDtls]
  rp2040Log "CHG_DETAILS_01_TREG: " []
  rp2040Log (tregText treg) []
  rp2040Log "\n" []
  rp2040Log "CHG_DETAILS_01_BAT_DTLS: " []
  rp2040Log (batDtlsText batDtls) []
  rp2040Log "\n" []
  rp2040Log "CHG_DETAILS_01_CHG_DTLS: " []
  rp2040Log (chgDtlsText chgDtls) []
  rp2040Log "\n" []
  let chgDetails02 ← readDetail 0x15
  let bypDtls := chgDetails02 &&& 0x0F
  rp2040Log "CHG_DETAILS_02_BYP_DTLS: " []
  logBypDtls bypDtls
  rp2040Log "\n" []
  let chgCnfg00 ← readDetail 0x16
  let mode := chgCnfg00 &&& 0x0F
  rp2040Log "CHG_CNFG_00: 0x%x\n" [.byte mode]
  -- the four bytes behind `send_buf`, not the four bytes read
  let b4 ← strayRead 4
  let b5 ← strayRead 5
  let b6 ← strayRead 6
  let b7 ← strayRead 7
  return (b4.toUInt32 <<< 24) ||| (b5.toUInt32 <<< 16) ||| (b6.toUInt32 <<< 8) ||| b7.toUInt32

end RobotFirmware.Max77976
