import RobotFirmware.StartUp.Initialisation

/-!
# The self tests

The tests that `robot_unit_tests` runs, next to those that are modelled with their devices. The
opcode tests queue one command each, wait for the reply and log what they think of it; none of
them fails.
-/

namespace RobotFirmware

open Max77958 (DriverHeader Driver byteToBinary byteToBinaryPattern)

namespace Max77958

/-! ## The opcode tests -/

/-- Log a message when a condition holds. -/
def logIf (condition : Bool) (message : String) (args : List LogArg) : Firmware Unit := do
  if condition then rp2040Log message args

/-- The length of `op_code_return_buf`. -/
abbrev returnLen : Nat := 33

/-- What the opcode tests start with: queue a command, wait for its reply and look at it. While
no command is outstanding the reply does not change. -/
def testReply (name : String) (opcodeFunc : EntryFunc) : Firmware (Vector UInt8 returnLen) := do
  rp2040Log (name ++ " started...\n") []
  runOpcode opcodeFunc 0
  perform .loadOpCodeReturnBuf

/-- The check of a register in a reply. -/
def checkRegister (value expected : UInt8) (failed passed close : String) : Firmware Unit := do
  if value ≠ expected then
    rp2040Log (failed ++ byteToBinaryPattern ++ close ++ "\n") (byteToBinary value)
  else rp2040Log (passed ++ byteToBinaryPattern ++ "\n") (byteToBinary value)

/-- `test_max77958_bc_ctrl1_read`. -/
def testBcCtrl1Read : Firmware Unit := do
  let reply ← testReply "test_max77958_bc_ctrl1_read" .bcCtrl1Read
  logIf (reply[0] ≠ 0x01) "test_max77958_bc_ctrl1_read ERROR: OPCODE should be 0x01" []
  checkRegister reply[1] 0b10000001
    "test_max77958_bc_ctrl1_read ERROR: BC_CTRL1_CONFIG should be 0b10000001 instead it is 0b"
    "test_max77958_bc_ctrl1_read PASSED: BC_CTRL1_CONFIG = 0b" ""

/-- `test_max77958_bc_ctrl2_read`. -/
def testBcCtrl2Read : Firmware Unit := do
  let reply ← testReply "test_max77958_bc_ctrl2_read" .bcCtrl2Read
  logIf (reply[0] ≠ 0x03)
    "test_max77958_bc_ctrl2_read ERROR: OPCODE should be 0x03 (got 0x%02x)\n" [.byte reply[0]]
  checkRegister reply[1] 0b00000001
    "test_max77958_bc_ctrl2_read ERROR: OPCODE should be 0b00000001 got 0b"
    "test_max77958_bc_ctrl2_read PASSED: BC_CTRL2_CONFIG = 0b" ""

/-- `test_max77958_control1_read`. -/
def testControl1Read : Firmware Unit := do
  let reply ← testReply "test_max77958_control1_read" .control1Read
  logIf (reply[0] ≠ 0x05)
    "test_max77958_control1_read ERROR: OPCODE should be 0x05 (got 0x%02x)\n" [.byte reply[0]]
  checkRegister reply[1] 0b00000000
    "test_max77958_control1_read ERROR: OPCODE should be 0b00000000 (got 0b"
    "test_max77958_control1_read PASSED: CONTROL1_CONFIG = 0b" ")"

/-- `test_max77958_cc_ctrl1_read`. -/
def testCcCtrl1Read : Firmware Unit := do
  let reply ← testReply "test_max77958_cc_ctrl1_read" .ccCtrl1Read
  logIf (reply[0] ≠ 0x0B) "test_max77958_cc_ctrl1_read ERROR: OPCODE should be 0x0B" []
  checkRegister reply[1] 0b10000001
    "test_max77958_cc_ctrl1_read ERROR: CC_CTRL1_CONFIG should be 0b10000001 instead it is 0b"
    "test_max77958_cc_ctrl1_read PASSED: CC_CTRL1_CONFIG = 0b" ""

/-- `test_max77958_cc_ctrl4_read`. -/
def testCcCtrl4Read : Firmware Unit := do
  let reply ← testReply "test_max77958_cc_ctrl4_read" .ccCtrl4Read
  logIf (reply[0] ≠ 0x11)
    "test_max77958_cc_ctrl4_read ERROR: OPCODE should be 0x11 (got 0x%02x)\n" [.byte reply[0]]
  checkRegister reply[1] 0b00000000
    "test_max77958_cc_ctrl4_read ERROR: OPCODE should be 0b00000000 (got 0b"
    "test_max77958_cc_ctrl4_read PASSED: CC_CTRL4 = 0b" ")"

/-- `test_max77958_gpio_control_read`. It reports success when `error_count` is positive. -/
def testGpioControlRead : Firmware Unit := do
  let reply ← testReply "test_max77958_gpio_control_read" .gpioControlRead
  logIf (reply[0] ≠ 0x23)
    "test_max77958_gpio_control_read ERROR: OPCODE should be 0x23 (got 0x%02x)\n" [.byte reply[0]]
  let failed := "test_max77958_gpio_control_read ERROR: OPCODE should be 0b00000000 (got 0b" ++
    byteToBinaryPattern ++ ")\n"
  logIf (reply[1] ≠ 0b00000000) failed (byteToBinary reply[1])
  logIf (reply[2] ≠ 0b00000000) failed (byteToBinary reply[2])
  logIf (reply[3] ≠ 0b00000000) failed (byteToBinary reply[3])
  logIf (reply[1] ≠ 0 || reply[2] ≠ 0 || reply[3] ≠ 0)
    ("test_max77958_gpio_control_read PASSED: 0x52(GPIO0-3)=0b" ++ byteToBinaryPattern ++
      " 0x53(GPIO4-7)=0b" ++ byteToBinaryPattern ++ " 0x54(GPIO8)=0b" ++ byteToBinaryPattern ++
      "\n")
    (byteToBinary reply[1] ++ byteToBinary reply[2] ++ byteToBinary reply[3])

/-- `test_max77958_gpio0_gpio1_adc_read`. -/
def testGpio0Gpio1AdcRead : Firmware Unit := do
  let reply ← testReply "test_max77958_gpio0_gpio1_adc_read" .gpio0Gpio1AdcRead
  logIf (reply[0] ≠ 0x27)
    "test_max77958_gpio0_gpio1_adc_read ERROR: OPCODE should be 0x27 (got 0x%02x)\n"
    [.byte reply[0]]
  if reply[1] ≠ 0b00000000 ∨ reply[2] ≠ 0b00000000 then
    rp2040Log ("test_max77958_gpio0_gpio1_adc_read ERROR: SBU1 should be 0b00000000 (got 0b" ++
      byteToBinaryPattern ++ ")\n") (byteToBinary reply[1])
    rp2040Log ("test_max77958_gpio0_gpio1_adc_read ERROR: SBU2 should be 0b00000000 (got 0b" ++
      byteToBinaryPattern ++ ")\n") (byteToBinary reply[2])
  else
    rp2040Log ("test_max77958_gpio0_gpio1_adc_read PASSED: SBU1=0b" ++ byteToBinaryPattern ++
      " SBU2=0b" ++ byteToBinaryPattern ++ "\n") (byteToBinary reply[1] ++ byteToBinary reply[2])

/-- Two bytes of a reply as an `int`, the low one first. -/
def replyWord (low high : UInt8) : Nat := low.toNat ||| (high.toNat <<< 8)

/-- The registers that `test_max77958_get_customer_config` logs one by one, from 0x53 on. -/
def logCustomerConfig (reply : Vector UInt8 returnLen) : Firmware Unit := do
  rp2040Log "test_max77958_get_customer_config: 0x53=0x%02x\n" [.byte reply[2]]
  rp2040Log "test_max77958_get_customer_config: 0x54=0x%02x\n" [.byte reply[3]]
  rp2040Log "test_max77958_get_customer_config: 0x55=0x%02x\n" [.byte reply[4]]
  rp2040Log "test_max77958_get_customer_config: 0x56=0x%02x\n" [.byte reply[5]]
  rp2040Log "test_max77958_get_customer_config: 0x57=0x%02x\n" [.byte reply[6]]
  rp2040Log "test_max77958_get_customer_config: 0x58=0x%02x\n" [.byte reply[7]]
  rp2040Log "test_max77958_get_customer_config: 0x59=0x%02x\n" [.byte reply[8]]
  rp2040Log "test_max77958_get_customer_config: 0x5A=0x%02x\n" [.byte reply[9]]
  rp2040Log "test_max77958_get_customer_config: 0x5B=0x%02x\n" [.byte reply[10]]

/-- `test_max77958_get_customer_config`. -/
def testGetCustomerConfig : Firmware Unit := do
  let reply ← testReply "test_max77958_get_customer_config" .customerConfigRead
  logIf (reply[0] ≠ 0x55) "test_max77958_get_customer_config ERROR: OPCODE should be 0x55" []
  let configId := replyWord reply[2] reply[3]
  let configRev := replyWord reply[4] reply[5]
  logIf (configId ≠ 0x0B6A)
    "test_max77958_get_customer_config ERROR: CUSTOMER_CONFIG_ID should be 0x0B6A" []
  logIf (configRev ≠ 0x6860)
    "test_max77958_get_customer_config ERROR: CUSTOMER_CONFIG_REV should be 0x6860" []
  rp2040Log "test_max77958_get_customer_config: 0x51=0x%02x\n" [.byte reply[0]]
  rp2040Log "test_max77958_get_customer_config: 0x52=0x%02x\n" [.byte reply[1]]
  rp2040Log ("test_max77958_get_customer_config: 0x52=0b" ++ byteToBinaryPattern ++ "\n")
    (byteToBinary reply[1])
  logCustomerConfig reply
  rp2040Log "test_max77958_get_customer_config PASSED: CUSTOMER_CONFIG_ID = 0x%04x\n"
    [.int configId]
  rp2040Log "test_max77958_get_customer_config PASSED: CUSTOMER_CONFIG_REV = 0x%04x\n"
    [.int configRev]

/-! ## The interrupt test -/

/-- The loop that waits for a flag without giving up, after `i` rounds. The rounds are counted as
far as `patience` goes; from there on the wait is one operation. -/
def waitPatiently (flag : Flag) (timedOut : String) : (patience i : Nat) → Firmware Nat
  | 0, i => do
    perform (.await flag)
    return i
  | patience + 1, i => do
    if ← load flag then return i
    else
      perform (.sleepMs 10)
      logIf (1000 < i + 1) timedOut []
      waitPatiently flag timedOut patience (i + 1)

/-- The part of `test_max77958_interrupt` between the two changes of the masks, which returns the
rounds waited. A line that was not driven low is only logged. -/
def driveInterrupt (patience : Nat) : Firmware Nat := do
  store .testMax77958Started true
  rp2040Log "test_max77958_interrupt: prior to driving low GPIO%d. Current Value:%d\n"
    [.int gpioInterrupt, .level (← gpioGet gpioInterrupt)]
  perform (.gpioSetDir gpioInterrupt true)
  if (← gpioGet gpioInterrupt) ≠ false then
    rp2040Log "ERROR: test_max77958_interrupt: GPIO%d was not driven low. Current Value:%d\n"
      [.int gpioInterrupt, .level (← gpioGet gpioInterrupt)]
  rp2040Log "test_max77958_interrupt: after driving low GPIO%d. Current Value:%d\n"
    [.int gpioInterrupt, .level (← gpioGet gpioInterrupt)]
  let i ← waitPatiently .testMax77958Completed "ERROR: test_max77958_interrupt timed out\n"
    patience 0
  perform (.gpioSetDir gpioInterrupt false)
  perform (.gpioPullUp gpioInterrupt)
  store .testMax77958Started false
  store .testMax77958Completed false
  return i

/-- `test_max77958_interrupt`. -/
def testInterrupt [DriverHeader] (patience : Nat) : Driver Unit := do
  rp2040Log "test_max77958_interrupt started...\n" []
  setInterruptMasksAllMasked
  let i ← driveInterrupt patience
  setInterruptMasks
  store .testMax77958InterruptBool false
  rp2040Log "test_max77958_interrupt: PASSED after %lu milliseconds.\n" [.int (i * 10 : Nat)]

end Max77958

/-! ## The other devices -/

/-- `test_max77976_get_FSW`. -/
def Max77976.testGetFsw : Firmware Unit := do
  rp2040Log "test_max77976_get_FSW started...\n" []
  setInterruptMasksAllMasked
  i2cWriteErrorHandling .i2c1 addr [regChgCnfg08] true
  let rxdata := (← i2cReadErrorHandling .i2c1 addr 1 false).get ⟨0, Nat.zero_lt_one⟩
  if rxdata ≠ 0x0 then
    rp2040Log "MAX77976 FSW Not 0x0. Exiting.\n" []
    assertFalse
  setInterruptMasks
  rp2040Log "test_max77976_get_FSW PASSED. Read register 0x1E to be %x.\n" [.byte rxdata]

/-- `test_drv8830_get_faults`. -/
def Drv8830.testGetFaults : Firmware Unit := do
  rp2040Log "test_drv8830_get_faults starting...\n" []
  clearFaults
  rp2040Log "test_drv8830_get_faults: PASSED.\n" []

namespace StartUp

/-- `test_max77976_get_id`, which passes a null pointer for the byte to write. -/
def testMax77976GetId : Starting Unit := do
  platform (rp2040Log "test_max77976_get_id started...\n" [])
  platform Max77976.setInterruptMasksAllMasked
  let byte : UInt8 ← start .loadNull
  platform do
    i2cWriteErrorHandling .i2c1 Max77976.addr [byte] true
    let rxdata := (← i2cReadErrorHandling .i2c1 Max77976.addr 1 false).get ⟨0, Nat.zero_lt_one⟩
    if rxdata ≠ 0x76 then
      rp2040Log "MAX77976 not responding. Exiting.\n" []
      assertFalse
    Max77976.setInterruptMasks
    rp2040Log "test_max77976_get_id PASSED. Read CHIP_ID %x.\n" [.byte rxdata]

/-- The opcode tests, in the order of `robot_unit_tests`. -/
def opcodeTests : List (Firmware Unit) :=
  [Max77958.testBcCtrl1Read, Max77958.testBcCtrl2Read, Max77958.testControl1Read,
    Max77958.testCcCtrl1Read, Max77958.testCcCtrl4Read, Max77958.testGpioControlRead,
    Max77958.testGpio0Gpio1AdcRead, Max77958.testSnkPdoRequest, Max77958.testGetCustomerConfig]

/-- The tests of the MAX77958. -/
def max77958Tests [DriverHeader] (patience : Nat) : Driver Unit := do
  Max77958.testGetId
  Max77958.testStatusBlockReadAll
  opcodeTests.forM fun test => test
  Max77958.testInterrupt patience

/-- The tests of the other devices after that of the charger's identity. -/
def deviceTests : Firmware Unit := do
  Max77976.testGetFsw
  Max77976.testInterrupt
  Ncp3901.testInterrupt
  Drv8830.testGetFaults
  Drv8830.testInterrupt

/-- `robot_unit_tests`, with the buffers of the MAX77958 driver before and after. -/
def robotUnitTests [DriverHeader] (patience : Nat) (buffers : Max77958.Buffers) :
    Starting Max77958.Buffers := do
  platform (rp2040Log "----------Running robot unit tests-----------\n" [])
  let (_, buffers) ← platform ((max77958Tests patience).run buffers)
  testMax77976GetId
  platform deviceTests
  platform (rp2040Log "-----------robot unit tests complete-----------\n" [])
  return buffers

end StartUp

end RobotFirmware
