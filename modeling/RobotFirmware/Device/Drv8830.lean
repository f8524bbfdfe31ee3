import RobotFirmware.Platform

/-!
# The DRV8830 motor drivers

Two drivers on `i2c0`, each with a control register and a fault register. Control values are
written without error handling; fault registers are read and cleared with it. The pins that
`drv8830_init` stores are the constants that `on_start` passes to it.
-/

namespace RobotFirmware.Drv8830

/-- `Motor`. -/
inductive Motor where
  | left
  | right
  deriving DecidableEq

/-- `MOTOR_LEFT_ADDRESS`. -/
def motorLeftAddress : UInt8 := 0x60
/-- `MOTOR_RIGHT_ADDRESS`. -/
def motorRightAddress : UInt8 := 0x62
/-- `DRV8830_REG_CONTROL`. -/
def regControl : UInt8 := 0x0
/-- `DRV8830_REG_FAULT`. -/
def regFault : UInt8 := 0x1
/-- `DRV8830_FAULT_BIT_FAULT`. -/
def faultBitFault : UInt8 := 0
/-- `DRV8830_FAULT1`, the pin stored in `_gpio_fault1`. -/
def gpioFault1 : Nat := 10
/-- `DRV8830_FAULT2`, the pin stored in `_gpio_fault2`. -/
def gpioFault2 : Nat := 11
/-- `drv8830_irq_mask`. -/
def irqMask : UInt32 := gpioIrqEdgeFall
/-- The second byte of a write that clears a fault register. -/
def clearBit : UInt8 := (1 : UInt8) <<< 7

/-- `drv8830_on_interrupt`. -/
def onInterrupt (gpio : Nat) (eventMask : UInt32) : Firmware Unit := do
  if eventMask &&& irqMask ≠ 0 then
    gpioAcknowledgeIrq gpio irqMask
    callQueueTryAdd .drv8830FaultHandler (Int32.ofNat gpio)
    if ← load .testDrv8830Started then
      callQueueTryAdd .drv8830TestResponse 1

/-- The part of `drv8830_fault_handler` after the driver has been found. -/
def handleFault (addr : UInt8) (motor : String) : Firmware Int32 := do
  i2cWriteErrorHandling .i2c0 addr [regFault] true
  let faultValues := (← i2cReadErrorHandling .i2c0 addr 1 false)[0]
  if faultValues &&& (1 <<< faultBitFault) = 0 then
    -- a status interrupt without a fault: only clear it
    i2cWriteErrorHandling .i2c0 addr [regFault, clearBit] false
    return 0
  else
    rp2040Log "%s motor fault\n" [.str motor]
    rp2040Log "Fault values for Motor %s: 0x%x\n" [.str motor, .byte faultValues]
    return 0

/-- `drv8830_fault_handler`. -/
def faultHandler (gpio : Int32) : Firmware Int32 := do
  if gpio = Int32.ofNat gpioFault1 then handleFault motorLeftAddress "Left"
  else if gpio = Int32.ofNat gpioFault2 then handleFault motorRightAddress "Right"
  else
    rp2040Log "Error: invalid motor fault\n" []
    return -1

/-- `drv8830_test_response`. -/
def testResponse : Firmware Int32 := do
  store .testDrv8830Completed true
  return 0

/-- `test_drv8830_interrupt`. The second wait goes on with the rounds that the first one has left,
and `test_drv8830_completed` is not reset after it. -/
def testInterrupt : Firmware Unit := do
  rp2040Log "test_drv8830_interrupt starting...\n" []
  store .testDrv8830Started true
  movePin gpioFault1 (perform (.gpioSetDir gpioFault1 true)) false
    "test_drv8830_interrupt: prior to driving low GPIO%d. Current Value:%d\n"
    "ERROR: test_drv8830_interrupt: GPIO%d was not driven low. Current Value:%d\n"
    "test_drv8830_interrupt: after driving low GPIO%d. Current Value:%d\n"
  let left ← waitForTest .testDrv8830Completed "ERROR: test_drv8830_interrupt timed out\n"
    testRounds
  perform (.gpioSetDir gpioFault1 false)
  perform (.gpioPullUp gpioFault1)
  store .testDrv8830Started false
  store .testDrv8830Completed false
  rp2040Log "test_drv8830_interrupt: Encoder 1 PASSED after %lu milliseconds.\n" [waitedMs left]
  store .testDrv8830Started true
  perform (.gpioSetDir gpioFault2 true)
  let left ← waitForTest .testDrv8830Completed "ERROR: test_drv8830_interrupt timed out\n" left
  perform (.gpioSetDir gpioFault2 false)
  perform (.gpioPullUp gpioFault2)
  store .testDrv8830Started false
  rp2040Log "test_drv8830_interrupt: Encoder 2 PASSED after %lu milliseconds.\n" [waitedMs left]

/-- The address that `set_motor_control` picks. -/
def Motor.address : Motor → UInt8
  | .left => motorLeftAddress
  | .right => motorRightAddress

/-- `set_motor_control`. -/
def setMotorControl (motor : Motor) (controlValue : UInt8) : Firmware Unit := do
  let _ ← perform (.i2cWriteBlocking .i2c0 motor.address [regControl, controlValue] false)

/-- One round of the loop in `drv8830_get_faults`. -/
def readFault (addr : UInt8) : Firmware UInt8 := do
  i2cWriteErrorHandling .i2c0 addr [regFault] true
  return (← i2cReadErrorHandling .i2c0 addr 1 false)[0]

/-- One round of the loop in `drv8830_clear_faults`. -/
def clearFault (i : Nat) (addr : UInt8) : Firmware Unit := do
  i2cWriteErrorHandling .i2c0 addr [regFault, clearBit] false
  let faultValue ← readFault addr
  if faultValue &&& 1 ≠ 0 then
    rp2040Log "ERROR: Motor %d cannot clear faults. Exiting.\n" [.int i]
    assertFalse

/-- `drv8830_clear_faults`. -/
def clearFaults : Firmware Unit := do
  clearFault 0 motorLeftAddress
  clearFault 1 motorRightAddress

/-- `drv8830_get_faults`, with `fault_values` as its result. -/
def getFaults : Firmware (UInt8 × UInt8) := do
  let left ← readFault motorLeftAddress
  let right ← readFault motorRightAddress
  clearFaults
  return (left, right)

end RobotFirmware.Drv8830
