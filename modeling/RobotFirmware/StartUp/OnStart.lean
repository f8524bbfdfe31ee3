import RobotFirmware.Encoder.Odometry
import RobotFirmware.SerialCommManager
import RobotFirmware.StartUp.UnitTests

/-!
# The start of the firmware

`on_start` in the build for the robot without the scope test and with the log in memory. It sets
up the platform and the devices, turns both motors for a moment, runs the self tests, and looks
for devices on both buses.
-/

namespace RobotFirmware.StartUp

open Interaction
open Max77958 (DriverHeader)

/-- The statics that `on_start` passes from one function to the next. -/
structure Statics where
  /-- The transfer buffers of the MAX77958 driver. -/
  buffers : Max77958.Buffers
  /-- `encoders`. -/
  encoders : Encoder.EncoderRecord × Encoder.EncoderRecord
  /-- The statics of the serial protocol. -/
  serial : SerialState

/-- The statics before `main`. -/
def Statics.initial : Statics where
  buffers := .zero
  encoders := Encoder.encoders
  serial := .static

/-! ## Looking for devices -/

/-- `MAX_DEVICES`. -/
abbrev maxDevices : Nat := 128

/-- The allocated block and the number of addresses in it. -/
structure Scan where
  /-- `found_addresses`. -/
  foundAddresses : Vector UInt8 maxDevices
  /-- `count`. -/
  count : UInt8

/-- `found_addresses[count] = value`. -/
def Scan.store (scan : Scan) (value : UInt8) : Starting (Vector UInt8 maxDevices) :=
  if inside : scan.count.toNat < maxDevices then
    return scan.foundAddresses.set scan.count.toNat value
  else do
    platform (perform (.strayStore scan.count.toNat))
    return scan.foundAddresses

/-- The addresses from 0x08 to 0x77. -/
def scannedAddresses : List UInt8 := (List.range (0x78 - 0x08)).map fun i => 0x08 + UInt8.ofNat i

/-- One round of the loop in `i2c_scan`. -/
def scanRound (i2c : I2c) (scan : Scan) (address : UInt8) : Starting Scan := do
  platform (perform (.sleepMs 10))
  let (result, _) ← start (.i2cReadBlocking i2c address 1 false)
  if 0 < result then return ⟨← scan.store address, scan.count + 1⟩
  else return scan

/-- `i2c_scan`, on the block that `malloc` returns. -/
def i2cScan (i2c : I2c) (block : Vector UInt8 maxDevices) :
    Starting (Vector UInt8 maxDevices) := do
  let scan ← scannedAddresses.foldlM (scanRound i2c) ⟨block, 0⟩
  scan.store 0

/-! ## The parts of the start -/

/-- `init_queues`. -/
def initQueues : Starting Unit := do
  start (.callQueueInit 256)
  start (.resultsQueueInit 256)

/-- `on_start` up to the launch of core 1. -/
def startPlatform : Starting Unit := do
  start .rp2040LogInit
  platform (rp2040Log "=== FIRMWARE RESTART ===\n" [])
  platform (rp2040Log "on_start\n" [])
  start .stdioInitAll
  start (.stdioSetTranslateCrlf false)
  start .gpioSetIrqCallback
  start (.irqSetEnabled true)
  initQueues
  start .multicoreLaunchCore1

/-- `on_start` from there to `max77958_init`. -/
def startChargers : Starting Unit := do
  i2cStart
  start .adcInit
  turnOnLeds
  stwlc38jrmInit wirelessChgEn wirelessChgVrect
  ncp3901Init
  let _ ← platform Max77976.init
  platform (Sn74ahc125rgyr.init Sn74ahc125rgyr.gpio1)
  platform (Sn74ahc125rgyr.init Sn74ahc125rgyr.gpio2)

/-- `on_start` from `max77958_init` to the encoders. -/
def startRobot [DriverHeader] (buffers : Max77958.Buffers) : Starting Max77958.Buffers := do
  let (_, buffers) ← platform ((Max77958.init : Max77958.Driver Unit).run buffers)
  platform (perform (.sleepMs 1000))
  platform (rp2040Log "done waiting 2\n" [])
  bq27742G1Init
  platform Bq27742G1.fwVersionCheck
  platform (Sn74ahc125rgyr.onEndOfStart Sn74ahc125rgyr.gpio1)
  platform (Sn74ahc125rgyr.onEndOfStart Sn74ahc125rgyr.gpio2)
  platform Drv8830.init
  platform (perform (.sleepMs 1000))
  encoderInit
  platform (rp2040Log "encoders initialize. Waiting 1 second\n" [])
  platform (perform (.sleepMs 1000))
  platform (rp2040Log "done waiting, Running unit tests.\n" [])
  return buffers

/-- The part of `on_start` that turns the motors and watches the encoders. -/
def turnMotors (encoders : Encoder.EncoderRecord × Encoder.EncoderRecord) :
    Firmware (Encoder.EncoderRecord × Encoder.EncoderRecord) := do
  Drv8830.setVoltage .left 2.5
  Drv8830.setVoltage .right 2.5
  let encoders ← Program.iterate Encoder.quadEncoderUpdate 50 encoders
  rp2040Log "done counting, turning off motors\n" []
  Drv8830.setVoltage .left 0
  Drv8830.setVoltage .right 0
  return encoders

/-- `on_start` after the self tests. -/
def lookAround [DriverHeader] (blocks : I2c → Vector UInt8 maxDevices)
    (buffers : Max77958.Buffers) : Starting Max77958.Buffers := do
  let _ ← i2cScan .i2c0 (blocks .i2c0)
  let _ ← i2cScan .i2c1 (blocks .i2c1)
  let (_, buffers) ← platform ((do
    Max77958.readReg 0x9
    Max77958.readReg 0xA
    Max77958.readReg 0xD : Max77958.Driver Unit).run buffers)
  platform (rp2040Log "on_start complete\n" [])
  return buffers

/-- `on_start`. The rounds of the patient self test are counted as far as `patience` goes, and the
blocks are what `malloc` returns. -/
def onStart [DriverHeader] (patience : Nat) (blocks : I2c → Vector UInt8 maxDevices)
    (rp2040State : Rp2040State) (statics : Statics) : Starting Statics := do
  startPlatform
  startChargers
  let buffers ← startRobot statics.buffers
  let encoders ← platform (turnMotors statics.encoders)
  let buffers ← robotUnitTests patience buffers
  let serial := serialCommManagerInit rp2040State statics.serial
  let buffers ← lookAround blocks buffers
  return ⟨buffers, encoders, serial⟩

/-- `main`, with some rounds of its loop. -/
def main [DriverHeader] (patience : Nat) (blocks : I2c → Vector UInt8 maxDevices)
    (rp2040State : Rp2040State) (rounds : Nat) : Starting Unit := do
  let statics ← onStart patience blocks rp2040State .initial
  platform (perform (.sleepMs 1000))
  platform (do let _ ← serve rounds statics.serial)

end RobotFirmware.StartUp
