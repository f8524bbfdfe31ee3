import RobotFirmware.Device.Bq27742G1
import RobotFirmware.Device.Drv8830
import RobotFirmware.Device.Max77958
import RobotFirmware.Device.Max77976
import RobotFirmware.Device.Peripherals

/-!
# The robot state, the interrupt handler and the call queue

Telemetry is gathered into `RP2040_STATE`, whose bytes are sent packed. The GPIO interrupt
handler runs on core 0 and picks a device by its pin. Core 1 takes entries from the call queue
and runs their functions.
-/

namespace RobotFirmware

/-! ## `RP2040_STATE` -/

/-- The member `ControlValues` of `MotorsState`. -/
structure ControlValues where
  /-- The level of the left motor. -/
  left : UInt8
  /-- The level of the right motor. -/
  right : UInt8

/-- The member `Faults` of `MotorsState`. -/
structure Faults where
  /-- The fault register of the left driver. -/
  left : UInt8
  /-- The fault register of the right driver. -/
  right : UInt8

/-- The member `EncoderCounts` of `MotorsState`. -/
structure EncoderCounts where
  /-- The count of the left encoder. -/
  left : UInt32
  /-- The count of the right encoder. -/
  right : UInt32

/-- The member `MotorsState`. -/
structure MotorsState where
  /-- What was last asked of the motors. -/
  controlValues : ControlValues
  /-- What the drivers report. -/
  faults : Faults
  /-- Where the wheels are. -/
  encoderCounts : EncoderCounts

/-- The member `BatteryDetails`. -/
structure BatteryDetails where
  /-- From `bq27742_g1_get_voltage`. -/
  voltage : UInt16
  /-- From `bq27742_g1_get_safety_stats`. -/
  safetyStatus : UInt8
  /-- From `bq27742_g1_get_temp`. -/
  temperature : UInt16
  /-- From `bq27742_g1_get_soh`. -/
  stateOfHealth : UInt8
  /-- From `bq27742_g1_get_flags`. -/
  flags : UInt16

/-- The member `ChargeSideUSB`. -/
structure ChargeSideUSB where
  /-- From `max77976_get_chg_details`. -/
  max77976ChgDetails : UInt32
  /-- From `ncp3901_wireless_charger_attached`. -/
  wirelessChargerAttached : UInt8
  /-- From `ncp3901_adc0`. -/
  usbChargerVoltage : UInt16
  /-- From `STWLC38JRM_adc1`. -/
  wirelessChargerVrect : UInt16

/-- `RP2040_STATE`. -/
structure Rp2040State where
  /-- Motors and encoders. -/
  motorsState : MotorsState
  /-- The fuel gauge. -/
  batteryDetails : BatteryDetails
  /-- The charger side. -/
  chargeSideUSB : ChargeSideUSB

/-- `memset(&rp2040_state_, 0, sizeof(rp2040_state_))`. -/
def Rp2040State.zero : Rp2040State where
  motorsState := ⟨⟨0, 0⟩, ⟨0, 0⟩, ⟨0, 0⟩⟩
  batteryDetails := ⟨0, 0, 0, 0, 0⟩
  chargeSideUSB := ⟨0, 0, 0, 0⟩

/-- A 16-bit member, low byte first. -/
def bytes16 (value : UInt16) : List UInt8 := [value.toUInt8, (value >>> 8).toUInt8]

/-- A 32-bit member, low byte first. -/
def bytes32 (value : UInt32) : List UInt8 :=
  [value.toUInt8, (value >>> 8).toUInt8, (value >>> 16).toUInt8, (value >>> 24).toUInt8]

/-- The packed bytes of the structure. -/
def Rp2040State.bytes (state : Rp2040State) : List UInt8 :=
  let motors := state.motorsState
  let battery := state.batteryDetails
  let charger := state.chargeSideUSB
  [motors.controlValues.left, motors.controlValues.right, motors.faults.left, motors.faults.right]
    ++
    bytes32 motors.encoderCounts.left ++ bytes32 motors.encoderCounts.right ++
    bytes16 battery.voltage ++ [battery.safetyStatus] ++ bytes16 battery.temperature ++
    [battery.stateOfHealth] ++ bytes16 battery.flags ++
    bytes32 charger.max77976ChgDetails ++ [charger.wirelessChargerAttached] ++
    bytes16 charger.usbChargerVoltage ++ bytes16 charger.wirelessChargerVrect

/-- `sizeof(rp2040_state_)`. -/
def Rp2040State.size : Nat := 29

/-- The structure takes `sizeof(rp2040_state_)` bytes. -/
theorem Rp2040State.bytes_length (state : Rp2040State) : state.bytes.length = size := rfl

/-! ## Telemetry -/

/-- `get_encoder_counts`. -/
def getEncoderCounts (state : Rp2040State) : Firmware Rp2040State := do
  let left ← quadEncoderGetCount 0
  let right ← quadEncoderGetCount 1
  return { state with
    motorsState.encoderCounts := ⟨left.toUInt32, right.toUInt32⟩ }

/-- `get_motor_faults`. -/
def getMotorFaults (state : Rp2040State) : Firmware Rp2040State := do
  let (left, right) ← Drv8830.getFaults
  return { state with motorsState.faults := ⟨left, right⟩ }

/-- `get_charger_state`. -/
def getChargerState (state : Rp2040State) : Firmware Rp2040State := do
  let details ← Max77976.getChgDetails
  let attached ← Ncp3901.wirelessChargerAttached
  let usbVoltage ← Ncp3901.adc0
  let vrect ← stwlc38jrmAdc1
  return { state with chargeSideUSB := ⟨details, attached.toUInt8, usbVoltage, vrect⟩ }

/-- `get_battery_state`. -/
def getBatteryState (state : Rp2040State) : Firmware Rp2040State := do
  let voltage ← Bq27742G1.getVoltage
  let safetyStatus ← Bq27742G1.getSafetyStats
  let temperature ← Bq27742G1.getTemp
  let stateOfHealth ← Bq27742G1.getSoh
  let flags ← Bq27742G1.getFlags
  return { state with
    batteryDetails := ⟨voltage, safetyStatus, temperature, stateOfHealth, flags⟩ }

/-- `get_state`. -/
def getState (state : Rp2040State) : Firmware Rp2040State := do
  let state ← getEncoderCounts state
  let state ← getMotorFaults state
  let state ← getChargerState state
  getBatteryState state

/-- `set_motor_levels`. -/
def setMotorLevels (state : Rp2040State) : Firmware Unit := do
  Drv8830.setMotorControl .left state.motorsState.controlValues.left
  Drv8830.setMotorControl .right state.motorsState.controlValues.right

/-! ## Interrupts and the call queue -/

/-- `GPIO_WIRELESS_AVAILABLE`. -/
def gpioWirelessAvailable : Nat := 4

/-- `robot_interrupt_handler`. -/
def robotInterruptHandler (gpio : Nat) (eventMask : UInt32) : Firmware Unit := do
  if gpio = gpioWirelessAvailable then Ncp3901.onWirelessChargerInterrupt gpio eventMask
  else if gpio = Max77976.gpioInterrupt then Max77976.onBatteryChargerInterrupt eventMask
  else if gpio = Max77958.gpioInterrupt then Max77958.onInterrupt eventMask
  else if gpio = Bq27742G1.gpioInterrupt then Bq27742G1.onInterrupt gpio eventMask
  else if gpio = Drv8830.gpioFault1 then Drv8830.onInterrupt gpio eventMask
  else if gpio = Drv8830.gpioFault2 then Drv8830.onInterrupt gpio eventMask

/-- `stop_core1`. -/
def stopCore1 : Firmware Int32 := do
  store .core1ShutdownRequested true
  return 0

/-- A function of the MAX77958 driver called with what its buffers hold, when nobody else uses
them during the call. -/
def callDriver (buffers : Max77958.Buffers) (function : Max77958.Driver Int32) :
    Firmware Int32 := do
  let (result, _) ← function.run buffers
  return result

/-- The call of a queued function in `call_queue_pop`. -/
def QueueEntry.call [Max77958.DriverHeader] (buffers : Max77958.Buffers) (entry : QueueEntry) :
    Firmware Int32 :=
  match entry.func with
  | .parseInterruptVals => callDriver buffers Max77958.parseInterruptVals
  | .max77958TestResponse => Max77958.testResponse
  | .pdMsgResponse => callDriver buffers Max77958.pdMsgResponse
  | .gpioSet => callDriver buffers (Max77958.gpioSet entry.data)
  | .customerConfigWrite => callDriver buffers Max77958.customerConfigWrite
  | .bcCtrl1Read => callDriver buffers Max77958.bcCtrl1Read
  | .bcCtrl2Read => callDriver buffers Max77958.bcCtrl2Read
  | .control1Read => callDriver buffers Max77958.control1Read
  | .ccCtrl1Read => callDriver buffers Max77958.ccCtrl1Read
  | .ccCtrl4Read => callDriver buffers Max77958.ccCtrl4Read
  | .gpioControlRead => callDriver buffers Max77958.gpioControlRead
  | .gpio0Gpio1AdcRead => callDriver buffers Max77958.gpio0Gpio1AdcRead
  | .snkPdoRequest => callDriver buffers Max77958.snkPdoRequest
  | .customerConfigRead => callDriver buffers Max77958.customerConfigRead
  | .drv8830FaultHandler => Drv8830.faultHandler entry.data
  | .drv8830TestResponse => Drv8830.testResponse
  | .ncp3901OnWirelessChargerAttached => Ncp3901.onWirelessChargerAttached
  | .ncp3901OnWirelessChargerDetached => Ncp3901.onWirelessChargerDetached
  | .ncp3901TestResponse => Ncp3901.testResponse
  | .max77976ParseInterruptVals => Max77976.parseInterruptVals
  | .max77976TestResponse => Max77976.testResponse
  | .bq27742G1ParseInterruptVals => Bq27742G1.parseInterruptVals
  | .stopCore1 => stopCore1

end RobotFirmware
