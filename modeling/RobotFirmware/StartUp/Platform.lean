import RobotFirmware.Interaction.Embedding
import RobotFirmware.Platform

/-!
# The platform at start-up

The operations that only `on_start` and the functions behind it perform, next to those of the rest
of the firmware: setting up the SDK's drivers, the queues, the other core and the pins.
-/

namespace RobotFirmware.StartUp

open Interaction

/-- The functions that `gpio_set_function` selects. -/
inductive GpioFunction where
  | i2c
  | pwm
  deriving DecidableEq

/-- The operations of the platform at start-up. -/
inductive StartOp where
  | platform (op : Op)
  | rp2040LogInit
  | stdioInitAll
  | stdioSetTranslateCrlf (translate : Bool)
  | gpioSetIrqCallback
  | irqSetEnabled (enabled : Bool)
  | callQueueInit (count : Nat)
  | resultsQueueInit (count : Nat)
  | multicoreLaunchCore1
  | i2cInit (i2c : I2c) (baudrate : Nat)
  | i2cReadBlocking (i2c : I2c) (addr : UInt8) (len : Nat) (nostop : Bool)
  | gpioSetFunction (gpio : Nat) (function : GpioFunction)
  | gpioDisablePulls (gpio : Nat)
  | adcInit
  | adcGpioInit (gpio : Nat)
  | pwmGpioToSliceNum (gpio : Nat)
  | pwmSetWrap (slice : Nat) (wrap : Nat)
  | pwmSetGpioLevel (gpio : Nat) (level : Nat)
  | pwmSetEnabled (slice : Nat) (enabled : Bool)
  | pioAddProgram
  | quadratureEncoderProgramInit (sm offset pin maxStepRate : Nat)
  | loadNull

/-- What each operation is answered with. `loadNull` reads the byte behind a null pointer. -/
abbrev StartAns : StartOp → Type
  | .platform op => Ans op
  | .i2cReadBlocking _ _ len _ => Int × Vector UInt8 len
  | .pwmGpioToSliceNum _ => Nat
  | .pioAddProgram => Nat
  | .loadNull => UInt8
  | _ => Unit

/-- A function that runs at start-up. -/
abbrev Starting (α : Type) : Type := Program StartAns α

/-- Perform one operation. -/
abbrev start (op : StartOp) : Starting (StartAns op) := Program.act op

/-- Run a function of the rest of the firmware. -/
abbrev platform {α : Type} (function : Firmware α) : Starting α := function.embed StartOp.platform

end RobotFirmware.StartUp
