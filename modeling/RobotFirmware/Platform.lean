import RobotFirmware.Interaction.Monitor

/-!
# The platform under the firmware

The operations that the firmware performs on its SDK, its queues, its statics shared between
the cores, and its log. Every function of the firmware is a program over these operations, so
the same definition is read sequentially, against device answers, and in an interleaving of
the two cores.

A bus attempt is answered by its result code, and a read also by the bytes it stored.
A transfer is one step, and a throw lands in the `Catch` of the call that threw, although the
cores share the frame pointer of the exception library.
`assertFalse` is `assert(false)` of the assert-enabled build and never returns. A read beyond
an array returns whatever lies there, and a store beyond one changes something unmodelled.
`enter` has no effect; it records in the trace that a function was called.
-/

namespace RobotFirmware

open Interaction

/-- The two controllers, `i2c0` and `i2c1`. -/
inductive I2c where
  | i2c0
  | i2c1
  deriving DecidableEq

/-- The functions that `queue_entry_t` can hold in the build without the scope test. -/
inductive EntryFunc where
  | parseInterruptVals
  | max77958TestResponse
  | pdMsgResponse
  | gpioSet
  | customerConfigWrite
  | bcCtrl1Read
  | bcCtrl2Read
  | control1Read
  | ccCtrl1Read
  | ccCtrl4Read
  | gpioControlRead
  | gpio0Gpio1AdcRead
  | snkPdoRequest
  | customerConfigRead
  | drv8830FaultHandler
  | drv8830TestResponse
  | ncp3901OnWirelessChargerAttached
  | ncp3901OnWirelessChargerDetached
  | ncp3901TestResponse
  | max77976ParseInterruptVals
  | max77976TestResponse
  | bq27742G1ParseInterruptVals
  | stopCore1
  deriving DecidableEq

/-- `queue_entry_t`. -/
structure QueueEntry where
  /-- The function to call. -/
  func : EntryFunc
  /-- Its argument. -/
  data : Int32
  deriving DecidableEq

/-- The boolean statics, shared between the cores. -/
inductive Flag where
  | opcodesFinished
  | testMax77958InterruptBool
  | testMax77958Started
  | testMax77958Completed
  | useMtpAccess
  | testDrv8830Started
  | testDrv8830Completed
  | testNcp3901Started
  | testNcp3901Completed
  | wirelessChargerAttached
  | testMax77976InterruptBool
  | testMax77976Started
  | testMax77976Completed
  | bq27742G1InterruptPending
  | core1ShutdownRequested
  deriving DecidableEq

/-- An argument of a formatted log message. -/
inductive LogArg where
  /-- An integer conversion. -/
  | int (value : Int)
  /-- A string conversion. -/
  | str (value : String)

/-- A byte for a log message. -/
def LogArg.byte (value : UInt8) : LogArg := .int value.toNat

/-- Calls that a trace records. -/
inductive Call where
  | getBlock
  | handlePacket (packetType : UInt8) (data : Vector UInt8 2)
  | resetPacketAndSendNack
  | onOpcodeCmdResponse
  | onPdMsgReceived
  | onChgtypeChange
  | onCcstatChange
  | onCcvcnstatChange
  | onCcistatChange
  | onCcpinstatChange
  deriving DecidableEq

/-- The operations of the platform. -/
inductive Op where
  | getcharTimeoutUs (us : Nat)
  | putchar (c : UInt8)
  | rp2040Log (format : String) (args : List LogArg)
  | rp2040LogAcquireLock
  | rp2040LogReleaseLock
  | rp2040GetByteCount
  | rp2040LogFlush
  | i2cWriteTimeoutUs (i2c : I2c) (addr : UInt8) (src : List UInt8) (nostop : Bool)
  | i2cReadTimeoutUs (i2c : I2c) (addr : UInt8) (len : Nat) (nostop : Bool)
  | i2cWriteBlocking (i2c : I2c) (addr : UInt8) (src : List UInt8) (nostop : Bool)
  | cexceptionTry
  | cexceptionThrow (result : Int)
  | cexceptionCatch
  | assertFalse
  | sleepMs (ms : Nat)
  | callQueueTryAdd (entry : QueueEntry)
  | opcodeQueueInit
  | opcodeQueueTryAdd (entry : QueueEntry)
  | opcodeQueueTryRemove
  | opcodeQueueGetLevel
  | storeOpCodeReturnBuf (bytes : Vector UInt8 33)
  | loadOpCodeReturnBuf
  | store (flag : Flag) (value : Bool)
  | load (flag : Flag)
  | await (flag : Flag)
  | gpioInit (gpio : Nat)
  | gpioPut (gpio : Nat) (value : Bool)
  | gpioSetDir (gpio : Nat) (out : Bool)
  | gpioPullUp (gpio : Nat)
  | gpioGet (gpio : Nat)
  | gpioSetIrqEnabled (gpio : Nat) (events : UInt32) (enabled : Bool)
  | gpioAcknowledgeIrq (gpio : Nat) (events : UInt32)
  | adcSelectInput (input : Nat)
  | adcRead
  | quadratureEncoderGetCount (sm : Nat)
  | strayRead (index : Nat)
  | strayStore (index : Nat)
  | enter (call : Call)

/-- What each operation is answered with. A received character is absent on a timeout. -/
abbrev Ans : Op → Type
  | .getcharTimeoutUs _ => Option UInt8
  | .rp2040GetByteCount => UInt16
  | .rp2040LogFlush => List UInt8
  | .i2cWriteTimeoutUs .. => Int
  | .i2cReadTimeoutUs _ _ len _ => Int × Vector UInt8 len
  | .i2cWriteBlocking .. => Int
  | .assertFalse => Empty
  | .callQueueTryAdd _ => Bool
  | .opcodeQueueTryAdd _ => Bool
  | .opcodeQueueTryRemove => Option QueueEntry
  | .opcodeQueueGetLevel => Nat
  | .loadOpCodeReturnBuf => Vector UInt8 33
  | .load _ => Bool
  | .gpioGet _ => Bool
  | .adcRead => UInt16
  | .quadratureEncoderGetCount _ => Int32
  | .strayRead _ => UInt8
  | _ => Unit

/-- The index of an access outside its array. -/
def Op.outside? : Op → Option Nat
  | .strayRead index => some index
  | .strayStore index => some index
  | _ => none

/-- The accesses of a trace that lie outside their arrays. -/
def strays (trace : List (Event Ans)) : List Nat := trace.filterMap fun event => event.op.outside?

/-- A piece of firmware. -/
abbrev Firmware (α : Type) : Type := Program Ans α

/-- Perform one operation. -/
abbrev perform (op : Op) : Firmware (Ans op) := Program.act op

/-- `rp2040_log`. -/
abbrev rp2040Log (format : String) (args : List LogArg) : Firmware Unit :=
  perform (.rp2040Log format args)

/-- `getchar_timeout_us`. -/
abbrev getcharTimeoutUs (us : Nat) : Firmware (Option UInt8) := perform (.getcharTimeoutUs us)

/-- The value of a static. -/
abbrev load (flag : Flag) : Firmware Bool := perform (.load flag)

/-- Assign to a static. -/
abbrev store (flag : Flag) (value : Bool) : Firmware Unit := perform (.store flag value)

/-- `gpio_get`. -/
abbrev gpioGet (gpio : Nat) : Firmware Bool := perform (.gpioGet gpio)

/-- `gpio_set_irq_enabled`. -/
abbrev gpioSetIrqEnabled (gpio : Nat) (events : UInt32) (enabled : Bool) : Firmware Unit :=
  perform (.gpioSetIrqEnabled gpio events enabled)

/-- `gpio_acknowledge_irq`. -/
abbrev gpioAcknowledgeIrq (gpio : Nat) (events : UInt32) : Firmware Unit :=
  perform (.gpioAcknowledgeIrq gpio events)

/-- A read beyond the end of an array. -/
abbrev strayRead (index : Nat) : Firmware UInt8 := perform (.strayRead index)

/-- `assert(false)`. -/
def assertFalse {α : Type} : Firmware α := do
  let impossible ← perform .assertFalse
  nomatch impossible

/-- `GPIO_IRQ_EDGE_FALL`. -/
def gpioIrqEdgeFall : UInt32 := 0x4
/-- `GPIO_IRQ_EDGE_RISE`. -/
def gpioIrqEdgeRise : UInt32 := 0x8

/-! ## Buses -/

/-- `MAX_RETRIES`. -/
def maxRetries : Nat := 3
/-- `RETRY_DELAY`. -/
def retryDelay : Nat := 10

/-- The `do … while` loop around a bus attempt, with `left` attempts left after this one. The
first result that is not negative ends it; otherwise the last result is thrown. -/
def i2cAttempts {α : Type} (attempt : Firmware (Int × α)) : Nat → Firmware (Except Int α)
  | 0 => do
    let (result, value) ← attempt
    if 0 ≤ result then return .ok value else return .error result
  | left + 1 => do
    let (result, value) ← attempt
    if 0 ≤ result then return .ok value
    else
      perform (.sleepMs retryDelay)
      i2cAttempts attempt left

/-- The body that both error-handling functions share: `Try` around the attempts, an early
return out of it, and `Catch` after the throw. -/
def i2cErrorHandling {α : Type} (message : String) (attempt : Firmware (Int × α)) :
    Firmware α := do
  perform .cexceptionTry
  match ← i2cAttempts attempt (maxRetries - 1) with
  | .ok value => return value
  | .error result =>
    perform (.cexceptionThrow result)
    perform .cexceptionCatch
    rp2040Log message [.int result, .int result]
    assertFalse

/-- `i2c_write_error_handling`. -/
def i2cWriteErrorHandling (i2c : I2c) (addr : UInt8) (src : List UInt8) (nostop : Bool) :
    Firmware Unit :=
  i2cErrorHandling "ERROR: During i2c_write. Returned value of %i %i \n" do
    let result ← perform (.i2cWriteTimeoutUs i2c addr src nostop)
    return (result, ())

/-- `i2c_read_error_handling`. -/
def i2cReadErrorHandling (i2c : I2c) (addr : UInt8) (len : Nat) (nostop : Bool) :
    Firmware (Vector UInt8 len) :=
  i2cErrorHandling "ERROR: During i2c_read. Returned value of %i %i \n"
    (perform (.i2cReadTimeoutUs i2c addr len nostop))

/-! ## The call queue -/

/-- `call_queue_try_add`. -/
def callQueueTryAdd (func : EntryFunc) (arg : Int32) : Firmware Unit := do
  let added : Bool ← perform (.callQueueTryAdd ⟨func, arg⟩)
  if !added then
    rp2040Log "ERROR: call_queue is full" []
    assertFalse

/-- `call_queue_try_add_nonblocking`. -/
def callQueueTryAddNonblocking (func : EntryFunc) (arg : Int32) : Firmware Bool :=
  perform (.callQueueTryAdd ⟨func, arg⟩)

/-! ## The tests of the interrupts -/

/-- A level for a log message. -/
def LogArg.level (value : Bool) : LogArg := .int value.toNat

/-- The part of a test that moves a pin and checks its level. -/
def movePin (gpio : Nat) (move : Firmware Unit) (level : Bool) (prior failed after : String) :
    Firmware Unit := do
  rp2040Log prior [.int gpio, .level (← gpioGet gpio)]
  move
  if (← gpioGet gpio) ≠ level then
    rp2040Log failed [.int gpio, .level (← gpioGet gpio)]
    assertFalse
  rp2040Log after [.int gpio, .level (← gpioGet gpio)]

/-- The rounds after which a test stops waiting. -/
def testRounds : Nat := 1000

/-- The loop of a test that waits for a flag, with `left` more rounds until `i > 1000`. The result
is the number of rounds left. -/
def waitForTest (flag : Flag) (timedOut : String) : Nat → Firmware Nat
  | 0 => do
    if ← load flag then return 0
    else
      perform (.sleepMs 10)
      rp2040Log timedOut []
      assertFalse
  | left + 1 => do
    if ← load flag then return left + 1
    else
      perform (.sleepMs 10)
      waitForTest flag timedOut left

/-- The milliseconds that a test has waited. -/
def waitedMs (left : Nat) : LogArg := .int ((testRounds - left) * 10 : Nat)

end RobotFirmware
