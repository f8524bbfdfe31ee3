import RobotFirmware.Retries
import RobotFirmware.Robot
import Mathlib.Tactic.SplitIfs

/-!
# Footprints

Which operations the code outside the MAX77958 driver and the serial protocol performs,
whatever it is answered. Telemetry and the handlers of the other devices stay on their own
bus addresses, never write a motor control register, and touch neither the serial line nor
the opcode queue.
-/

namespace RobotFirmware

open Interaction

/-- Logging, waiting and raising errors. -/
def Op.Routine : Op → Prop
  | .rp2040Log .. => True
  | .sleepMs _ => True
  | .cexceptionTry => True
  | .cexceptionThrow _ => True
  | .cexceptionCatch => True
  | .assertFalse => True
  | _ => False

/-- The operations on the other devices: the fuel gauge, the fault registers of the motor
drivers, the charger's own bus, and statics that are not the flag of the opcode queue. -/
@[simp] def Op.Peripheral : Op → Prop
  | .rp2040Log .. => True
  | .sleepMs _ => True
  | .cexceptionTry => True
  | .cexceptionThrow _ => True
  | .cexceptionCatch => True
  | .assertFalse => True
  | .i2cWriteTimeoutUs .i2c0 addr src _ =>
    addr = Bq27742G1.addr ∨ (∃ motor, addr = Drv8830.Motor.address motor) ∧
      src.head? = some Drv8830.regFault
  | .i2cReadTimeoutUs .i2c0 addr _ _ =>
    addr = Bq27742G1.addr ∨ ∃ motor, addr = Drv8830.Motor.address motor
  | .i2cWriteTimeoutUs .i2c1 .. => True
  | .i2cReadTimeoutUs .i2c1 .. => True
  | .load flag => flag ≠ .opcodesFinished
  | .store flag _ => flag ≠ .opcodesFinished
  | .gpioGet _ => True
  | .gpioSetIrqEnabled .. => True
  | .gpioAcknowledgeIrq .. => True
  | .adcSelectInput _ => True
  | .adcRead => True
  | .quadratureEncoderGetCount _ => True
  | .strayRead _ => True
  | _ => False

/-- Logging, the queues and the flags. -/
def Op.Queueing : Op → Prop
  | .rp2040Log .. => True
  | .assertFalse => True
  | .callQueueTryAdd _ => True
  | .opcodeQueueTryAdd _ => True
  | .opcodeQueueTryRemove => True
  | .opcodeQueueGetLevel => True
  | .load _ => True
  | .store .. => True
  | _ => False

/-- Routine operations are allowed everywhere. -/
theorem Op.Routine.peripheral {op : Op} (routine : op.Routine) : op.Peripheral := by
  cases op <;> first | exact trivial | exact routine.elim

section Buses

variable {kind : Op → Prop} {α : Type}

/-- Attempts on a bus stay where a single attempt does. -/
theorem i2cAttempts_within {attempt : Firmware (Int × α)} (inside : attempt.Within kind)
    (delayed : kind (.sleepMs retryDelay)) (left : Nat) :
    (i2cAttempts attempt left).Within kind := by
  induction left with
  | zero => exact inside.bind fun reached => .ite trivial trivial
  | succ left ih =>
    exact inside.bind fun reached => .ite trivial ⟨delayed, fun _ => ih⟩

/-- A monitor that ignores routine operations follows an exchange with error handling: failed
attempts leave it as it was, and it returns only the value of an attempt that succeeded. -/
theorem guards_i2cErrorHandling {m : Monitor Ans} {attempt : Firmware (Int × α)} {state : m.State}
    {post : m.State → α → Prop} (ignores : m.Ignores Op.Routine) (message : String)
    (attempted : m.Guards state attempt fun final reached =>
      if 0 ≤ reached.1 then post final reached.2 else final = state) :
    m.Guards state (i2cErrorHandling message attempt) post := by
  have stays (op : Op) (routine : op.Routine) {made : m.State} (same : made = state) :
      m.allows made op ∧ ∀ answer, m.next made op answer = state := by
    subst same
    exact ignores made op routine
  have goes (op : Op) (routine : op.Routine) {program : Ans op → Firmware α} {made : m.State}
      (same : made = state) (later : ∀ answer, m.Guards state (program answer) post) :
      m.Guards made (perform op >>= program) post := by
    obtain ⟨allowed, unchanged⟩ := stays op routine same
    exact ⟨allowed, fun answer => by rw [unchanged]; exact later answer⟩
  refine @guards_errorHandling m α attempt state (fun _ made => made = state) post message
    (stays .cexceptionTry trivial rfl) ?_ (fun _ _ same => stays (.sleepMs retryDelay) trivial same)
    fun result made same => ?_
  · rintro made state _ rfl
    exact attempted
  · exact goes (.cexceptionThrow result) trivial same fun _ => goes .cexceptionCatch trivial rfl
      fun _ => goes (.rp2040Log message _) trivial rfl fun _ => goes .assertFalse trivial rfl
        fun impossible => nomatch impossible

/-- A write with error handling, under a monitor that does not see failed writes. -/
theorem guards_i2cWriteErrorHandling {m : Monitor Ans} {state : m.State} {i2c : I2c} {addr : UInt8}
    {src : List UInt8} {nostop : Bool} {post : m.State → Unit → Prop}
    (ignores : m.Ignores Op.Routine)
    (allowed : m.allows state (.i2cWriteTimeoutUs i2c addr src nostop))
    (failed : ∀ result : Int, result < 0 →
      m.next state (.i2cWriteTimeoutUs i2c addr src nostop) result = state)
    (written : ∀ result : Int, 0 ≤ result →
      post (m.next state (.i2cWriteTimeoutUs i2c addr src nostop) result) ()) :
    m.Guards state (i2cWriteErrorHandling i2c addr src nostop) post := by
  refine guards_i2cErrorHandling ignores _ ⟨allowed, fun (result : Int) => ?_⟩
  change if 0 ≤ result then _ else _
  split_ifs with success
  · exact written result success
  · exact failed result (Int.not_le.mp success)

/-- A read with error handling, under a monitor that does not see failed reads. -/
theorem guards_i2cReadErrorHandling {m : Monitor Ans} {state : m.State} {i2c : I2c} {addr : UInt8}
    {len : Nat} {nostop : Bool} {post : m.State → Vector UInt8 len → Prop}
    (ignores : m.Ignores Op.Routine)
    (allowed : m.allows state (.i2cReadTimeoutUs i2c addr len nostop))
    (failed : ∀ (result : Int) (bytes : Vector UInt8 len), result < 0 →
      m.next state (.i2cReadTimeoutUs i2c addr len nostop) (result, bytes) = state)
    (obtained : ∀ (result : Int) (bytes : Vector UInt8 len), 0 ≤ result →
      post (m.next state (.i2cReadTimeoutUs i2c addr len nostop) (result, bytes)) bytes) :
    m.Guards state (i2cReadErrorHandling i2c addr len nostop) post := by
  refine guards_i2cErrorHandling ignores _ ⟨allowed, fun answer => ?_⟩
  obtain ⟨result, bytes⟩ : Int × Vector UInt8 len := answer
  change if 0 ≤ result then _ else _
  split_ifs with success
  · exact obtained result bytes success
  · exact failed result bytes (Int.not_le.mp success)

/-- What error handling adds to an attempt: the frame of exceptions, delays and its own message. -/
theorem i2cErrorHandling_allowed {attempt : Firmware (Int × α)} (inside : attempt.Within kind)
    {message : String} (tried : kind .cexceptionTry) (delayed : kind (.sleepMs retryDelay))
    (thrown : ∀ result, kind (.cexceptionThrow result)) (caught : kind .cexceptionCatch)
    (logged : ∀ args, kind (.rp2040Log message args)) (stopped : kind .assertFalse) :
    (i2cErrorHandling message attempt).Within kind := by
  refine ⟨tried, fun _ => (i2cAttempts_within inside delayed _).bind fun reached => ?_⟩
  cases reached with
  | ok value => exact trivial
  | error result =>
    exact ⟨thrown _, fun _ => ⟨caught, fun _ => ⟨logged _, fun _ =>
      ⟨stopped, fun impossible => nomatch impossible⟩⟩⟩⟩

/-- Error handling adds only routine operations to an attempt. -/
theorem i2cErrorHandling_within {attempt : Firmware (Int × α)} (inside : attempt.Within kind)
    (routine : ∀ op, Op.Routine op → kind op) (message : String) :
    (i2cErrorHandling message attempt).Within kind :=
  i2cErrorHandling_allowed inside (routine _ trivial) (routine _ trivial)
    (fun _ => routine _ trivial) (routine _ trivial) (fun _ => routine _ trivial)
    (routine _ trivial)

/-- A write with error handling performs its own attempts and routine operations. -/
theorem i2cWriteErrorHandling_within {i2c : I2c} {addr : UInt8} {src : List UInt8} {nostop : Bool}
    (inside : kind (.i2cWriteTimeoutUs i2c addr src nostop))
    (routine : ∀ op, Op.Routine op → kind op) :
    (i2cWriteErrorHandling i2c addr src nostop).Within kind :=
  i2cErrorHandling_within ((Program.Within.act inside).bind fun _ => .done _) routine _

/-- A read with error handling performs its own attempts and routine operations. -/
theorem i2cReadErrorHandling_within {i2c : I2c} {addr : UInt8} {len : Nat} {nostop : Bool}
    (inside : kind (.i2cReadTimeoutUs i2c addr len nostop))
    (routine : ∀ op, Op.Routine op → kind op) :
    (i2cReadErrorHandling i2c addr len nostop).Within kind :=
  i2cErrorHandling_within (.act inside) routine _

/-- `call_queue_try_add` offers its entry, and logs and stops when it is refused. -/
theorem callQueueTryAdd_allowed {func : EntryFunc} {arg : Int32}
    (routine : ∀ op, Op.Routine op → kind op) (queued : kind (.callQueueTryAdd ⟨func, arg⟩)) :
    (callQueueTryAdd func arg).Within kind := by
  have refused : Program.Within kind (do
      rp2040Log "ERROR: call_queue is full" []
      assertFalse : Firmware Unit) :=
    ⟨routine _ trivial, fun _ => ⟨routine _ trivial, fun impossible => nomatch impossible⟩⟩
  exact ⟨queued, fun _ => .ite refused trivial⟩

/-- The part that the handlers of most devices share: acknowledge, queue a function, and
queue the test response while a test is waiting. -/
theorem queueFunctions_allowed {gpio : Nat} {mask : UInt32} {func response : EntryFunc}
    {arg : Int32} {flag : Flag} (routine : ∀ op, Op.Routine op → kind op)
    (acknowledged : kind (.gpioAcknowledgeIrq gpio mask))
    (queued : kind (.callQueueTryAdd ⟨func, arg⟩)) (loaded : kind (.load flag))
    (responded : kind (.callQueueTryAdd ⟨response, 1⟩)) :
    Program.Within kind (do
      gpioAcknowledgeIrq gpio mask
      callQueueTryAdd func arg
      if ← load flag then callQueueTryAdd response 1) := by
  have respond : (callQueueTryAdd response 1).Within kind :=
    callQueueTryAdd_allowed routine responded
  exact ⟨acknowledged, fun _ => (callQueueTryAdd_allowed routine queued).bind fun _ =>
    ⟨loaded, fun _ => .ite respond trivial⟩⟩

end Buses

/-- A message is routine. -/
theorem log_allowed {kind : Op → Prop} (routine : ∀ op, Op.Routine op → kind op) (format : String)
    (args : List LogArg) : (rp2040Log format args).Within kind :=
  ⟨routine _ trivial, fun _ => trivial⟩

/-! ## The motor drivers -/

namespace Drv8830

/-- A kind with the transfers from and to the fault registers. -/
structure Exchanges (kind : Op → Prop) : Prop where
  routine : ∀ op, op.Routine → kind op
  write : ∀ (motor : Motor) rest nostop,
    kind (.i2cWriteTimeoutUs .i2c0 motor.address (regFault :: rest) nostop)
  read : ∀ (motor : Motor) len nostop, kind (.i2cReadTimeoutUs .i2c0 motor.address len nostop)

/-- The fault registers are on other devices than the MAX77958. -/
theorem exchanges_peripheral : Exchanges Op.Peripheral where
  routine _ := Op.Routine.peripheral
  write motor _ _ := .inr ⟨⟨motor, rfl⟩, rfl⟩
  read motor _ _ := .inr ⟨motor, rfl⟩

section Faults

variable {kind : Op → Prop} (exchanges : Exchanges kind)

include exchanges

/-- A write to a fault register. -/
theorem writeFault_allowed (motor : Motor) (rest : List UInt8) (nostop : Bool) :
    (i2cWriteErrorHandling .i2c0 motor.address (regFault :: rest) nostop).Within kind :=
  i2cWriteErrorHandling_within (exchanges.write _ _ _) exchanges.routine

/-- A fault register is selected and read. -/
theorem readFault_allowed (motor : Motor) : (readFault motor.address).Within kind :=
  (writeFault_allowed exchanges motor [] true).bind fun _ =>
    (i2cReadErrorHandling_within (exchanges.read _ _ _) exchanges.routine).bind fun _ => trivial

/-- It is cleared and read again. -/
theorem clearFault_allowed (i : Nat) (motor : Motor) :
    (clearFault i motor.address).Within kind := by
  refine (writeFault_allowed exchanges motor [clearBit] false).bind fun _ =>
    (readFault_allowed exchanges motor).bind fun _ => .ite ?_ trivial
  exact ⟨exchanges.routine _ trivial, fun _ => ⟨exchanges.routine _ trivial, fun impossible =>
    nomatch impossible⟩⟩

/-- `drv8830_clear_faults` exchanges with the fault registers only. -/
theorem clearFaults_allowed : clearFaults.Within kind :=
  (clearFault_allowed exchanges 0 .left).bind fun _ => clearFault_allowed exchanges 1 .right

/-- So does `drv8830_get_faults`. -/
theorem getFaults_allowed : getFaults.Within kind :=
  (readFault_allowed exchanges .left).bind fun _ => (readFault_allowed exchanges .right).bind
    fun _ => (clearFaults_allowed exchanges).bind fun _ => trivial

/-- And the handler that an interrupt of a motor driver queues. -/
theorem faultHandler_allowed (gpio : Int32) : (faultHandler gpio).Within kind := by
  have handled (motor : Motor) (name : String) : (handleFault motor.address name).Within kind := by
    refine (writeFault_allowed exchanges motor [] true).bind fun _ =>
      (i2cReadErrorHandling_within (exchanges.read motor 1 false) exchanges.routine).bind
        fun faultValues => .ite ?_ ?_
    · exact (writeFault_allowed exchanges motor [clearBit] false).bind fun _ => trivial
    · exact (log_allowed exchanges.routine _ _).bind fun _ => log_allowed exchanges.routine _ _
  exact .ite (handled .left _) (.ite (handled .right _) (log_allowed exchanges.routine _ _))

end Faults

end Drv8830

/-! ## The fuel gauge -/

namespace Bq27742G1

/-- A kind with every transfer from and to the fuel gauge. -/
structure Exchanges (kind : Op → Prop) : Prop where
  routine : ∀ op, op.Routine → kind op
  write : ∀ src nostop, kind (.i2cWriteTimeoutUs .i2c0 addr src nostop)
  read : ∀ len nostop, kind (.i2cReadTimeoutUs .i2c0 addr len nostop)

/-- The fuel gauge is another device than the MAX77958. -/
theorem exchanges_peripheral : Exchanges Op.Peripheral where
  routine _ := Op.Routine.peripheral
  write _ _ := .inl rfl
  read _ _ := .inl rfl

section Gauge

variable {kind : Op → Prop} (exchanges : Exchanges kind)

include exchanges

/-- A write to the gauge. -/
theorem write_allowed (src : List UInt8) (nostop : Bool) :
    (i2cWriteErrorHandling .i2c0 addr src nostop).Within kind :=
  i2cWriteErrorHandling_within (exchanges.write _ _) exchanges.routine

/-- A command is written and what it shows is read. -/
theorem readBytes_allowed (command : UInt8) (len : Nat) : (readBytes command len).Within kind :=
  (write_allowed exchanges _ _).bind fun _ =>
    i2cReadErrorHandling_within (exchanges.read _ _) exchanges.routine

/-- A subcommand is written before the control register is read. -/
theorem control_allowed (subcommandCode : UInt16) : (control subcommandCode).Within kind :=
  (write_allowed exchanges _ _).bind fun _ => (write_allowed exchanges _ _).bind fun _ =>
    i2cReadErrorHandling_within (exchanges.read _ _) exchanges.routine

/-- A bit is only logged. -/
theorem logBit_allowed (value mask : UInt16) (message : String) :
    (logBit value mask message).Within kind :=
  .ite (log_allowed exchanges.routine _ _) trivial

/-- The getters of the telemetry exchange with the gauge and log. -/
theorem telemetry_allowed : getVoltage.Within kind ∧ getSafetyStats.Within kind ∧
    getTemp.Within kind ∧ getSoh.Within kind ∧ getFlags.Within kind := by
  have log (format : String) (args : List LogArg) := log_allowed exchanges.routine format args
  have read (command : UInt8) := readBytes_allowed exchanges command 2
  have bit := logBit_allowed exchanges
  refine ⟨?_, ?_, ?_, ?_, ?_⟩
  · exact (read _).bind fun _ => (log _ _).bind fun _ => trivial
  · refine (read _).bind fun _ => (log _ _).bind fun _ => ?_
    iterate 6 refine (bit _ _ _).bind fun _ => ?_
    exact .ite ((log _ _).bind fun _ => .done _) (.done _)
  · exact (read _).bind fun _ => (log _ _).bind fun _ => trivial
  · exact (read _).bind fun _ => (log _ _).bind fun _ => (log _ _).bind fun _ => trivial
  · refine (read _).bind fun _ => (log _ _).bind fun _ => ?_
    iterate 10 refine (bit _ _ _).bind fun _ => ?_
    have last (flags : UInt16) : Program.Within kind (do
        rp2040Log "\n" []
        return flags) := (log _ _).bind fun _ => trivial
    exact .ite ((log _ _).bind fun _ => last _) (last _)

end Gauge

section Rearming

variable {kind : Op → Prop} (looked : kind (.gpioGet gpioInterrupt))
  (enabled : ∀ events enabled, kind (.gpioSetIrqEnabled gpioInterrupt events enabled))
  (stored : ∀ value, kind (.store .bq27742G1InterruptPending value))

include looked enabled stored

/-- The pin is armed again when it has been released. -/
theorem rearmIfReleased_allowed : rearmIfReleased.Within kind :=
  ⟨looked, fun _ => .ite ⟨stored _, fun _ => ⟨enabled _ _, fun _ => ⟨enabled _ _, fun _ =>
    trivial⟩⟩⟩ trivial⟩

/-- The handler is queued unless it waits already. -/
theorem queueParseInterrupt_allowed (loaded : kind (.load .bq27742G1InterruptPending))
    (queued : kind (.callQueueTryAdd ⟨.bq27742G1ParseInterruptVals, 0⟩)) :
    queueParseInterrupt.Within kind := by
  have rearm := rearmIfReleased_allowed looked enabled stored
  exact ⟨loaded, fun _ => .ite trivial ⟨stored _, fun _ => ⟨enabled _ _, fun _ =>
    ⟨enabled _ _, fun _ => ⟨queued, fun _ => .ite rearm trivial⟩⟩⟩⟩⟩

/-- What the handler of the fuel gauge performs. -/
theorem onInterrupt_allowed {gpio : Nat} {eventMask : UInt32}
    (acknowledged : ∀ mask, kind (.gpioAcknowledgeIrq gpioInterrupt mask))
    (loaded : kind (.load .bq27742G1InterruptPending))
    (queued : kind (.callQueueTryAdd ⟨.bq27742G1ParseInterruptVals, 0⟩)) :
    (onInterrupt gpio eventMask).Within kind := by
  have queue := queueParseInterrupt_allowed looked enabled stored loaded queued
  have rearm := rearmIfReleased_allowed looked enabled stored
  have assert : (onAssert eventMask).Within kind :=
    .ite ⟨acknowledged _, fun _ => queue⟩ trivial
  have deassert : (onDeassert eventMask).Within kind :=
    .ite ⟨acknowledged _, fun _ => rearm⟩ trivial
  exact .ite trivial (assert.bind fun _ => deassert)

/-- What core 1 performs for it. -/
theorem parseInterruptVals_allowed (exchanges : Exchanges kind) :
    parseInterruptVals.Within kind := by
  have bit := logBit_allowed exchanges
  refine (readBytes_allowed exchanges _ _).bind fun flags =>
    (readBytes_allowed exchanges _ _).bind fun safety =>
      ⟨looked, fun level => ⟨exchanges.routine _ trivial, fun _ => ?_⟩⟩
  iterate 3 refine (bit _ _ _).bind fun _ => ?_
  have clear : (clearImax (word flags)).Within kind :=
    .ite ⟨exchanges.routine _ trivial, fun _ =>
      (control_allowed exchanges _).bind fun _ => trivial⟩ trivial
  refine clear.bind fun _ => ?_
  iterate 6 refine (bit _ _ _).bind fun _ => ?_
  have last : (logNoStatus (word flags) (word safety)).Within kind :=
    .ite (log_allowed exchanges.routine _ _) trivial
  exact last.bind fun _ => (rearmIfReleased_allowed looked enabled stored).bind fun _ => .done _

end Rearming

end Bq27742G1

/-! ## The charger -/

namespace Max77976

/-- A kind with the transfers that leave the configuration of the charger alone: a register is
selected and read, or the masks are written. -/
structure Exchanges (kind : Op → Prop) : Prop where
  routine : ∀ op, op.Routine → kind op
  select : ∀ reg nostop, kind (.i2cWriteTimeoutUs .i2c1 addr [reg] nostop)
  mask : ∀ value, kind (.i2cWriteTimeoutUs .i2c1 addr [regChgIntMask, value, 0, 0] false)
  read : ∀ len nostop, kind (.i2cReadTimeoutUs .i2c1 addr len nostop)

/-- The charger is on the other bus. -/
theorem exchanges_peripheral : Exchanges Op.Peripheral where
  routine _ := Op.Routine.peripheral
  select _ _ := trivial
  mask _ := trivial
  read _ _ := trivial

section Charger

variable {kind : Op → Prop} (exchanges : Exchanges kind)

include exchanges

/-- Reading the interrupt registers clears a byte behind the buffer. -/
theorem getInterruptVals_allowed (strayed : kind (.strayStore 3)) :
    getInterruptVals.Within kind :=
  ⟨strayed, fun _ => (i2cWriteErrorHandling_within (exchanges.select _ _) exchanges.routine).bind
    fun _ => (i2cReadErrorHandling_within (exchanges.read _ _) exchanges.routine).bind
      fun _ => ⟨exchanges.routine _ trivial, fun _ => .done _⟩⟩

/-- What the handler of the charger performs besides is logging, and the flag of a test. -/
theorem parseInterruptVals_allowed (strayed : kind (.strayStore 3))
    (noted : kind (.store .testMax77976InterruptBool true)) : parseInterruptVals.Within kind := by
  have log (buf : Vector UInt8 3) (bit : UInt8) (detected set clear : String) :
      (logInterrupt buf bit detected set clear).Within kind :=
    .ite ((log_allowed exchanges.routine _ _).bind fun _ =>
      .ite (log_allowed exchanges.routine _ _) (log_allowed exchanges.routine _ _)) trivial
  have note (buf : Vector UInt8 3) : (noteNoInterrupt buf).Within kind := .ite (.act noted) trivial
  refine (getInterruptVals_allowed exchanges strayed).bind fun buf => ?_
  iterate 7 refine (log _ _ _ _ _).bind fun _ => ?_
  exact (note buf).bind fun _ => .done _

/-- The read-out of the details packs four bytes behind its buffer. -/
theorem getChgDetails_allowed
    (strayed : ∀ index, 4 ≤ index → index < 8 → kind (.strayRead index)) :
    getChgDetails.Within kind := by
  have detail (reg : UInt8) : (readDetail reg).Within kind :=
    (i2cWriteErrorHandling_within (exchanges.select _ _) exchanges.routine).bind fun _ =>
      (i2cReadErrorHandling_within (exchanges.read _ _) exchanges.routine).bind fun _ => .done _
  have byp (bypDtls : UInt8) : (logBypDtls bypDtls).Within kind := by
    unfold logBypDtls
    split
    · exact log_allowed exchanges.routine _ _
    · exact trivial
  have log (format : String) (args : List LogArg) := log_allowed exchanges.routine format args
  refine (detail _).bind fun details00 => ?_
  iterate 4 refine (log _ _).bind fun _ => ?_
  refine (detail _).bind fun details01 => ?_
  iterate 10 refine (log _ _).bind fun _ => ?_
  refine (detail _).bind fun details02 => (log _ _).bind fun _ => (byp _).bind fun _ =>
    (log _ _).bind fun _ => (detail _).bind fun cnfg00 => (log _ _).bind fun _ => ?_
  have read (index : Nat) (behind : 4 ≤ index) (near : index < 8) := strayed index behind near
  exact ⟨read 4 (by decide) (by decide), fun _ => ⟨read 5 (by decide) (by decide), fun _ =>
    ⟨read 6 (by decide) (by decide), fun _ => ⟨read 7 (by decide) (by decide), fun _ =>
      trivial⟩⟩⟩⟩

end Charger

end Max77976

/-! ## Telemetry -/

/-- A kind with what the telemetry performs. -/
structure Reporting (kind : Op → Prop) : Prop where
  gauge : Bq27742G1.Exchanges kind
  charger : Max77976.Exchanges kind
  motors : Drv8830.Exchanges kind
  attached : kind (.load .wirelessChargerAttached)
  select : ∀ input < 2, kind (.adcSelectInput input)
  convert : kind .adcRead
  count : ∀ sm < 2, kind (.quadratureEncoderGetCount sm)
  strayRead : ∀ index, 4 ≤ index → index < 8 → kind (.strayRead index)

/-- None of it concerns the MAX77958. -/
theorem reporting_peripheral : Reporting Op.Peripheral where
  gauge := Bq27742G1.exchanges_peripheral
  charger := Max77976.exchanges_peripheral
  motors := Drv8830.exchanges_peripheral
  attached := by simp
  select _ _ := trivial
  convert := trivial
  count _ _ := trivial
  strayRead _ _ _ := trivial

/-- Telemetry stays on the devices that it reports. -/
theorem Reporting.getState_allowed {kind : Op → Prop} (reporting : Reporting kind)
    (state : Rp2040State) : (getState state).Within kind := by
  obtain ⟨voltage, safety, temperature, health, flags⟩ :=
    Bq27742G1.telemetry_allowed reporting.gauge
  have counts (state : Rp2040State) : (getEncoderCounts state).Within kind :=
    ⟨reporting.count 0 (by decide), fun _ => ⟨reporting.count 1 (by decide), fun _ => trivial⟩⟩
  have faults (state : Rp2040State) : (getMotorFaults state).Within kind :=
    (Drv8830.getFaults_allowed reporting.motors).bind fun _ => .done _
  have charger (state : Rp2040State) : (getChargerState state).Within kind :=
    (Max77976.getChgDetails_allowed reporting.charger reporting.strayRead).bind fun _ =>
      ⟨reporting.attached, fun _ => ⟨reporting.select 0 (by decide), fun _ =>
        ⟨reporting.convert, fun _ => ⟨reporting.select 1 (by decide), fun _ =>
          ⟨reporting.convert, fun _ => trivial⟩⟩⟩⟩⟩
  have battery (state : Rp2040State) : (getBatteryState state).Within kind :=
    voltage.bind fun _ => safety.bind fun _ => temperature.bind fun _ => health.bind fun _ =>
      flags.bind fun _ => .done _
  exact (counts state).bind fun _ => (faults _).bind fun _ => (charger _).bind fun _ => battery _

/-! ## The interrupt handler -/

/-- The functions that are queued as commands to the MAX77958. -/
def EntryFunc.isOpcode : EntryFunc → Bool
  | .gpioSet => true
  | .customerConfigWrite => true
  | .bcCtrl1Read => true
  | .bcCtrl2Read => true
  | .control1Read => true
  | .ccCtrl1Read => true
  | .ccCtrl4Read => true
  | .gpioControlRead => true
  | .gpio0Gpio1AdcRead => true
  | .snkPdoRequest => true
  | .customerConfigRead => true
  | _ => false

/-- What an interrupt does besides: it queues functions that are no commands. -/
def Op.Interrupt (op : Op) : Prop :=
  op.Peripheral ∨ ∃ entry : QueueEntry, op = .callQueueTryAdd entry ∧ entry.func.isOpcode = false

/-- The functions that the handlers of the chargers and the motor drivers queue. -/
def EntryFunc.ofInterrupt : List EntryFunc :=
  [.parseInterruptVals, .max77958TestResponse, .max77976ParseInterruptVals, .max77976TestResponse,
    .drv8830FaultHandler, .drv8830TestResponse]

/-- The flags that these handlers look at. -/
def Flag.ofInterrupt : List Flag :=
  [.testMax77958Started, .testMax77976Started, .testDrv8830Started]

/-- The handler picks a device by the pin. Those of the chargers and the motor drivers acknowledge
their pin, queue their functions and look whether a test waits. -/
theorem robotInterruptHandler_allowed {kind : Op → Prop} {gpio : Nat} {eventMask : UInt32}
    (routine : ∀ op, Op.Routine op → kind op)
    (acknowledged : ∀ mask, kind (.gpioAcknowledgeIrq gpio mask))
    (queued : ∀ func ∈ EntryFunc.ofInterrupt, ∀ arg, kind (.callQueueTryAdd ⟨func, arg⟩))
    (loaded : ∀ flag ∈ Flag.ofInterrupt, kind (.load flag))
    (wireless : gpio = gpioWirelessAvailable →
      (Ncp3901.onWirelessChargerInterrupt gpio eventMask).Within kind)
    (gauge : gpio = Bq27742G1.gpioInterrupt → (Bq27742G1.onInterrupt gpio eventMask).Within kind) :
    (robotInterruptHandler gpio eventMask).Within kind := by
  have shared {number : Nat} {mask : UInt32} {func response : EntryFunc} {arg : Int32}
      {flag : Flag} (same : gpio = number) (first : func ∈ EntryFunc.ofInterrupt)
      (second : response ∈ EntryFunc.ofInterrupt) (looked : flag ∈ Flag.ofInterrupt) :
      Program.Within kind (do
        gpioAcknowledgeIrq number mask
        callQueueTryAdd func arg
        if ← load flag then callQueueTryAdd response 1) :=
    queueFunctions_allowed routine (same ▸ acknowledged mask) (queued func first arg)
      (loaded flag looked) (queued response second 1)
  have motor : (Drv8830.onInterrupt gpio eventMask).Within kind :=
    .ite (shared rfl (by decide) (by decide) (by decide)) trivial
  unfold robotInterruptHandler
  split
  · exact wireless ‹_›
  split
  · exact .ite (shared ‹_› (by decide) (by decide) (by decide)) trivial
  split
  · exact .ite (shared ‹_› (by decide) (by decide) (by decide)) trivial
  split
  · exact gauge ‹_›
  exact .ite motor (.ite motor trivial)

/-- The handler of the fuel gauge queues one function, which is no command. -/
theorem Bq27742G1.onInterrupt_within (gpio : Nat) (eventMask : UInt32) :
    (Bq27742G1.onInterrupt gpio eventMask).Within Op.Interrupt :=
  Bq27742G1.onInterrupt_allowed (.inl trivial) (fun _ _ => .inl trivial) (fun _ => .inl (by simp))
    (fun _ => .inl trivial) (.inl (by simp)) (.inr ⟨_, rfl, rfl⟩)

/-- Whatever pin interrupts, the handler only queues functions that are no commands. -/
theorem robotInterruptHandler_within (gpio : Nat) (eventMask : UInt32) :
    (robotInterruptHandler gpio eventMask).Within Op.Interrupt := by
  have routine (op : Op) (routine : op.Routine) : op.Interrupt := .inl routine.peripheral
  have announce {mask : UInt32} {func : EntryFunc} (plain : func.isOpcode = false) :
      Program.Within Op.Interrupt (do
        gpioAcknowledgeIrq gpio mask
        callQueueTryAdd func 0
        if ← load .testNcp3901Started then callQueueTryAdd .ncp3901TestResponse 1) :=
    queueFunctions_allowed routine (.inl trivial) (.inr ⟨_, rfl, plain⟩) (.inl (by simp))
      (.inr ⟨_, rfl, rfl⟩)
  have plain : ∀ func ∈ EntryFunc.ofInterrupt, func.isOpcode = false := by decide
  have apart : ∀ flag ∈ Flag.ofInterrupt, flag ≠ .opcodesFinished := by decide
  exact robotInterruptHandler_allowed routine (fun _ => .inl trivial)
    (fun func listed _ => .inr ⟨_, rfl, plain func listed⟩)
        (fun flag listed => .inl (apart flag listed))
    (fun _ => .ite (announce rfl) (.ite (announce rfl) trivial))
    fun _ => Bq27742G1.onInterrupt_within gpio eventMask

/-! ## The MAX77958 driver -/

namespace Max77958

/-- A message is no transfer. -/
theorem log_within (format : String) (args : List LogArg) :
    (rp2040Log format args).Within Op.Queueing := ⟨trivial, fun _ => trivial⟩

/-- `call_queue_try_add` touches its queue, and logs and stops when it is full. -/
theorem callQueueTryAdd_within (func : EntryFunc) (arg : Int32) :
    (callQueueTryAdd func arg).Within Op.Queueing :=
  ⟨trivial, fun _ => .ite ⟨trivial, fun _ => ⟨trivial, fun impossible => nomatch impossible⟩⟩
    trivial⟩

/-- So does `opcode_queue_add` with the queue of commands. -/
theorem opcodeQueueAdd_within (opcodeFunc : EntryFunc) (opcodeData : Int32) :
    (opcodeQueueAdd opcodeFunc opcodeData).Within Op.Queueing :=
  ⟨trivial, fun _ => ⟨trivial, fun _ => .ite
    ⟨trivial, fun _ => ⟨trivial, fun impossible => nomatch impossible⟩⟩
    ⟨trivial, fun _ => ⟨trivial, fun _ => trivial⟩⟩⟩⟩

/-- `opcode_queue_pop` moves an entry from the one queue to the other. -/
theorem opcodeQueuePop_within : opcodeQueuePop.Within Op.Queueing := by
  refine ⟨trivial, fun removed => ?_⟩
  cases removed with
  | none => exact ⟨trivial, fun _ => trivial⟩
  | some entry =>
    exact ⟨trivial, fun _ => ⟨trivial, fun _ => ⟨trivial, fun _ => .ite
      ⟨trivial, fun _ => trivial⟩ ⟨trivial, fun _ => trivial⟩⟩⟩⟩

/-- Switching VBUS queues a command and pops one. -/
theorem vbus_within (opcodeData : Int32) :
    Program.Within Op.Queueing (do
      opcodeQueueAdd .gpioSet opcodeData
      let _ ← opcodeQueuePop) :=
  (opcodeQueueAdd_within _ _).bind fun _ => opcodeQueuePop_within.bind fun _ => .done _

/-- What follows from the state of the CC pins is queued. -/
theorem actOnCcStat_within (ccStat : UInt8) : (actOnCcStat ccStat).Within Op.Queueing :=
  .ite ((log_within _ _).bind fun _ => vbus_within _)
    (.ite ((log_within _ _).bind fun _ => vbus_within _)
      (.ite (log_within _ _) (log_within _ _)))

/-- A fault is only logged. -/
theorem logFault_within (ccStatus1 bit : UInt8) (message : String) :
    (logFault ccStatus1 bit message).Within Op.Queueing :=
  .ite (log_within _ _) trivial

section Driver

variable [DriverHeader]

/-- The operations of the driver: its own bus address, the queues, the reply buffer and the
flags. -/
def Controls : Op → Prop
  | .i2cWriteTimeoutUs .i2c0 addr _ _ => addr = DriverHeader.slaveP1
  | .i2cReadTimeoutUs .i2c0 addr _ _ => addr = DriverHeader.slaveP1
  | .rp2040Log .. => True
  | .sleepMs _ => True
  | .cexceptionTry => True
  | .cexceptionThrow _ => True
  | .cexceptionCatch => True
  | .assertFalse => True
  | .callQueueTryAdd _ => True
  | .opcodeQueueTryAdd _ => True
  | .opcodeQueueTryRemove => True
  | .opcodeQueueGetLevel => True
  | .storeOpCodeReturnBuf _ => True
  | .load _ => True
  | .store .. => True
  | .enter .onOpcodeCmdResponse => True
  | .enter .onPdMsgReceived => True
  | .enter .onChgtypeChange => True
  | .enter .onCcstatChange => True
  | .enter .onCcvcnstatChange => True
  | .enter .onCcistatChange => True
  | .enter .onCcpinstatChange => True
  | _ => False

/-- These operations without the two writes of a command, which are known by their lengths. -/
def Commandless : Op → Prop
  | .i2cWriteTimeoutUs i2c addr src nostop =>
    Controls (.i2cWriteTimeoutUs i2c addr src nostop) ∧ src.length ≠ 33 ∧ src.length ≠ 2
  | op => Controls op

/-- They are operations of the driver. -/
theorem commandless_controls (op : Op) (commandless : Commandless op) : Controls op := by
  cases op <;> first | exact commandless | exact commandless.1

/-- So are routine operations. -/
theorem routine_controls (op : Op) (routine : op.Routine) : Controls op := by
  cases op <;> first | exact trivial | exact routine.elim

/-- No routine operation is a write of a command. -/
theorem routine_commandless (op : Op) (routine : op.Routine) : Commandless op := by
  cases op <;> first | exact trivial | exact routine.elim

/-- A kind with what reading registers of the chip takes. -/
structure Reads (kind : Op → Prop) : Prop where
  routine : ∀ op, op.Routine → kind op
  select : ∀ src nostop, src.length = 1 →
    kind (.i2cWriteTimeoutUs .i2c0 DriverHeader.slaveP1 src nostop)
  read : ∀ len, kind (.i2cReadTimeoutUs .i2c0 DriverHeader.slaveP1 len false)

/-- Reading registers sends no command. -/
theorem reads_commandless : Reads Commandless :=
  ⟨routine_commandless, fun _ _ one => ⟨rfl, by omega, by omega⟩, fun _ => rfl⟩

/-- A kind with what inspecting the chip and setting its interrupt masks takes. -/
structure Inspects (kind : Op → Prop) : Prop extends Reads kind where
  mask : ∀ src nostop, src.length = 4 →
    kind (.i2cWriteTimeoutUs .i2c0 DriverHeader.slaveP1 src nostop)

/-- Nor does setting the interrupt masks. -/
theorem inspects_commandless : Inspects Commandless :=
  ⟨reads_commandless, fun _ _ four => ⟨rfl, by omega, by omega⟩⟩

/-- A kind with every transfer from and to the chip. -/
structure Transfers (kind : Op → Prop) : Prop where
  routine : ∀ op, op.Routine → kind op
  write : ∀ src nostop, kind (.i2cWriteTimeoutUs .i2c0 DriverHeader.slaveP1 src nostop)
  read : ∀ len, kind (.i2cReadTimeoutUs .i2c0 DriverHeader.slaveP1 len false)
  load : ∀ flag, kind (.load flag)

/-- Reading registers is part of all transfers. -/
theorem Transfers.reads {kind : Op → Prop} (transfers : Transfers kind) : Reads kind :=
  ⟨transfers.routine, fun _ _ _ => transfers.write _ _, transfers.read⟩

/-- So is setting the interrupt masks. -/
theorem Transfers.inspects {kind : Op → Prop} (transfers : Transfers kind) : Inspects kind :=
  ⟨transfers.reads, fun _ _ _ => transfers.write _ _⟩

/-- The driver may perform every transfer. -/
theorem transfers_controls : Transfers Controls :=
  ⟨routine_controls, fun _ _ => rfl, fun _ => rfl, fun _ => trivial⟩

omit [DriverHeader] in
/-- Filling the buffer performs nothing. -/
theorem setSend_within {kind : Op → Prop} (index : Fin 33) (value : UInt8) :
    StatefulWithin kind (setSend index value : Driver Unit) :=
  .modify _

omit [DriverHeader] in
/-- Reading a byte of a buffer performs nothing. -/
theorem sendByte_within {kind : Op → Prop} (index : Fin 33) :
    StatefulWithin kind (sendByte index : Driver UInt8) :=
  .bind .get fun _ => .pure _

omit [DriverHeader] in
/-- Reading a byte of a buffer performs nothing. -/
theorem returnByte_within {kind : Op → Prop} (index : Fin 33) :
    StatefulWithin kind (returnByte index : Driver UInt8) :=
  .bind .get fun _ => .pure _

/-- Sending a buffer is a write to the chip. -/
theorem writeSendBuf_within {kind : Op → Prop} (transfers : Transfers kind) (len : Nat)
    (nostop : Bool) : StatefulWithin kind (writeSendBuf len nostop : Driver Unit) :=
  .bind .get fun _ => .lift (i2cWriteErrorHandling_within (transfers.write _ _) transfers.routine)

/-- As many bytes of the buffer are written as are asked for. -/
theorem writeSendBuf_sized {kind : Op → Prop} (routine : ∀ op, op.Routine → kind op) {len : Nat}
    (few : len ≤ 33) {nostop : Bool} (write : ∀ src : List UInt8, src.length = len →
      kind (.i2cWriteTimeoutUs .i2c0 DriverHeader.slaveP1 src nostop)) :
    StatefulWithin kind (writeSendBuf len nostop : Driver Unit) := by
  refine .bind .get fun buffers => .lift (i2cWriteErrorHandling_within (write _ ?_) routine)
  rw [List.length_take, Vector.length_toList]
  exact Nat.min_eq_left few

/-- A write of another length belongs to no command. -/
theorem writeSendBuf_commandless {len : Nat} (few : len < 33) (other : len ≠ 2) (nostop : Bool) :
    StatefulWithin Commandless (writeSendBuf len nostop : Driver Unit) :=
  writeSendBuf_sized routine_commandless (Nat.le_of_lt few) fun src length =>
    ⟨rfl, by omega, by omega⟩

/-- Filling a buffer is a read from it. -/
theorem readReturnBuf_within {kind : Op → Prop} (reads : Reads kind) (len : Nat) :
    StatefulWithin kind (readReturnBuf len : Driver Unit) :=
  .bind (.lift (i2cReadErrorHandling_within (reads.read _) reads.routine)) fun _ => .modify _

/-- A register is selected by one byte before it is read. -/
theorem readRegisters_within {kind : Op → Prop} (reads : Reads kind) (reg : UInt8) (len : Nat) :
    StatefulWithin kind (readRegisters reg len : Driver Unit) := by
  refine .bind (.modify _) fun _ => .bind (.modify _) fun _ => .bind (setSend_within _ _) fun _ =>
    .bind (writeSendBuf_sized reads.routine (by decide) fun src one => ?_) fun _ =>
      readReturnBuf_within reads _
  exact reads.select _ _ one

section CoreZero

variable {kind : Op → Prop} (inspects : Inspects kind)

include inspects

/-- A message of the driver is routine. -/
theorem driverLog_within (format : String) (args : List LogArg) :
    StatefulWithin kind (rp2040Log format args : Driver Unit) :=
  .lift (.act (inspects.routine _ trivial))

/-- `test_max77958_get_id` only transfers and logs. -/
theorem testGetId_within : StatefulWithin kind (testGetId : Driver Unit) := by
  have last : StatefulWithin kind (do
      rp2040Log "test_max77958_get_id PASSED: DEVICE_ID = %x\n" [.byte (← returnByte 0)]
      rp2040Log "test_max77958_get_id PASSED: DEVICE_REV = %x\n" [.byte (← returnByte 1)] :
        Driver Unit) :=
    .bind (returnByte_within _) fun _ => .bind (driverLog_within inspects _ _) fun _ =>
      .bind (returnByte_within _) fun _ => driverLog_within inspects _ _
  have check {condition : Prop} [Decidable condition] (message : String) {rest : Driver Unit}
      (inside : StatefulWithin kind rest) : StatefulWithin kind (do
        if condition then rp2040Log message []
        rest : Driver Unit) :=
    .ite (.bind (driverLog_within inspects _ _) fun _ => inside) inside
  refine .bind (driverLog_within inspects _ _) fun _ => .bind (.modify _) fun _ =>
    .bind (.modify _) fun _ =>
    .bind (writeSendBuf_sized inspects.routine (by decide) (inspects.select · _)) fun _ =>
    .bind (readReturnBuf_within inspects.toReads _) fun _ => .bind (returnByte_within _) fun _ => ?_
  exact check _ (.bind (returnByte_within _) fun _ => check _ last)

/-- `set_interrupt_masks` only transfers. -/
theorem setInterruptMasks_within : StatefulWithin kind (setInterruptMasks : Driver Unit) :=
  .bind (.modify _) fun _ => .bind (setSend_within _ _) fun _ => .bind (setSend_within _ _) fun _ =>
    .bind (setSend_within _ _) fun _ => .bind (setSend_within _ _) fun _ =>
      writeSendBuf_sized inspects.routine (by decide) (inspects.mask · _)

/-- `set_interrupt_masks_all_masked` only transfers. -/
theorem setInterruptMasksAllMasked_within :
    StatefulWithin kind (setInterruptMasksAllMasked : Driver Unit) :=
  .bind (.modify _) fun _ => .bind (setSend_within _ _) fun _ => .bind (setSend_within _ _) fun _ =>
    .bind (setSend_within _ _) fun _ => .bind (setSend_within _ _) fun _ =>
      writeSendBuf_sized inspects.routine (by decide) (inspects.mask · _)

/-- `read_reg` only transfers and logs. -/
theorem readReg_within (reg : UInt8) : StatefulWithin kind (readReg reg : Driver Unit) :=
  .bind (readRegisters_within inspects.toReads _ _) fun _ => .bind (returnByte_within _) fun _ =>
    driverLog_within inspects _ _

/-- `max77958_read_register` only transfers. -/
theorem readRegister_within (reg : UInt8) :
    StatefulWithin kind (readRegister reg : Driver UInt8) :=
  .bind (readRegisters_within inspects.toReads _ _) fun _ => returnByte_within _

/-- `test_max77958_status_block_read_all` only transfers and logs. -/
theorem testStatusBlockReadAll_within :
    StatefulWithin kind (testStatusBlockReadAll : Driver Unit) := by
  have each (status : StatusReg) : StatefulWithin kind (testStatusReg status : Driver Unit) :=
    .bind (readRegister_within inspects _) fun _ => .ite (driverLog_within inspects _ _)
      (driverLog_within inspects _ _)
  have all (values : List StatusReg) :
      StatefulWithin kind (values.forM testStatusReg : Driver Unit) := by
    induction values with
    | nil => exact .pure _
    | cons value values ih => exact .bind (each value) fun _ => ih
  exact .bind (driverLog_within inspects _ _) fun _ => all _

end CoreZero

/-- Queueing sends no command. -/
theorem queueing_commandless (op : Op) (queueing : op.Queueing) : Commandless op := by
  cases op <;> first | exact trivial | exact queueing.elim

/-- Queueing inside the driver. -/
theorem queues_within {program : Firmware Unit} (inside : program.Within Op.Queueing) :
    StatefulWithin Commandless (monadLift program : Driver Unit) :=
  .lift (inside.mono queueing_commandless)

/-- Reading a reply selects its register and stores what it read for the tests. -/
theorem opcodeRead_within : StatefulWithin Commandless (opcodeRead : Driver Unit) :=
  .bind (.modify _) fun _ => .bind (setSend_within _ _) fun _ =>
    .bind (writeSendBuf_commandless (by decide) (by decide) _) fun _ =>
    .bind (.lift (i2cReadErrorHandling_within rfl routine_commandless)) fun _ =>
      .bind (.lift (.act trivial)) fun _ => queues_within (log_within _ _)

section Commands

variable {kind : Op → Prop}

/-- A command is sent in two writes. -/
theorem opcodeWrite_within (transfers : Transfers kind) :
    StatefulWithin kind (opcodeWrite : Driver Unit) := by
  have tail : StatefulWithin kind (do
      writeSendBuf 33 false
      setSend 0 0
      setSend 1 0
      setSend 2 0
      setSend 3 0
      setSend 0 0x41
      setSend 1 0x00
      writeSendBuf 2 false : Driver Unit) := by
    refine .bind (writeSendBuf_within transfers _ _) fun _ => ?_
    iterate 6 refine .bind (setSend_within _ _) fun _ => ?_
    exact writeSendBuf_within transfers _ _
  exact .bind (sendByte_within _) fun _ => .ite
    (.bind (.lift (.act (transfers.routine _ trivial))) fun _ => tail) tail

omit [DriverHeader] in
/-- Preparing a command performs nothing. -/
theorem startOpcode_within (opcode : UInt8) : StatefulWithin kind
    (startOpcode opcode : Driver Unit) :=
  .bind (.modify _) fun _ => .bind (setSend_within _ _) fun _ => setSend_within _ _

/-- A command without arguments. -/
theorem plainOpcode_within (transfers : Transfers kind) (opcode : UInt8) :
    StatefulWithin kind (plainOpcode opcode : Driver Int32) :=
  .bind (startOpcode_within _) fun _ => .bind (opcodeWrite_within transfers) fun _ => .pure _

/-- The request of the sink objects also looks which copy to read. -/
theorem snkPdoRequest_within (transfers : Transfers kind) :
    StatefulWithin kind (snkPdoRequest : Driver Int32) :=
  .bind (startOpcode_within _) fun _ => .bind (.lift (.act (transfers.load _))) fun _ =>
    .bind (setSend_within _ _) fun _ => .bind (opcodeWrite_within transfers) fun _ => .pure _

/-- The configuration is logged and written. -/
theorem customerConfigWrite_within (transfers : Transfers kind) :
    StatefulWithin kind (customerConfigWrite : Driver Int32) := by
  have log (text : String) (args : List LogArg) :
      StatefulWithin kind (liftM (rp2040Log text args) : Driver Unit) :=
    .lift (.act (transfers.routine _ trivial))
  -- Without the goal as the expected type, what is left of the program is not unfolded.
  refine (StatefulWithin.bind (startOpcode_within _) fun _ => ?_ :)
  refine (StatefulWithin.bind (setSend_within _ _) fun _ => ?_ :)
  refine (StatefulWithin.bind (log _ _) fun _ => ?_ :)
  iterate 9 refine (StatefulWithin.bind (setSend_within _ _) fun _ => ?_ :)
  exact .bind (opcodeWrite_within transfers) fun _ => .pure _

/-- The command that sets the pins of the chip. -/
theorem gpioSet_within (transfers : Transfers kind) (gpioVal : Int32) :
    StatefulWithin kind (gpioSet gpioVal : Driver Int32) :=
  .bind (startOpcode_within _) fun _ => .bind (setSend_within _ _) fun _ =>
    .bind (setSend_within _ _) fun _ => .bind (opcodeWrite_within transfers) fun _ => .pure _

end Commands

/-- A reply is read, and the next command is popped. -/
theorem onOpcodeCmdResponse_within : StatefulWithin Commandless
    (onOpcodeCmdResponse : Driver Unit) :=
  .bind (.lift (.act trivial)) fun _ => .bind opcodeRead_within fun _ =>
    .bind (.lift (opcodeQueuePop_within.mono queueing_commandless)) fun _ =>
      .ite (.lift (.act trivial)) (.pure _)

/-- A message has its response queued. -/
theorem onPdMsgReceived_within : StatefulWithin Commandless (onPdMsgReceived : Driver Unit) :=
  .bind (.lift (.act trivial)) fun _ => .bind (queues_within (log_within _ _)) fun _ =>
    queues_within (callQueueTryAdd_within _ _)

/-- A change on the CC pins reads the state of the pins and acts on it. -/
theorem onCcstatChange_within : StatefulWithin Commandless (onCcstatChange : Driver Unit) := by
  refine .bind (.lift (.act trivial)) fun _ => .bind (queues_within (log_within _ _)) fun _ =>
    .bind (readRegisters_within reads_commandless _ _) fun _ => .bind (returnByte_within _) fun _ =>
    .bind (returnByte_within _) fun _ => ?_
  iterate 4 refine .bind (queues_within (log_within _ _)) fun _ => ?_
  refine .bind (queues_within (actOnCcStat_within _)) fun _ => ?_
  iterate 4 refine .bind (queues_within (logFault_within _ _ _)) fun _ => ?_
  exact queues_within (logFault_within _ _ _)

/-- A change of the charger reads what it is. -/
theorem onChgtypeChange_within : StatefulWithin Commandless (onChgtypeChange : Driver Unit) :=
  .bind (.lift (.act trivial)) fun _ => .bind (queues_within (log_within _ _)) fun _ =>
    .bind (readRegisters_within reads_commandless _ _) fun _ => .bind (returnByte_within _) fun _ =>
      queues_within (log_within _ _)

/-- A handler runs if its bit is set. -/
theorem dispatch_within {handler : Driver Unit} (inside : StatefulWithin Commandless handler)
    (reg : Fin 33) (mask : UInt8) (bit returnVal : UInt16) :
    StatefulWithin Commandless (dispatch reg mask handler bit returnVal : Driver UInt16) :=
  .bind (returnByte_within _) fun _ => .ite (.bind inside fun _ => .pure _) (.pure _)

/-- Handling an interrupt sends no command itself. -/
theorem parseInterruptVals_within : StatefulWithin Commandless
    (parseInterruptVals : Driver Int32) := by
  have marked (call : Call) (inside : Commandless (.enter call)) (format : String) :
      StatefulWithin Commandless (do
        perform (.enter call)
        rp2040Log format [] : Driver Unit) :=
    .bind (.lift (.act inside)) fun _ => queues_within (log_within _ _)
  refine .bind (readRegisters_within reads_commandless _ _) fun _ =>
    .bind (dispatch_within onOpcodeCmdResponse_within _ _ _ _) fun _ =>
    .bind (dispatch_within (queues_within (log_within _ _)) _ _ _ _) fun _ =>
    .bind (dispatch_within onPdMsgReceived_within _ _ _ _) fun _ =>
    .bind (dispatch_within onChgtypeChange_within _ _ _ _) fun _ =>
    .bind (dispatch_within onCcstatChange_within _ _ _ _) fun _ =>
    .bind (dispatch_within (marked .onCcvcnstatChange trivial _) _ _ _ _) fun _ =>
    .bind (dispatch_within (marked .onCcistatChange trivial _) _ _ _ _) fun _ =>
    .bind (dispatch_within (marked .onCcpinstatChange trivial _) _ _ _ _) fun returnVal => ?_
  exact .ite (.bind (.lift (.act trivial)) fun _ => .pure _) (.pure _)

/-- What follows from a message is queued. -/
theorem actOnPdStatus_within (pdStatus0 : UInt8) : (actOnPdStatus pdStatus0).Within
    Op.Queueing := by
  have log (format : String) := log_within format []
  have req : logVdmReq.Within Op.Queueing := log _
  have ack : logVdmAck.Within Op.Queueing := (log _).bind fun _ => req
  have busy : logVdmBusy.Within Op.Queueing := (log _).bind fun _ => ack
  have nak : logVdmNak.Within Op.Queueing := (log _).bind fun _ => busy
  exact .ite (log _) (.ite ((log _).bind fun _ => vbus_within _) (.ite (log _)
    (.ite ((log _).bind fun _ => vbus_within _) (.ite nak (.ite busy (.ite ack
      (.ite req (log _))))))))

/-- Nor does the response to a message. -/
theorem pdMsgResponse_within : StatefulWithin Commandless (pdMsgResponse : Driver Int32) :=
  .bind (readRegisters_within reads_commandless _ _) fun _ => .bind (returnByte_within _) fun _ =>
    .bind (queues_within (log_within _ _)) fun _ =>
      .bind (queues_within (actOnPdStatus_within _)) fun _ => .pure _

end Driver

end Max77958

/-- The queued functions that exchange with the MAX77958. -/
def EntryFunc.exchanges : EntryFunc → Bool
  | .parseInterruptVals => true
  | .pdMsgResponse => true
  | func => func.isOpcode

/-- A kind with what core 1 performs for the other devices. The flag of the opcode queue is not
theirs. -/
structure Tending (kind : Op → Prop) : Prop where
  gauge : Bq27742G1.Exchanges kind
  charger : Max77976.Exchanges kind
  motors : Drv8830.Exchanges kind
  strayed : kind (.strayStore 3)
  store : ∀ flag ≠ .opcodesFinished, ∀ value, kind (.store flag value)
  get : kind (.gpioGet Bq27742G1.gpioInterrupt)
  enable : ∀ events enabled, kind (.gpioSetIrqEnabled Bq27742G1.gpioInterrupt events enabled)

/-- Of the operations on the other devices core 1 needs one more, which stores behind a buffer. -/
theorem tending_peripheral : Tending fun op => op.Peripheral ∨ op = .strayStore 3 where
  gauge := ⟨fun _ routine => .inl routine.peripheral, fun _ _ => .inl (.inl rfl),
    fun _ _ => .inl (.inl rfl)⟩
  charger := ⟨fun _ routine => .inl routine.peripheral, fun _ _ => .inl trivial,
    fun _ => .inl trivial, fun _ _ => .inl trivial⟩
  motors := ⟨fun _ routine => .inl routine.peripheral,
    fun motor _ _ => .inl (.inr ⟨⟨motor, rfl⟩, rfl⟩), fun motor _ _ => .inl (.inr ⟨motor, rfl⟩)⟩
  strayed := .inr rfl
  store _ other _ := .inl other
  get := .inl trivial
  enable _ _ := .inl trivial

/-- More operations do no harm. -/
theorem Tending.mono {kind larger : Op → Prop} (tending : Tending kind)
    (includes : ∀ op, kind op → larger op) : Tending larger where
  gauge := ⟨fun op routine => includes op (tending.gauge.routine op routine),
    fun _ _ => includes _ (tending.gauge.write _ _), fun _ _ => includes _ (tending.gauge.read _ _)⟩
  charger := ⟨fun op routine => includes op (tending.charger.routine op routine),
    fun _ _ => includes _ (tending.charger.select _ _),
    fun _ => includes _ (tending.charger.mask _), fun _ _ => includes _ (tending.charger.read _ _)⟩
  motors := ⟨fun op routine => includes op (tending.motors.routine op routine),
    fun _ _ _ => includes _ (tending.motors.write _ _ _),
    fun _ _ _ => includes _ (tending.motors.read _ _ _)⟩
  strayed := includes _ tending.strayed
  store flag other value := includes _ (tending.store flag other value)
  get := includes _ tending.get
  enable _ _ := includes _ (tending.enable _ _)

section Calls

variable [Max77958.DriverHeader]

/-- A queued function that does not exchange with the MAX77958 performs only such operations. -/
theorem call_tended {kind : Op → Prop} (tending : Tending kind) (buffers : Max77958.Buffers)
    (entry : QueueEntry) (apart : entry.func.exchanges = false) :
    (entry.call buffers).Within kind := by
  have response (flag : Flag) (other : flag ≠ .opcodesFinished) : Program.Within kind (do
      store flag true
      return (0 : Int32)) := ⟨tending.store flag other true, fun _ => trivial⟩
  have attach (message : String) (value : Bool) : Program.Within kind (do
      rp2040Log message []
      store .wirelessChargerAttached value
      return (0 : Int32)) :=
    (log_allowed tending.gauge.routine _ _).bind fun _ =>
      ⟨tending.store _ (by decide) value, fun _ => trivial⟩
  obtain ⟨func, data⟩ := entry
  cases func with
  | drv8830FaultHandler => exact Drv8830.faultHandler_allowed tending.motors data
  | ncp3901OnWirelessChargerAttached => exact attach _ _
  | ncp3901OnWirelessChargerDetached => exact attach _ _
  | max77976ParseInterruptVals =>
    exact Max77976.parseInterruptVals_allowed tending.charger tending.strayed
      (tending.store _ (by decide) true)
  | bq27742G1ParseInterruptVals =>
    exact Bq27742G1.parseInterruptVals_allowed tending.get tending.enable
      (tending.store _ (by decide)) tending.gauge
  | max77958TestResponse => exact response _ (by decide)
  | drv8830TestResponse => exact response _ (by decide)
  | ncp3901TestResponse => exact response _ (by decide)
  | max77976TestResponse => exact response _ (by decide)
  | stopCore1 => exact response _ (by decide)
  | _ => exact Bool.noConfusion apart

/-- A kind with what core 1 performs when it runs the functions that are queued. -/
structure Calling (kind : Op → Prop) : Prop extends Tending kind where
  controls : ∀ op, Max77958.Controls op → kind op

/-- Whatever is queued, core 1 performs only such operations. -/
theorem call_allowed {kind : Op → Prop} (calling : Calling kind) (buffers : Max77958.Buffers)
    (entry : QueueEntry) : (entry.call buffers).Within kind := by
  have driven {function : Max77958.Driver Int32}
      (inside : StatefulWithin Max77958.Controls function) :
      (callDriver buffers function).Within kind :=
    ((inside buffers).mono calling.controls).bind fun _ => .done _
  have commandless {function : Max77958.Driver Int32}
      (inside : StatefulWithin Max77958.Commandless function) :
      (callDriver buffers function).Within kind :=
    driven (inside.mono Max77958.commandless_controls)
  have transfers := Max77958.transfers_controls
  have tended := call_tended calling.toTending buffers entry
  obtain ⟨func, data⟩ := entry
  cases func with
  | parseInterruptVals => exact commandless Max77958.parseInterruptVals_within
  | pdMsgResponse => exact commandless Max77958.pdMsgResponse_within
  | gpioSet => exact driven (Max77958.gpioSet_within transfers data)
  | customerConfigWrite => exact driven (Max77958.customerConfigWrite_within transfers)
  | snkPdoRequest => exact driven (Max77958.snkPdoRequest_within transfers)
  | bcCtrl1Read => exact driven (Max77958.plainOpcode_within transfers _)
  | bcCtrl2Read => exact driven (Max77958.plainOpcode_within transfers _)
  | control1Read => exact driven (Max77958.plainOpcode_within transfers _)
  | ccCtrl1Read => exact driven (Max77958.plainOpcode_within transfers _)
  | ccCtrl4Read => exact driven (Max77958.plainOpcode_within transfers _)
  | gpioControlRead => exact driven (Max77958.plainOpcode_within transfers _)
  | gpio0Gpio1AdcRead => exact driven (Max77958.plainOpcode_within transfers _)
  | customerConfigRead => exact driven (Max77958.plainOpcode_within transfers _)
  | _ => exact tended rfl

/-- A queued function that does not exchange with the MAX77958 stays on the other devices. -/
theorem QueueEntry.call_apart (buffers : Max77958.Buffers) (entry : QueueEntry)
    (apart : entry.func.exchanges = false) :
    (entry.call buffers).Within fun op => op.Peripheral ∨ op = .strayStore 3 :=
  call_tended tending_peripheral buffers entry apart

/-- Whatever core 1 takes from the call queue stays within the footprints of the devices. -/
theorem QueueEntry.call_within (buffers : Max77958.Buffers) (entry : QueueEntry) :
    (entry.call buffers).Within fun op =>
      (op.Peripheral ∨ op = .strayStore 3) ∨ Max77958.Controls op :=
  call_allowed ⟨tending_peripheral.mono fun _ => .inl, fun _ => .inr⟩ buffers entry

end Calls

end RobotFirmware
