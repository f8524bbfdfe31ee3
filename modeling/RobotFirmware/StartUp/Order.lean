import RobotFirmware.Interaction.Recording
import RobotFirmware.StartUp.Keeping
import RobotFirmware.TypeC.Board

/-!
# The order of the start-up

The start-up turns on one facility after the other, while core 1 already runs what interrupts have
queued. An interrupt may arrive as soon as the events of a pin are enabled, and what it queues runs
on core 1 at any time from then on. So everything that its functions use has to be set up before.
-/

namespace RobotFirmware

open Interaction
open TypeC (Thread)
open Max77958 (DriverHeader Buffers Keeping opcodeQueueCapacity)

/-! ## What operations use -/

/-- What has to be set up before it is used. -/
inductive Facility where
  | log
  | stdio
  | callback
  | interrupts
  | callQueue
  | opcodeQueue
  | bus (i2c : I2c)
  | adc
  | analog (input : Nat)
  | pin (gpio : Nat)
  | pioProgram
  | encoder (sm : Nat)
  deriving DecidableEq

/-- A bus and its pins. -/
def I2c.uses : I2c → List Facility
  | .i2c0 => [.bus .i2c0, .pin StartUp.i2cSda0, .pin StartUp.i2cScl0]
  | .i2c1 => [.bus .i2c1, .pin StartUp.i2cSda1, .pin StartUp.i2cScl1]

/-- The facilities that an operation uses. -/
def Op.uses : Op → List Facility
  | .getcharTimeoutUs _ => [.stdio]
  | .putchar _ => [.stdio]
  | .rp2040Log .. => [.log]
  | .rp2040LogAcquireLock => [.log]
  | .rp2040LogReleaseLock => [.log]
  | .rp2040GetByteCount => [.log]
  | .rp2040LogFlush => [.log, .stdio]
  | .i2cWriteTimeoutUs i2c .. => i2c.uses
  | .i2cReadTimeoutUs i2c .. => i2c.uses
  | .i2cWriteBlocking i2c .. => i2c.uses
  | .callQueueTryAdd _ => [.callQueue]
  | .opcodeQueueTryAdd _ => [.opcodeQueue]
  | .opcodeQueueTryRemove => [.opcodeQueue]
  | .opcodeQueueGetLevel => [.opcodeQueue]
  | .gpioPut gpio _ => [.pin gpio]
  | .gpioSetDir gpio _ => [.pin gpio]
  | .gpioPullUp gpio => [.pin gpio]
  | .gpioGet gpio => [.pin gpio]
  | .gpioSetIrqEnabled gpio .. => [.pin gpio]
  | .gpioAcknowledgeIrq gpio _ => [.pin gpio]
  | .adcSelectInput input => [.adc, .analog input]
  | .adcRead => [.adc]
  | .quadratureEncoderGetCount sm => [.encoder sm]
  | _ => []

/-- The facilities that a queued function uses, with those that it hands over to others. -/
def EntryFunc.uses : EntryFunc → List Facility
  | .parseInterruptVals => [.log, .callQueue, .opcodeQueue] ++ I2c.i2c0.uses
  | .pdMsgResponse => [.log, .callQueue, .opcodeQueue] ++ I2c.i2c0.uses
  | .max77976ParseInterruptVals => .log :: I2c.i2c1.uses
  | .bq27742G1ParseInterruptVals =>
    [.log, .callQueue, .pin Bq27742G1.gpioInterrupt] ++ I2c.i2c0.uses
  | .max77958TestResponse => []
  | .drv8830TestResponse => []
  | .ncp3901TestResponse => []
  | .max77976TestResponse => []
  | .stopCore1 => []
  | .ncp3901OnWirelessChargerAttached => [.log]
  | .ncp3901OnWirelessChargerDetached => [.log]
  | _ => .log :: I2c.i2c0.uses

/-- The functions that the handler of a pin queues. -/
def handlerFuncs (gpio : Nat) : List EntryFunc :=
  if gpio = gpioWirelessAvailable then
    [.ncp3901OnWirelessChargerAttached, .ncp3901OnWirelessChargerDetached, .ncp3901TestResponse]
  else if gpio = Max77976.gpioInterrupt then [.max77976ParseInterruptVals, .max77976TestResponse]
  else if gpio = Max77958.gpioInterrupt then [.parseInterruptVals, .max77958TestResponse]
  else if gpio = Bq27742G1.gpioInterrupt then [.bq27742G1ParseInterruptVals]
  else if gpio = Drv8830.gpioFault1 ∨ gpio = Drv8830.gpioFault2 then
    [.drv8830FaultHandler, .drv8830TestResponse]
  else []

/-- The facilities that the handler of a pin uses, with those of the functions that it queues. -/
def handlerUses (gpio : Nat) : List Facility :=
  [.log, .callQueue, .pin gpio] ++ (handlerFuncs gpio).flatMap EntryFunc.uses

/-- What has to be set up for an operation and for what it hands over. -/
def Op.needs : Op → List Facility
  | .callQueueTryAdd entry => .callQueue :: entry.func.uses
  | .opcodeQueueTryAdd entry => .opcodeQueue :: entry.func.uses
  | .gpioSetIrqEnabled gpio .. => handlerUses gpio
  | op => op.uses

namespace StartUp

/-- The facilities that an operation of the start-up uses. -/
def StartOp.uses : StartOp → List Facility
  | .platform op => op.uses
  | .stdioSetTranslateCrlf _ => [.stdio]
  | .multicoreLaunchCore1 => [.callQueue]
  | .i2cReadBlocking i2c .. => i2c.uses
  | .gpioDisablePulls gpio => [.pin gpio]
  | .pwmSetGpioLevel gpio _ => [.pin gpio]
  | .quadratureEncoderProgramInit .. => [.pioProgram]
  | _ => []

/-- The facilities that an operation sets up. The analogue inputs start at pin 26. -/
def StartOp.provides : StartOp → List Facility
  | .rp2040LogInit => [.log]
  | .stdioInitAll => [.stdio]
  | .gpioSetIrqCallback => [.callback]
  | .irqSetEnabled enabled => if enabled then [.interrupts] else []
  | .callQueueInit _ => [.callQueue]
  | .platform .opcodeQueueInit => [.opcodeQueue]
  | .i2cInit i2c _ => [.bus i2c]
  | .gpioSetFunction gpio _ => [.pin gpio]
  | .platform (.gpioInit gpio) => [.pin gpio]
  | .adcInit => [.adc]
  | .adcGpioInit gpio => [.analog (gpio - 26)]
  | .pioAddProgram => [.pioProgram]
  | .quadratureEncoderProgramInit sm .. => [.encoder sm]
  | _ => []

/-! ## The threads -/

/-- What the threads share. -/
structure Machine where
  /-- The facilities that are set up. -/
  ready : List Facility
  /-- The pins whose events have been enabled. -/
  armed : List Nat
  /-- Core 1 has been launched. -/
  core1 : Bool
  /-- The capacity of `call_queue`. -/
  callCapacity : Nat
  /-- `call_queue`. -/
  callQueue : List QueueEntry
  /-- `opcode_queue`. -/
  opcodeQueue : List QueueEntry

namespace Machine

/-- The board when it is switched on. -/
def off : Machine where
  ready := []
  armed := []
  core1 := false
  callCapacity := 0
  callQueue := []
  opcodeQueue := []

/-- An addition to a queue succeeds exactly when there is room. -/
def added (queue : List QueueEntry) (capacity : Nat) (entry : QueueEntry) (success : Bool) :
    Option (List QueueEntry) :=
  if success = decide (queue.length < capacity) then
    some (if success then queue ++ [entry] else queue)
  else none

/-- The queues, the pins and core 1 after an answered operation. A pin counts as armed from the
first time on: the other core may have enabled its events, too. -/
def act (machine : Machine) : (op : StartOp) → StartAns op → Option Machine
  | .callQueueInit count, _ => some { machine with callQueue := [], callCapacity := count }
  | .multicoreLaunchCore1, _ => some { machine with core1 := true }
  | .platform .opcodeQueueInit, _ => some { machine with opcodeQueue := [] }
  | .platform (.callQueueTryAdd entry), success =>
    (added machine.callQueue machine.callCapacity entry success).map fun queue =>
      { machine with callQueue := queue }
  | .platform (.opcodeQueueTryAdd entry), success =>
    (added machine.opcodeQueue opcodeQueueCapacity entry success).map fun queue =>
      { machine with opcodeQueue := queue }
  | .platform .opcodeQueueTryRemove, removed =>
    if removed = machine.opcodeQueue.head? then
      some { machine with opcodeQueue := machine.opcodeQueue.tail }
    else none
  | .platform .opcodeQueueGetLevel, level =>
    if level = machine.opcodeQueue.length then some machine else none
  | .platform (.gpioSetIrqEnabled gpio _ enabled), _ =>
    some (if enabled then { machine with armed := gpio :: machine.armed } else machine)
  | _, _ => some machine

/-- The state after an answered operation, if it is possible. -/
def exec (machine : Machine) (op : StartOp) (answer : StartAns op) : Option Machine :=
  (machine.act op answer).map fun after => { after with ready := op.provides ++ machine.ready }

/-- An idle thread starts a program: an armed pin interrupts once the handler is registered and
interrupts are enabled, and core 1 takes the first entry once it has been launched. -/
def launch [DriverHeader] (thread : Thread) (machine : Machine) (program : Starting Unit)
    (after : Machine) : Prop :=
  match thread with
  | .core0 => False
  | .interrupt => after = machine ∧ .callback ∈ machine.ready ∧ .interrupts ∈ machine.ready ∧
      ∃ gpio ∈ machine.armed, ∃ eventMask, program = platform (robotInterruptHandler gpio eventMask)
  | .core1 => machine.core1 = true ∧ ∃ (entry : QueueEntry) (rest : List QueueEntry)
      (buffers : Buffers), machine.callQueue = entry :: rest ∧
        after = { machine with callQueue := rest } ∧
        program = platform (entry.call buffers >>= fun _ => .done ())

end Machine

section System

variable [DriverHeader]

/-- The threads from the start on. -/
def board : System StartAns where
  Thread := Thread
  decEq := inferInstance
  Shared := Machine
  preempts first second := first = .interrupt ∧ second = .core0
  exec _ := Machine.exec
  launch := Machine.launch
  drift _ _ := False

/-- Core 0 is about to run a program, and nothing is set up. -/
def powerOn (program : Starting Unit) : board.Config where
  shared := Machine.off
  programs
    | .core0 => program
    | .interrupt => .done ()
    | .core1 => .done ()

/-- What is launched performs what interrupts and core 1 perform. -/
theorem Machine.launch_within {kind : Thread → StartOp → Prop}
    (handling : Handling fun op => kind .interrupt (.platform op))
    (calling : Calling fun op => kind .core1 (.platform op)) {thread : Thread}
    {machine after : Machine} {program : Starting Unit}
    (launched : machine.launch thread program after) : program.Within (kind thread) := by
  cases thread with
  | core0 => exact launched.elim
  | interrupt =>
    obtain ⟨_, _, _, gpio, _, eventMask, rfl⟩ := launched
    exact Program.embed_within.mpr (handler_allowed handling gpio eventMask)
  | core1 =>
    obtain ⟨_, entry, _, buffers, _, _, rfl⟩ := launched
    exact Program.embed_within.mpr ((call_allowed calling buffers entry).bind fun _ => .done ())

section Record

variable {program : Starting Unit} {config : board.recorded.Config}

/-- What the threads have performed together. -/
abbrev recordOf (config : board.recorded.Config) : List (Event StartAns) :=
  config.shared.2.map Prod.snd

/-- What core 0 has performed is a run of its program. -/
theorem core0_run
    (reached : System.Reaches (fun _ _ => True) (powerOn program).recording config) :
    program.Runs (System.ownTrace config.shared.2 Thread.core0)
      (config.programs Thread.core0) := by
  have only (machine : Machine) (program : Starting Unit) (after : Machine) :
      ¬ board.launch Thread.core0 machine program after := fun launched => launched
  exact System.own_run only reached

/-- What another thread has performed is of the kind of what is launched on it. -/
theorem others_performed {kind : Thread → StartOp → Prop}
    (handling : Handling fun op => kind .interrupt (.platform op))
    (calling : Calling fun op => kind .core1 (.platform op))
    (reached : System.Reaches (fun _ _ => True) (powerOn program).recording config)
    (entry : Thread × Event StartAns) (member : entry ∈ config.shared.2)
    (other : entry.1 ≠ Thread.core0) : kind entry.1 entry.2.op := by
  have idle : ((powerOn program).programs entry.1).Within (kind entry.1) := by
    generalize entry.1 = actor at other
    cases actor with
    | core0 => exact absurd rfl other
    | interrupt => trivial
    | core1 => trivial
  have launched {machine : Machine} {program : Starting Unit} {after : Machine}
      (begun : board.launch entry.1 machine program after) : program.Within (kind entry.1) :=
    Machine.launch_within handling calling begun
  exact (System.ownTrace_within launched idle reached).1 _ (System.mem_ownTrace member)

end Record

end System

/-! ## What is known to be set up -/

/-- What has to be set up for an operation of the start-up and for what it hands over. -/
def StartOp.needs : StartOp → List Facility
  | .platform op => op.needs
  | op => op.uses

/-- What is known to be set up after an operation: also what a queued command uses. -/
def StartOp.grants : (op : StartOp) → StartAns op → List Facility
  | .platform .opcodeQueueTryRemove, removed =>
    match (removed : Option QueueEntry) with
    | some entry => entry.func.uses
    | none => []
  | op, _ => op.provides

/-- Watch what is set up, and allow what needs no more. -/
abbrev orderly : Monitor StartAns where
  State := List Facility
  allows ready op := op.needs ⊆ ready
  next ready op answer := op.grants answer ++ ready

/-- An operation uses no more than it needs. -/
theorem uses_subset_needs (op : StartOp) : op.uses ⊆ op.needs := by
  cases op with
  | platform op =>
    cases op with
    | callQueueTryAdd entry => exact List.cons_subset_cons _ (List.nil_subset _)
    | opcodeQueueTryAdd entry => exact List.cons_subset_cons _ (List.nil_subset _)
    | gpioSetIrqEnabled gpio =>
      have listed : Facility.pin gpio ∈ handlerUses gpio :=
        List.mem_append_left _ (by simp)
      simpa [StartOp.uses, StartOp.needs, Op.uses, Op.needs] using listed
    | _ => exact fun _ member => member
  | _ => exact fun _ member => member

/-- More may be set up before, and less is asked for after. -/
abbrev Prepares {α : Type} (before after : List Facility) (program : Starting α) : Prop :=
  orderly.Leads (before ⊆ ·) (after ⊆ ·) program

/-- The same for a function of the rest of the firmware. -/
abbrev Leaves {α : Type} (facilities : List Facility) (program : Firmware α) : Prop :=
  (orderly.along StartOp.platform).Keeps (facilities ⊆ ·) program

/-- An operation grants what it sets up. -/
theorem provides_subset_grants (op : StartOp) (answer : StartAns op) :
    op.provides ⊆ op.grants answer := by
  cases op with
  | platform op =>
    cases op with
    | opcodeQueueTryRemove => exact List.nil_subset _
    | _ => exact fun _ member => member
  | _ => exact fun _ member => member

/-- An allowed operation keeps what is set up. -/
theorem orderly_keeps {facilities : List Facility} (state : orderly.State) (op : StartOp)
    (needs : op.needs ⊆ facilities) (holds : facilities ⊆ state) :
    orderly.allows state op ∧ ∀ answer, facilities ⊆ orderly.next state op answer :=
  ⟨List.Subset.trans needs holds, fun _ => List.Subset.trans holds (List.subset_append_right _ _)⟩

namespace Prepares

variable {α β : Type} {before middle after : List Facility}

/-- One operation sets up what it provides. -/
theorem act (op : StartOp) (needs : op.needs ⊆ before) :
    Prepares before (op.provides ++ before) (start op) :=
  Monitor.Leads.act (fun _ holds => List.Subset.trans needs holds) fun _ holds answer =>
    List.append_subset.mpr
      ⟨List.Subset.trans (provides_subset_grants op answer) (List.subset_append_left _ _),
        List.Subset.trans holds (List.subset_append_right _ _)⟩

/-- One program sets up what the next one needs. -/
theorem bind {program : Starting α} {next : α → Starting β} (first : Prepares before middle program)
    (second : ∀ value, Prepares middle after (next value)) :
    Prepares before after (program >>= next) :=
  Monitor.Leads.bind first second

/-- One operation before others. -/
theorem step {op : StartOp} {resume : StartAns op → Starting α} (needs : op.needs ⊆ before)
    (later : ∀ answer, Prepares (op.provides ++ before) after (resume answer)) :
    Prepares before after (.perform op resume) :=
  (act op needs).bind later

/-- One operation that sets up nothing before others. -/
theorem pass {op : StartOp} {resume : StartAns op → Starting α} (nothing : op.provides = [])
    (needs : op.needs ⊆ before) (later : ∀ answer, Prepares before after (resume answer)) :
    Prepares before after (.perform op resume) := by
  refine step needs fun answer => ?_
  rw [nothing]
  exact later answer

/-- Less is set up than what is known. -/
theorem less {program : Starting α} (known : middle ⊆ before)
    (prepares : Prepares middle after program) : Prepares before after program :=
  prepares.weaken (fun _ holds => List.Subset.trans known holds) fun _ holds => holds

/-- Nothing more is done. -/
theorem done (value : α) (enough : after ⊆ before) :
    Prepares before after (.done value : Starting α) :=
  fun _ holds => List.Subset.trans enough holds

/-- Less may be promised. -/
theorem mono {program : Starting α} (prepares : Prepares before middle program)
    (enough : after ⊆ middle) : Prepares before after program :=
  prepares.weaken (fun _ holds => holds) fun _ holds => List.Subset.trans enough holds

/-- A function of the rest of the firmware. -/
theorem platform {function : Firmware α}
    (leads : (orderly.along StartOp.platform).Leads (before ⊆ ·) (after ⊆ ·) function) :
    Prepares before after (StartUp.platform function) :=
  fun state holds => Monitor.guards_embed.mpr (leads state holds)

/-- A program that needs no more than is set up. -/
theorem within {program : Starting α} (inside : program.Within fun op => op.needs ⊆ before) :
    Prepares before before program :=
  Monitor.Keeps.of_kind orderly_keeps inside

/-- A function of the rest of the firmware that needs no more than is set up. -/
theorem inside {function : Firmware α} (inside : function.Within fun op => op.needs ⊆ before) :
    Prepares before before (StartUp.platform function) :=
  platform (Monitor.Keeps.of_kind (fun state op => orderly_keeps state (.platform op)) inside)

end Prepares

/-! ## The functions that are handed over -/

/-- Routine operations only need the log. -/
theorem routine_needs {facilities : List Facility} (log : .log ∈ facilities) (op : Op)
    (routine : op.Routine) : op.needs ⊆ facilities := by
  have logs : [Facility.log] ⊆ facilities := List.cons_subset.mpr ⟨log, List.nil_subset _⟩
  cases op <;> first | exact routine.elim | exact logs | exact List.nil_subset _

/-- Queueing a function and its response needs the pin and what both use. -/
theorem queueFunctions_needs {facilities : List Facility} {gpio : Nat} {mask : UInt32}
    {func response : EntryFunc} {arg : Int32} {flag : Flag}
    (listed : .log :: .callQueue :: .pin gpio :: (func.uses ++ response.uses) ⊆ facilities) :
    Program.Within (fun op : Op => op.needs ⊆ facilities) (do
      gpioAcknowledgeIrq gpio mask
      callQueueTryAdd func arg
      if ← load flag then callQueueTryAdd response 1) := by
  simp only [List.cons_subset, List.append_subset] at listed
  obtain ⟨log, queue, pin, queued, responded⟩ := listed
  have acknowledged : [Facility.pin gpio] ⊆ facilities := List.cons_subset.mpr ⟨pin, by simp⟩
  exact queueFunctions_allowed (routine_needs log) acknowledged
    (List.cons_subset.mpr ⟨queue, queued⟩) (List.nil_subset _)
    (List.cons_subset.mpr ⟨queue, responded⟩)

/-- A handler needs no more than it uses. -/
theorem handler_needs (gpio : Nat) (eventMask : UInt32) :
    (robotInterruptHandler gpio eventMask).Within fun op => op.needs ⊆ handlerUses gpio := by
  unfold robotInterruptHandler
  split
  · rename_i same
    subst same
    exact .ite (queueFunctions_needs (by decide)) (.ite (queueFunctions_needs (by decide)) trivial)
  split
  · rename_i same
    subst same
    exact .ite (queueFunctions_needs (by decide)) trivial
  split
  · rename_i same
    subst same
    exact .ite (queueFunctions_needs (by decide)) trivial
  split
  · rename_i same
    subst same
    have enabled : handlerUses Bq27742G1.gpioInterrupt ⊆ handlerUses Bq27742G1.gpioInterrupt :=
      fun _ member => member
    have pin : [Facility.pin Bq27742G1.gpioInterrupt] ⊆ handlerUses Bq27742G1.gpioInterrupt := by
      decide
    exact Bq27742G1.onInterrupt_allowed pin (fun _ _ => enabled) (fun _ => List.nil_subset _)
      (fun _ => pin) (by decide) (by decide)
  split
  · rename_i same
    subst same
    exact .ite (queueFunctions_needs (by decide)) trivial
  split
  · rename_i same
    subst same
    exact .ite (queueFunctions_needs (by decide)) trivial
  exact trivial

/-- Every command uses the log and the bus of the MAX77958. -/
theorem uses_of_isOpcode (func : EntryFunc) (opcode : func.isOpcode = true) :
    func.uses = .log :: I2c.i2c0.uses := by
  cases func <;> first | rfl | exact Bool.noConfusion opcode

section Driver

variable [DriverHeader] {facilities : List Facility}

/-- What the transfers of the MAX77958 need. -/
theorem transfers_needs (log : .log ∈ facilities) (bus : I2c.i2c0.uses ⊆ facilities) :
    Max77958.Transfers fun op => op.needs ⊆ facilities where
  routine := routine_needs log
  write _ _ := bus
  read _ := bus
  load _ := List.nil_subset _

omit [DriverHeader] in
/-- A pop queues a command that was known to fit. -/
theorem pop_leaves (uses : EntryFunc.parseInterruptVals.uses ⊆ facilities) :
    Leaves facilities Max77958.opcodeQueuePop := by
  intro ready holds
  have known {facility : Facility} (more : List Facility)
      (listed : facility ∈ EntryFunc.parseInterruptVals.uses) : [facility] ⊆ more ++ ready :=
    List.cons_subset.mpr ⟨List.mem_append_right _ (holds (uses listed)), List.nil_subset _⟩
  have log (more : List Facility) : [Facility.log] ⊆ more ++ ready := known _ (by decide)
  refine ⟨known [] (by decide), fun (removed : Option QueueEntry) => ?_⟩
  cases removed with
  | none => exact ⟨log [], fun _ => holds⟩
  | some entry =>
    have kept : facilities ⊆ entry.func.uses ++ ready :=
      List.Subset.trans holds (List.subset_append_right _ _)
    have fits : .callQueue :: entry.func.uses ⊆ entry.func.uses ++ ready :=
      List.cons_subset.mpr ⟨known _ (by decide) List.mem_cons_self, List.subset_append_left _ _⟩
    refine ⟨known _ (by decide), fun _ => ⟨log _, fun _ => ⟨fits, fun (added : Bool) => ?_⟩⟩⟩
    cases added with
    | false => exact ⟨log _, fun _ => kept⟩
    | true => exact ⟨log _, fun _ => kept⟩

/-- Where the MAX77958 and both queues are set up, its driver keeps what is set up. -/
theorem keeping (uses : EntryFunc.parseInterruptVals.uses ⊆ facilities) :
    Keeping (orderly.along StartOp.platform) (facilities ⊆ ·) fun op => op.needs ⊆ facilities where
  keeps state op := orderly_keeps state (.platform op)
  transfers := transfers_needs (uses (by decide)) fun _ member =>
    uses (by simp_all [EntryFunc.uses])
  store _ _ := List.nil_subset _
  await _ := List.nil_subset _
  storeReply _ := List.nil_subset _
  loadReply := List.nil_subset _
  stray _ _ _ := List.nil_subset _
  enter _ := List.nil_subset _
  message := by
    have listed : Op.needs (.callQueueTryAdd ⟨.pdMsgResponse, 0⟩) ⊆
        EntryFunc.parseInterruptVals.uses := by decide
    exact List.Subset.trans listed uses
  add entry opcode := by
    have listed : Facility.opcodeQueue :: .log :: I2c.i2c0.uses ⊆
        EntryFunc.parseInterruptVals.uses := by decide
    change Facility.opcodeQueue :: entry.func.uses ⊆ facilities
    rw [uses_of_isOpcode entry.func opcode]
    exact List.Subset.trans listed uses
  level := by
    have listed : Op.needs .opcodeQueueGetLevel ⊆ EntryFunc.parseInterruptVals.uses := by decide
    exact List.Subset.trans listed uses
  pop := pop_leaves uses

/-- A queued function needs no more than it uses. -/
theorem call_leaves (entry : QueueEntry) (buffers : Buffers) :
    Leaves entry.func.uses (entry.call buffers >>= fun _ => .done ()) := by
  have returned {program : Firmware Int32} (leaves : Leaves entry.func.uses program) :
      Leaves entry.func.uses (program >>= fun _ => .done ()) := leaves.bind fun _ _ holds => holds
  have inside {program : Firmware Int32}
      (inside : program.Within fun op => op.needs ⊆ entry.func.uses) :
      Leaves entry.func.uses (program >>= fun _ => .done ()) :=
    returned (.of_kind (fun state op => orderly_keeps state (.platform op)) inside)
  have driven {function : Max77958.Driver Int32}
      (keeps : (orderly.along StartOp.platform).StatefulKeeps (entry.func.uses ⊆ ·) function) :
      Leaves entry.func.uses (callDriver buffers function >>= fun _ => .done ()) :=
    returned ((keeps buffers).bind fun _ _ holds => holds)
  have command {function : Max77958.Driver Int32} (same : entry.func.uses = .log :: I2c.i2c0.uses)
      (sends : ∀ {kind : Op → Prop}, Max77958.Transfers kind → StatefulWithin kind function) :
      Leaves entry.func.uses (callDriver buffers function >>= fun _ => .done ()) := by
    have transfers : Max77958.Transfers fun op => op.needs ⊆ entry.func.uses := by
      rw [same]
      exact transfers_needs List.mem_cons_self (List.subset_cons_self _ _)
    exact inside ((sends transfers buffers).bind fun _ => .done _)
  have plain {opcode : UInt8} (same : entry.func.uses = .log :: I2c.i2c0.uses) :
      Leaves entry.func.uses
        (callDriver buffers (Max77958.plainOpcode opcode) >>= fun _ => .done ()) :=
    command same fun transfers => Max77958.plainOpcode_within transfers _
  have response (flag : Flag) : Leaves entry.func.uses ((do
      store flag true
      return 0 : Firmware Int32) >>= fun _ => .done ()) :=
    inside ⟨List.nil_subset _, fun _ => trivial⟩
  obtain ⟨func, data⟩ := entry
  cases func with
  | parseInterruptVals => exact driven (keeping fun _ member => member).parseInterruptVals
  | pdMsgResponse => exact driven (keeping fun _ member => member).pdMsgResponse
  | gpioSet => exact command rfl fun transfers => Max77958.gpioSet_within transfers data
  | customerConfigWrite => exact command rfl Max77958.customerConfigWrite_within
  | snkPdoRequest => exact command rfl Max77958.snkPdoRequest_within
  | drv8830FaultHandler =>
    exact inside (Drv8830.faultHandler_allowed ⟨routine_needs List.mem_cons_self,
      fun _ _ _ => List.subset_cons_self _ _, fun _ _ _ => List.subset_cons_self _ _⟩ data)
  | ncp3901OnWirelessChargerAttached =>
    exact inside ⟨fun _ member => member, fun _ => ⟨List.nil_subset _, fun _ => trivial⟩⟩
  | ncp3901OnWirelessChargerDetached =>
    exact inside ⟨fun _ member => member, fun _ => ⟨List.nil_subset _, fun _ => trivial⟩⟩
  | max77976ParseInterruptVals =>
    exact inside (Max77976.parseInterruptVals_allowed ⟨routine_needs List.mem_cons_self,
      fun _ _ => List.subset_cons_self _ _, fun _ => List.subset_cons_self _ _,
      fun _ _ => List.subset_cons_self _ _⟩ (List.nil_subset _) (List.nil_subset _))
  | bq27742G1ParseInterruptVals =>
    have bus : I2c.i2c0.uses ⊆ EntryFunc.bq27742G1ParseInterruptVals.uses := by decide
    have pin : [Facility.pin Bq27742G1.gpioInterrupt] ⊆
        EntryFunc.bq27742G1ParseInterruptVals.uses := by decide
    have handler : handlerUses Bq27742G1.gpioInterrupt ⊆
        EntryFunc.bq27742G1ParseInterruptVals.uses := by decide
    exact inside (Bq27742G1.parseInterruptVals_allowed pin (fun _ _ => handler)
      (fun _ => List.nil_subset _)
      ⟨routine_needs List.mem_cons_self, fun _ _ => bus, fun _ _ => bus⟩)
  | max77958TestResponse => exact response _
  | drv8830TestResponse => exact response _
  | ncp3901TestResponse => exact response _
  | max77976TestResponse => exact response _
  | stopCore1 => exact response _
  | _ => exact plain rfl

end Driver

/-! ## The phases of the start -/

/-- What is set up when core 1 is launched. -/
def platformReady : List Facility := [.log, .stdio, .callback, .interrupts, .callQueue]

/-- What is set up with the buses. -/
def busesReady : List Facility := platformReady ++ I2c.i2c0.uses ++ I2c.i2c1.uses

/-- What is set up with the lights and wireless power. -/
def wirelessReady : List Facility :=
  busesReady ++ [.adc, .analog 0, .analog 1] ++
    [ledEnPin, wirelessChgEn, Ncp3901.gpioWirelessCharger, gpioOtg].map .pin

/-- What is set up with the chargers. -/
def chargersReady : List Facility :=
  wirelessReady ++ [Max77976.gpioInterrupt, Sn74ahc125rgyr.gpio1, Sn74ahc125rgyr.gpio2].map .pin

/-- What is set up with the MAX77958. -/
def controllerReady : List Facility :=
  chargersReady ++ [.opcodeQueue, .pin Max77958.gpioInterrupt]

/-- What is set up with the fuel gauge. -/
def gaugeReady : List Facility := controllerReady ++ [.pin Bq27742G1.gpioInterrupt]

/-- What is set up with the motor drivers. -/
def motorsReady : List Facility :=
  gaugeReady ++ [Drv8830.gpioFault1, Drv8830.gpioFault2].map .pin

/-- What is set up in the end. -/
def robotReady : List Facility := motorsReady ++ [.pioProgram, .encoder 0, .encoder 1]

/-- `on_start` up to the launch of core 1. -/
theorem startPlatform_prepares : Prepares [] platformReady startPlatform := by
  repeat refine .step (by decide) fun _ => ?_
  exact .done _ (by decide)

/-- `i2c_start`. -/
theorem i2cStart_prepares : Prepares platformReady busesReady i2cStart := by
  repeat refine .step (by decide) fun _ => ?_
  exact .done _ (by decide)

/-- What the transfers of the charger need. -/
theorem charger_exchanges {facilities : List Facility} (log : .log ∈ facilities)
    (bus : I2c.i2c1.uses ⊆ facilities) :
    Max77976.Exchanges fun op => op.needs ⊆ facilities where
  routine := routine_needs log
  select _ _ := bus
  mask _ := bus
  read _ _ := bus

/-- What the transfers of the fuel gauge need. -/
theorem gauge_exchanges {facilities : List Facility} (log : .log ∈ facilities)
    (bus : I2c.i2c0.uses ⊆ facilities) :
    Bq27742G1.Exchanges fun op => op.needs ⊆ facilities where
  routine := routine_needs log
  write _ _ := bus
  read _ _ := bus

/-- What the transfers of the motor drivers need. -/
theorem motor_exchanges {facilities : List Facility} (log : .log ∈ facilities)
    (bus : I2c.i2c0.uses ⊆ facilities) :
    Drv8830.Exchanges fun op => op.needs ⊆ facilities where
  routine := routine_needs log
  write _ _ _ := bus
  read _ _ _ := bus

/-- What is set up with the lights. -/
def lightsReady : List Facility := .pin ledEnPin :: .adc :: busesReady

/-- `adc_init` and `turn_on_leds`, whichever slice the SDK answers. -/
theorem turnOnLeds_prepares : Prepares (.adc :: busesReady) lightsReady turnOnLeds :=
  .step (by decide) fun _ => .pass rfl (by decide) fun _ => .pass rfl (List.nil_subset _) fun _ =>
    .pass rfl (by decide) fun _ => .pass rfl (List.nil_subset _) fun _ => .done _ (by decide)

/-- `STWLC38JRM_init` and `ncp3901_init`. -/
theorem wireless_prepares : Prepares lightsReady wirelessReady (do
    stwlc38jrmInit wirelessChgEn wirelessChgVrect
    ncp3901Init) := by
  repeat refine .step (by decide) fun _ => ?_
  exact .done _ (by decide)

/-- `on_start` from there to `max77958_init`. -/
theorem startChargers_prepares : Prepares platformReady chargersReady startChargers := by
  have bus : I2c.i2c1.uses ⊆ .pin Max77976.gpioInterrupt :: wirelessReady := by decide
  have configured := Max77976.configure_allowed (charger_exchanges (by decide) bus)
    (List.nil_subset _) fun _ _ => bus
  have pins : Prepares wirelessReady (.pin Max77976.gpioInterrupt :: wirelessReady) (platform (do
      rp2040Log "max77976 init started\n" []
      perform (.gpioInit Max77976.gpioInterrupt)
      perform (.gpioPut Max77976.gpioInterrupt false)
      perform (.gpioSetDir Max77976.gpioInterrupt false)
      perform (.gpioPullUp Max77976.gpioInterrupt)
      gpioSetIrqEnabled Max77976.gpioInterrupt gpioIrqEdgeFall true)) := by
    repeat refine .step (by decide) fun _ => ?_
    exact .done _ (by decide)
  have shifters : Prepares (.pin Max77976.gpioInterrupt :: wirelessReady) chargersReady (do
      platform (Sn74ahc125rgyr.init Sn74ahc125rgyr.gpio1)
      platform (Sn74ahc125rgyr.init Sn74ahc125rgyr.gpio2)) := by
    repeat refine .step (by decide) fun _ => ?_
    exact .done _ (by decide)
  exact i2cStart_prepares.bind fun _ => .step (by decide) fun _ =>
    turnOnLeds_prepares.bind fun _ => wireless_prepares.bind fun _ => pins.bind fun _ =>
    .bind (.inside configured) fun _ => shifters

/-- `bq27742_g1_init`. -/
theorem gauge_prepares : Prepares controllerReady gaugeReady bq27742G1Init := by
  have before : Bq27742G1.Exchanges fun op => op.needs ⊆ controllerReady :=
    gauge_exchanges (by decide) (by decide)
  have handler : handlerUses Bq27742G1.gpioInterrupt ⊆ gaugeReady := by decide
  have finish : Prepares gaugeReady gaugeReady (platform Bq27742G1.initEnd) :=
    .inside (Bq27742G1.initEnd_allowed (routine_needs (by decide)) (by decide)
      (fun _ _ => handler) (List.nil_subset _) (fun _ => List.nil_subset _) (by decide))
  refine .bind (.inside (.act (by decide))) fun _ =>
    .bind (.inside (Bq27742G1.clearShutdown_allowed before)) fun _ =>
    .bind (.inside (Bq27742G1.configureHostInterrupts_allowed before)) fun _ => ?_
  exact .step (by decide) fun _ => .step (by decide) fun _ => .step (by decide) fun _ =>
    .step (by decide) fun _ => .less (by decide) finish

/-- `drv8830_init`. -/
theorem motors_prepares : Prepares gaugeReady motorsReady (platform Drv8830.init) := by
  repeat refine .step (by decide) fun _ => ?_
  exact .done _ (by decide)

/-- `encoder_init`, wherever the program of the encoders is loaded. -/
theorem encoders_prepares : Prepares motorsReady robotReady encoderInit := by
  have program {facilities : List Facility} : [Facility.pioProgram] ⊆ .pioProgram :: facilities :=
    List.cons_subset_cons _ (List.nil_subset _)
  refine .step (List.nil_subset _) fun offset => ?_
  have first : Prepares (.pioProgram :: motorsReady) (.encoder 0 :: .pioProgram :: motorsReady)
      (start (.quadratureEncoderProgramInit 0 offset encoder1ChannelA 0)) := .act _ program
  have second : Prepares (.encoder 0 :: .pioProgram :: motorsReady)
      (.encoder 1 :: .encoder 0 :: .pioProgram :: motorsReady)
      (start (.quadratureEncoderProgramInit 1 offset encoder2ChannelA 0)) :=
    .act _ (List.Subset.trans program (List.subset_cons_self _ _))
  exact first.bind fun _ => Prepares.mono second (by decide)

/-- What the interrupt tests need. -/
theorem testing_needs : Testing fun op => op.needs ⊆ robotReady := by
  have pins : ∀ gpio ∈ interruptPins, [Facility.pin gpio] ⊆ robotReady := by decide
  exact ⟨⟨routine_needs (by decide), pins, pins, fun _ => List.nil_subset _,
    fun _ _ => List.nil_subset _, fun _ => List.nil_subset _⟩,
    fun gpio listed _ => pins gpio listed⟩

/-- What the loop in `main` needs. -/
theorem serving_needs : Serving fun op => op.needs ⊆ robotReady := by
  have log : Facility.log ∈ robotReady := by decide
  have bus : I2c.i2c0.uses ⊆ robotReady := by decide
  have stdio : [Facility.stdio] ⊆ robotReady := by decide
  have inputs : ∀ input < 2, [Facility.adc, .analog input] ⊆ robotReady := by decide
  have encoders : ∀ sm < 2, [Facility.encoder sm] ⊆ robotReady := by decide
  exact {
    gauge := gauge_exchanges log bus
    charger := charger_exchanges log (by decide)
    motors := motor_exchanges log bus
    control := fun _ _ _ => bus
    attached := List.nil_subset _
    select := inputs
    convert := by decide
    count := encoders
    receive := fun _ => stdio
    send := fun _ => stdio
    acquire := by decide
    release := by decide
    size := by decide
    flush := by decide
    strayRead := fun _ _ _ => List.nil_subset _
    enter := fun _ => List.nil_subset _ }

section Robot

variable [DriverHeader]

/-- `max77958_init`. -/
theorem controller_prepares (buffers : Buffers) :
    Prepares chargersReady controllerReady (platform ((Max77958.init :
      Max77958.Driver Unit).run buffers)) := by
  have log : Prepares chargersReady chargersReady
      (start (.platform (.rp2040Log "max77958 init started\n" []))) := .act _ (by decide)
  have queue : Prepares chargersReady (.opcodeQueue :: chargersReady)
      (start (.platform .opcodeQueueInit)) := .act _ (by decide)
  have pin : Prepares (.opcodeQueue :: chargersReady) controllerReady
      (start (.platform (.gpioInit Max77958.gpioInterrupt))) :=
    (Prepares.act _ (by decide)).mono (by decide)
  have before : EntryFunc.parseInterruptVals.uses ⊆ .opcodeQueue :: chargersReady := by decide
  have after : EntryFunc.parseInterruptVals.uses ⊆ controllerReady := by decide
  have device := (keeping after).initDevice (keeping before) pin (by decide) (by decide) (by decide)
    (by decide)
  have leads : (orderly.along StartOp.platform).StatefulLeads (chargersReady ⊆ ·)
      (controllerReady ⊆ ·) Max77958.init :=
    .bind (.lift log) fun _ => .bind (.lift queue) fun _ => device
  exact .platform (leads buffers)

/-- `on_start` from `max77958_init` to the encoders. -/
theorem startRobot_prepares (buffers : Buffers) :
    Prepares chargersReady robotReady (startRobot buffers) := by
  have pause {facilities : List Facility} (ms : Nat) :
      Prepares facilities facilities (platform (perform (.sleepMs ms))) :=
    .inside (.act (List.nil_subset _))
  have version : Bq27742G1.fwVersionCheck.Within fun op => op.needs ⊆ gaugeReady :=
    Bq27742G1.fwVersionCheck_allowed (gauge_exchanges (by decide) (by decide))
  refine (controller_prepares buffers).bind fun _ => (pause 1000).bind fun _ =>
    .bind (.inside (.act (by decide))) fun _ => gauge_prepares.bind fun _ =>
    .bind (.inside version) fun _ => .bind (.inside (.act (by decide))) fun _ =>
    .bind (.inside (.act (by decide))) fun _ => motors_prepares.bind fun _ =>
    (pause 1000).bind fun _ => encoders_prepares.bind fun _ =>
    .bind (.inside (.act (by decide))) fun _ => (pause 1000).bind fun _ =>
    .bind (.inside (.act (by decide))) fun _ => .done _ (by decide)

/-- The functions that run once everything is set up need no more. -/
theorem standing_needs : Standing orderly (robotReady ⊆ ·) fun op => op.needs ⊆ robotReady where
  controller := keeping (by decide)
  charger := charger_exchanges (by decide) (by decide)
  drives patience := (keeping (by decide)).inside (testing_needs.driveInterrupt_allowed patience)
  devices := (keeping (by decide)).inside (testing_needs.deviceTests_allowed
    (charger_exchanges (by decide) (by decide)) (motor_exchanges (by decide) (by decide)))
  null := Prepares.within (.act (List.nil_subset _))
  scan i2c block := by
    have bus : i2c.uses ⊆ robotReady := by cases i2c <;> decide
    exact Prepares.within
      (i2cScan_allowed (List.nil_subset _) (fun _ => bus) block)

/-- `main` never performs an operation before what it needs is set up. -/
theorem main_prepares (patience : Nat) (blocks : I2c → Vector UInt8 maxDevices)
    (rp2040State : Rp2040State) (rounds : Nat) :
    Prepares [] robotReady (main patience blocks rp2040State rounds) := by
  have motors := turnMotors_allowed serving_needs.gauge.routine serving_needs.control
    serving_needs.count Statics.initial.encoders
  have started : Prepares [] robotReady (onStart patience blocks rp2040State .initial) :=
    startPlatform_prepares.bind fun _ => startChargers_prepares.bind fun _ =>
      (startRobot_prepares _).bind fun _ => .bind (.inside motors) fun _ =>
      .bind (standing_needs.robotUnitTests patience _) fun _ =>
      .bind (standing_needs.lookAround blocks _) fun _ => .done _ (by decide)
  refine started.bind fun statics => .bind (.inside (.act (List.nil_subset _))) fun _ => ?_
  exact .inside ((serving_needs.serve_allowed rounds statics.serial).bind fun _ => trivial)

end Robot

/-! ## Every interleaving -/

/-- What is handed over finds everything set up. -/
structure Machine.Prepared (machine : Machine) : Prop where
  /-- Core 1 can run what is queued. -/
  called : ∀ entry ∈ machine.callQueue, entry.func.uses ⊆ machine.ready
  /-- It will be able to run the commands. -/
  waiting : ∀ entry ∈ machine.opcodeQueue, entry.func.uses ⊆ machine.ready
  /-- A pin that may interrupt has what its handler uses. -/
  armed : ∀ gpio ∈ machine.armed, handlerUses gpio ⊆ machine.ready

/-- Nothing is queued or armed at first. -/
theorem off_prepared : Machine.off.Prepared := ⟨by simp [Machine.off], by simp [Machine.off],
  by simp [Machine.off]⟩

/-- Setting up more keeps everything prepared. -/
theorem Machine.Prepared.grow {machine : Machine} (prepared : machine.Prepared)
    {ready : List Facility} (more : machine.ready ⊆ ready) :
    { machine with ready := ready }.Prepared :=
  ⟨fun entry member => List.Subset.trans (prepared.called entry member) more,
    fun entry member => List.Subset.trans (prepared.waiting entry member) more,
    fun gpio member => List.Subset.trans (prepared.armed gpio member) more⟩

/-- What is in a queue after an addition was there or is the new entry. -/
theorem mem_added {queue after : List QueueEntry} {capacity : Nat} {entry : QueueEntry}
    {success : Bool} (done : Machine.added queue capacity entry success = some after)
    {other : QueueEntry} (member : other ∈ after) : other ∈ queue ∨ other = entry := by
  unfold Machine.added at done
  split at done
  · obtain rfl := Option.some.inj done
    cases success with
    | false => exact .inl member
    | true =>
      obtain before | last := List.mem_append.mp member
      · exact .inl before
      · exact .inr (List.mem_singleton.mp last)
  · cases done

/-- An allowed operation hands over only what finds everything set up. -/
theorem Machine.Prepared.act {machine after : Machine} {op : StartOp} {answer : StartAns op}
    (prepared : machine.Prepared) (needs : op.needs ⊆ machine.ready)
    (acted : machine.act op answer = some after) :
    { after with ready := machine.ready }.Prepared := by
  have same {moved : Machine} (unchanged : some machine = some moved) :
      { moved with ready := machine.ready }.Prepared := by
    obtain rfl := Option.some.inj unchanged
    exact prepared
  cases op with
  | callQueueInit count =>
    obtain rfl := Option.some.inj acted
    exact ⟨by simp, prepared.waiting, prepared.armed⟩
  | multicoreLaunchCore1 =>
    obtain rfl := Option.some.inj acted
    exact ⟨prepared.called, prepared.waiting, prepared.armed⟩
  | platform op =>
    cases op with
    | opcodeQueueInit =>
      obtain rfl := Option.some.inj acted
      exact ⟨prepared.called, by simp, prepared.armed⟩
    | callQueueTryAdd entry =>
      obtain ⟨queue, grown, rfl⟩ := Option.map_eq_some_iff.mp acted
      have fits : entry.func.uses ⊆ machine.ready :=
        List.Subset.trans (List.subset_cons_self _ _) needs
      exact ⟨fun other member => (mem_added grown member).elim (prepared.called other)
        fun new => new ▸ fits, prepared.waiting, prepared.armed⟩
    | opcodeQueueTryAdd entry =>
      obtain ⟨queue, grown, rfl⟩ := Option.map_eq_some_iff.mp acted
      have fits : entry.func.uses ⊆ machine.ready :=
        List.Subset.trans (List.subset_cons_self _ _) needs
      exact ⟨prepared.called, fun other member => (mem_added grown member).elim
        (prepared.waiting other) fun new => new ▸ fits, prepared.armed⟩
    | opcodeQueueTryRemove =>
      obtain ⟨_, moved⟩ := Option.ite_none_right_eq_some.mp acted
      obtain rfl := Option.some.inj moved
      exact ⟨prepared.called, fun other member => prepared.waiting other
        (List.mem_of_mem_tail member), prepared.armed⟩
    | opcodeQueueGetLevel =>
      exact same (Option.ite_none_right_eq_some.mp acted).2
    | gpioSetIrqEnabled gpio events enabled =>
      cases enabled with
      | false => exact same acted
      | true =>
        obtain rfl := Option.some.inj acted
        exact ⟨prepared.called, prepared.waiting, List.forall_mem_cons.mpr ⟨needs, prepared.armed⟩⟩
    | _ => exact same acted
  | _ => exact same acted

/-- What is granted is set up. -/
theorem Machine.Prepared.granted {machine after : Machine} {op : StartOp} {answer : StartAns op}
    (prepared : machine.Prepared) (acted : machine.act op answer = some after) :
    op.grants answer ⊆ op.provides ++ machine.ready := by
  have provided : op.provides ⊆ op.provides ++ machine.ready := List.subset_append_left _ _
  cases op with
  | platform op =>
    cases op with
    | opcodeQueueTryRemove =>
      obtain ⟨head, _⟩ := Option.ite_none_right_eq_some.mp acted
      subst head
      cases removed : machine.opcodeQueue.head? with
      | none => exact List.nil_subset _
      | some entry => exact prepared.waiting entry (List.mem_of_mem_head? removed)
    | _ => exact provided
  | _ => exact provided

/-- A guarded program stays guarded when more is set up. -/
theorem guards_grow {program : Starting Unit} {ready more : List Facility}
    (guards : orderly.Guards ready program fun _ _ => True) (grown : ready ⊆ more) :
    orderly.Guards more program fun _ _ => True := by
  have permits (first second : orderly.State) (op : StartOp) (wider : first ⊆ second)
      (allowed : orderly.allows first op) : orderly.allows second op :=
    List.Subset.trans allowed wider
  have keeps (first second : orderly.State) (op : StartOp) (answer : StartAns op)
      (wider : first ⊆ second) : orderly.next first op answer ⊆ orderly.next second op answer :=
    List.append_subset.mpr ⟨List.subset_append_left _ _,
      List.Subset.trans wider (List.subset_append_right _ _)⟩
  exact guards.widen permits keeps grown fun _ _ _ _ _ => trivial

section Interleavings

variable [DriverHeader]

/-- A launched program finds everything set up, and a launch hands over nothing. -/
theorem Machine.Prepared.launch {thread : Thread} {machine after : Machine}
    {program : Starting Unit} (prepared : machine.Prepared)
    (launched : machine.launch thread program after) :
    after.Prepared ∧ after.ready = machine.ready ∧
      orderly.Guards machine.ready program fun _ _ => True := by
  cases thread with
  | core0 => exact launched.elim
  | interrupt =>
    obtain ⟨rfl, _, _, gpio, armed, eventMask, rfl⟩ := launched
    have handled := Prepares.inside (handler_needs gpio eventMask)
    exact ⟨prepared, rfl, (handled _ (prepared.armed gpio armed)).mono fun _ _ _ => trivial⟩
  | core1 =>
    obtain ⟨_, entry, rest, buffers, queue, rfl, rfl⟩ := launched
    have queued : ∀ other ∈ entry :: rest, other.func.uses ⊆ machine.ready :=
      queue ▸ prepared.called
    have called := Prepares.platform (call_leaves entry buffers)
    exact ⟨⟨fun other member => queued other (List.mem_cons_of_mem _ member), prepared.waiting,
      prepared.armed⟩, rfl, (called _ (queued entry List.mem_cons_self)).mono fun _ _ _ => trivial⟩

/-- From the moment that the board is switched on, whatever interrupts, whenever core 1 runs what is
queued, and however long the loop of `main` goes on: no thread performs an operation before the
facilities that it uses have been set up. -/
theorem used_when_ready {patience : Nat} {blocks : I2c → Vector UInt8 maxDevices}
    {rp2040State : Rp2040State} {rounds : Nat} {config : board.Config}
    (reached : System.Reaches (fun _ _ => True)
      (powerOn (main patience blocks rp2040State rounds)) config)
    {thread : Thread} {op : StartOp}
    (next : (config.programs thread).next? = some op) :
    op.uses ⊆ Machine.ready config.shared := by
  have kept : Machine.Prepared config.shared ∧ ∀ thread,
      orderly.Guards (Machine.ready config.shared) (config.programs thread) fun _ _ => True := by
    refine System.secured (fun _ (machine : Machine) program =>
      orderly.Guards machine.ready program fun _ _ => True) ?_ ?_
      (fun _ drifted => False.elim drifted) off_prepared ?_ reached
    · intro thread machine op resume answer after prepared guarded done
      obtain ⟨moved, acted, rfl⟩ := Option.map_eq_some_iff.mp done
      have grown : machine.ready ⊆ op.provides ++ machine.ready := List.subset_append_right _ _
      refine ⟨(prepared.act guarded.1 acted).grow grown, ?_,
        fun _ _ _ other => guards_grow other grown⟩
      exact guards_grow (guarded.2 answer) (List.append_subset.mpr ⟨prepared.granted acted, grown⟩)
    · intro thread machine program after prepared _ launched
      obtain ⟨stays, ready, guards⟩ := prepared.launch launched
      refine ⟨stays, ready ▸ guards, fun _ _ _ other => ?_⟩
      rw [ready]
      exact other
    · intro thread
      cases thread with
      | core0 =>
        have prepares := main_prepares patience blocks rp2040State rounds []
        exact (prepares (List.nil_subset _)).mono fun _ _ _ => trivial
      | interrupt => trivial
      | core1 => trivial
  have guarded := kept.2 thread
  cases running : config.programs thread with
  | done value => rw [running] at next; cases next
  | perform found resume =>
    rw [running] at next guarded
    obtain rfl : found = op := Option.some.inj next
    exact List.Subset.trans (uses_subset_needs _) guarded.1

end Interleavings

/-! ## A run -/

/-- Answers to the start by a board on which every transfer succeeds, and everything reads as zero
except the flags and the pins. -/
def answer (machine : Machine) : (op : StartOp) → Option (StartAns op)
  | .platform (.rp2040Log ..) => some ()
  | .platform (.sleepMs _) => some ()
  | .platform (.gpioInit _) => some ()
  | .platform (.gpioPut ..) => some ()
  | .platform (.gpioSetDir ..) => some ()
  | .platform (.gpioPullUp _) => some ()
  | .platform (.gpioGet _) => some true
  | .platform (.gpioSetIrqEnabled ..) => some ()
  | .platform .cexceptionTry => some ()
  | .platform (.i2cWriteTimeoutUs _ _ src _) => some (src.length : Int)
  | .platform (.i2cReadTimeoutUs _ _ len _) => some ((len : Int), .replicate len 0)
  | .platform (.i2cWriteBlocking _ _ src _) => some (src.length : Int)
  | .platform .opcodeQueueInit => some ()
  | .platform (.opcodeQueueTryAdd _) =>
    some (decide (machine.opcodeQueue.length < opcodeQueueCapacity))
  | .platform .opcodeQueueTryRemove => some machine.opcodeQueue.head?
  | .platform .opcodeQueueGetLevel => some machine.opcodeQueue.length
  | .platform (.callQueueTryAdd _) =>
    some (decide (machine.callQueue.length < machine.callCapacity))
  | .platform (.quadratureEncoderGetCount _) => some (0 : Int32)
  | .platform .loadOpCodeReturnBuf => some (.replicate 33 0)
  | .platform (.load _) => some true
  | .platform (.store ..) => some ()
  | .platform (.await _) => some ()
  | .platform (.enter _) => some ()
  | .platform (.strayRead _) => some (0 : UInt8)
  | .platform (.strayStore _) => some ()
  | .pwmGpioToSliceNum _ => some (0 : Nat)
  | .pioAddProgram => some (0 : Nat)
  | .loadNull => some (0 : UInt8)
  | .rp2040LogInit => some ()
  | .stdioInitAll => some ()
  | .stdioSetTranslateCrlf _ => some ()
  | .gpioSetIrqCallback => some ()
  | .irqSetEnabled _ => some ()
  | .callQueueInit _ => some ()
  | .resultsQueueInit _ => some ()
  | .multicoreLaunchCore1 => some ()
  | .i2cInit .. => some ()
  | .gpioSetFunction .. => some ()
  | .gpioDisablePulls _ => some ()
  | .adcInit => some ()
  | .adcGpioInit _ => some ()
  | .pwmSetWrap .. => some ()
  | .pwmSetGpioLevel .. => some ()
  | .pwmSetEnabled .. => some ()
  | .quadratureEncoderProgramInit .. => some ()
  | _ => none

/-- The board after an operation that is answered, as far as it is asked to go. -/
def reply (goesOn : StartOp → Bool) (machine : Machine) (op : StartOp) :
    Option (StartAns op × Machine) :=
  if goesOn op then
    (answer machine op).bind fun answered =>
      (machine.exec op answered).map fun after => (answered, after)
  else none

/-- The board admits what it is answered. -/
theorem reply_admitted (goesOn : StartOp → Bool) (machine : Machine) (op : StartOp)
    (answered : StartAns op) (after : Machine)
    (replied : reply goesOn machine op = some (answered, after)) :
    machine.exec op answered = some after := by
  unfold reply at replied
  split at replied
  · obtain ⟨found, _, moved⟩ := Option.bind_eq_some_iff.mp replied
    obtain ⟨final, done, same⟩ := Option.map_eq_some_iff.mp moved
    obtain ⟨rfl, rfl⟩ := Prod.mk.inj same
    exact done
  · cases replied

/-- The start stops at the pin that follows the wireless charger's. -/
def beforeOtg : StartOp → Bool
  | .platform (.gpioInit gpio) => gpio != gpioOtg
  | _ => true

section Run

variable [DriverHeader]

/-- The firmware that is started. -/
def started : board.Config := powerOn (main 0 (fun _ => .replicate maxDevices 0) .zero 0)

/-- The start up to there. -/
def paused : board.Config := started.drive Thread.core0 (reply beforeOtg)

/-- The wireless charger interrupts it. -/
def interrupted : board.Config where
  shared := paused.shared
  programs := Function.update paused.programs Thread.interrupt
    (platform (robotInterruptHandler Ncp3901.gpioWirelessCharger gpioIrqEdgeFall))

/-- Both are reached. -/
theorem reaches_interrupted : System.Reaches (fun _ _ => True) started interrupted := by
  have start : System.Reaches (fun _ _ => True) started started := .refl
  have halted : System.Reaches (fun _ _ => True) started paused :=
    start.drive Thread.core0 (reply beforeOtg)
      (fun machine op answered after replied =>
        ⟨trivial, reply_admitted beforeOtg machine op answered after replied⟩)
      fun other hit => by
        obtain rfl : other = Thread.interrupt := hit.1
        exact ⟨Thread.noConfusion, rfl⟩
  have free : paused.Free Thread.interrupt := fun _ hit => Thread.noConfusion hit.2
  have launched : Machine.launch .interrupt paused.shared
      (platform (robotInterruptHandler Ncp3901.gpioWirelessCharger gpioIrqEdgeFall))
          paused.shared :=
    ⟨rfl, of_decide_eq_true rfl, of_decide_eq_true rfl, _, of_decide_eq_true rfl, _, rfl⟩
  exact halted.step trivial (.launch free rfl launched)

/-- The start goes on until the identity of the charger is read, which is not the expected one. -/
def stuck : board.recorded.Config :=
  started.driveRecorded Thread.core0 id (reply fun _ => true) Machine.off

/-- What the start has recorded when it is not asked to go on is reached. -/
theorem reaches_recorded (goesOn : StartOp → Bool) : System.Reaches (fun _ _ => True)
    started.recording (started.driveRecorded Thread.core0 id (reply goesOn) Machine.off) := by
  have free (other : Thread) (hit : board.preempts other Thread.core0) :
      other ≠ Thread.core0 ∧ (started.programs other).isDone = true := by
    obtain rfl : other = Thread.interrupt := hit.1
    exact ⟨Thread.noConfusion, rfl⟩
  exact @System.Reaches.driveRecorded _ _ board _ started Thread.core0 id _ Machine.off rfl
    (reply_admitted goesOn) free

/-- It is reached. -/
theorem reaches_stuck :
    System.Reaches (fun _ _ => True) started.recording stuck := reaches_recorded _

end Run

/-- The handler of the wireless charger finds its pin set up, while the pin after it is not. -/
theorem used_when_ready_interrupted :
    let _ := Max77958.sampleHeader
    (interrupted.programs Thread.interrupt).next? =
        some (.platform (.gpioAcknowledgeIrq Ncp3901.gpioWirelessCharger gpioIrqEdgeFall)) ∧
      [Facility.pin Ncp3901.gpioWirelessCharger] ⊆ Machine.ready interrupted.shared ∧
      Facility.pin gpioOtg ∉ Machine.ready interrupted.shared := by
  let _ := Max77958.sampleHeader
  have next : (interrupted.programs Thread.interrupt).next? =
      some (.platform (.gpioAcknowledgeIrq Ncp3901.gpioWirelessCharger gpioIrqEdgeFall)) := rfl
  exact ⟨next, used_when_ready reaches_interrupted next, of_decide_eq_true rfl⟩

end StartUp

end RobotFirmware
