import RobotFirmware.TypeC.Board

/-!
# The tests of the interrupts

Core 0 runs the interrupt tests of the charger, the wireless charger and the motor drivers. A phase
of a test sets the started flag of its device, moves a pin and waits for the completed flag. While
the started flag is set, every serviced edge of the device queues a response, which sets the
completed flag on core 1. Edges are latched at any time on any pin, and the callback preempts
core 0.

The flags are statics of the files of the devices, so only code of these files touches them.
-/

namespace RobotFirmware

open Interaction
open TypeC (Thread callQueueCapacity)

namespace SelfTests

/-! ## Devices and phases -/

/-- The devices whose interrupts are tested. -/
inductive Tested where
  | max77976
  | ncp3901
  | drv8830
  deriving DecidableEq

/-- The phases of the tests. -/
inductive Phase where
  /-- The only phase of `test_max77976_interrupt`. -/
  | charger
  /-- The first phase of `test_ncp3901_interrupt`. -/
  | connect
  /-- Its second phase. -/
  | disconnect
  /-- The first phase of `test_drv8830_interrupt`. -/
  | encoder1
  /-- Its second phase. -/
  | encoder2
  deriving DecidableEq

namespace Phase

/-- The device under test. -/
def tested : Phase → Tested
  | .charger => .max77976
  | .connect => .ncp3901
  | .disconnect => .ncp3901
  | .encoder1 => .drv8830
  | .encoder2 => .drv8830

/-- The pin that the phase moves. -/
def pin : Phase → Nat
  | .charger => Max77976.gpioInterrupt
  | .connect => Ncp3901.gpioWirelessCharger
  | .disconnect => Ncp3901.gpioWirelessCharger
  | .encoder1 => Drv8830.gpioFault1
  | .encoder2 => Drv8830.gpioFault2

/-- The message that the phase has passed. -/
def passed : Phase → String
  | .charger => "test_max77976_interrupt: Passed after %lu milliseconds.\n"
  | .connect => "test_ncp3901_interrupt_wireless_connect: PASSED after %lu milliseconds.\n"
  | .disconnect => "test_ncp3901_interrupt_wireless_disconnect: PASSED after %lu milliseconds.\n"
  | .encoder1 => "test_drv8830_interrupt: Encoder 1 PASSED after %lu milliseconds.\n"
  | .encoder2 => "test_drv8830_interrupt: Encoder 2 PASSED after %lu milliseconds.\n"

/-- All phases. -/
def all : List Phase := [.charger, .connect, .disconnect, .encoder1, .encoder2]

/-- The list is complete. -/
theorem mem_all (phase : Phase) : phase ∈ all := by
  cases phase <;> decide

/-- The message tells the phase. -/
theorem passed_injective {first second : Phase} (same : first.passed = second.passed) :
    first = second := by
  have apart : (all.all fun first => all.all fun second =>
      first.passed != second.passed || first == second) = true := by decide
  have told := List.all_eq_true.mp (List.all_eq_true.mp apart first first.mem_all) second
    second.mem_all
  simpa [same] using told

end Phase

namespace Tested

/-- The first phase of a test. -/
def first : Tested → Phase
  | .max77976 => .charger
  | .ncp3901 => .connect
  | .drv8830 => .encoder1

/-- The last phase of a test. -/
def last : Tested → Phase
  | .max77976 => .charger
  | .ncp3901 => .disconnect
  | .drv8830 => .encoder2

/-- The first phase tests the device. -/
@[simp] theorem first_tested (tested : Tested) : tested.first.tested = tested := by
  cases tested <;> rfl

/-- So does the last one. -/
@[simp] theorem last_tested (tested : Tested) : tested.last.tested = tested := by
  cases tested <;> rfl

/-- The test of a device. -/
def test : Tested → Firmware Unit
  | .max77976 => Max77976.testInterrupt
  | .ncp3901 => Ncp3901.testInterrupt
  | .drv8830 => Drv8830.testInterrupt

end Tested

/-- The device that a pin belongs to. -/
def tested? (gpio : Nat) : Option Tested :=
  if gpio = Max77976.gpioInterrupt then some .max77976
  else if gpio = Ncp3901.gpioWirelessCharger then some .ncp3901
  else if gpio = Drv8830.gpioFault1 ∨ gpio = Drv8830.gpioFault2 then some .drv8830
  else none

/-- The device that a response belongs to. -/
def response? : EntryFunc → Option Tested
  | .max77976TestResponse => some .max77976
  | .ncp3901TestResponse => some .ncp3901
  | .drv8830TestResponse => some .drv8830
  | _ => none

/-- The functions that are defined in the files of the tested devices. -/
def ofTested : EntryFunc → Bool
  | .max77976ParseInterruptVals => true
  | .max77976TestResponse => true
  | .ncp3901OnWirelessChargerAttached => true
  | .ncp3901OnWirelessChargerDetached => true
  | .ncp3901TestResponse => true
  | .drv8830FaultHandler => true
  | .drv8830TestResponse => true
  | _ => false

/-- The flags of the tests. -/
inductive Mark where
  /-- A phase expects an interrupt. -/
  | started (tested : Tested)
  /-- A response has been executed. -/
  | completed (tested : Tested)
  deriving DecidableEq

/-- The flags of the tests among the statics. -/
def mark? : Flag → Option Mark
  | .testMax77976Started => some (.started .max77976)
  | .testMax77976Completed => some (.completed .max77976)
  | .testNcp3901Started => some (.started .ncp3901)
  | .testNcp3901Completed => some (.completed .ncp3901)
  | .testDrv8830Started => some (.started .drv8830)
  | .testDrv8830Completed => some (.completed .drv8830)
  | _ => none

/-! ## Deeds -/

/-- What an answered operation means to the tests. -/
inductive Deed where
  /-- Nothing. -/
  | other
  /-- An entry is offered to the call queue. -/
  | queue (entry : QueueEntry) (added : Bool)
  /-- A flag is assigned. -/
  | set (mark : Mark) (value : Bool)
  /-- A flag is read. -/
  | see (mark : Mark) (value : Bool)
  /-- Edges of a pin are acknowledged. -/
  | acknowledge (gpio : Nat) (events : UInt32)

/-- The meaning of an operation. -/
def deed : (op : Op) → Ans op → Deed
  | .callQueueTryAdd entry, added => .queue entry added
  | .store flag value, _ => (mark? flag).elim .other (.set · value)
  | .load flag, value => (mark? flag).elim .other (.see · value)
  | .gpioAcknowledgeIrq gpio events, _ => .acknowledge gpio events
  | _, _ => .other

/-- What code of other files does. -/
def Deed.Elsewhere : Deed → Prop
  | .queue entry _ => response? entry.func = none
  | .set .. => False
  | .see .. => False
  | .acknowledge gpio _ => tested? gpio = none
  | .other => True

/-- The operations of code of other files. -/
def Elsewhere (op : Op) : Prop := ∀ answer, (deed op answer).Elsewhere

/-- Where core 0 stands. -/
inductive Stage where
  /-- In no test. -/
  | idle
  /-- In a test, before its first phase. -/
  | begun (tested : Tested)
  /-- The started flag has been set. -/
  | waiting (phase : Phase)
  /-- The completed flag has been seen. -/
  | seen (phase : Phase)
  /-- The started flag has been cleared. -/
  | stopped (phase : Phase)
  /-- The completed flag has been cleared. -/
  | cleared (phase : Phase)
  deriving DecidableEq

namespace Stage

/-- The test that core 0 is in, or was in last. -/
def tested? : Stage → Option Tested
  | .idle => none
  | .begun tested => some tested
  | .waiting phase => some phase.tested
  | .seen phase => some phase.tested
  | .stopped phase => some phase.tested
  | .cleared phase => some phase.tested

/-- The phase has seen its completed flag. -/
def Past (stage : Stage) (phase : Phase) : Prop :=
  stage = .seen phase ∨ stage = .stopped phase ∨ stage = .cleared phase

/-- The phase comes next. -/
def Begins (stage : Stage) (phase : Phase) : Prop :=
  stage = .begun phase.tested ∧ phase = phase.tested.first ∨
    ∃ before : Phase, stage = .cleared before ∧ phase = before.tested.last

end Stage

/-- Where core 0 stands when a test has returned. -/
def Tested.finished : Tested → Stage
  | .max77976 => .cleared .charger
  | .ncp3901 => .seen .disconnect
  | .drv8830 => .stopped .encoder2

/-- Where core 0 stands after a deed. -/
def staged (stage : Stage) (what : Deed) : Stage :=
  match what, stage with
  | .set (.started _) true, .begun tested => .waiting tested.first
  | .set (.started _) true, .cleared phase => .waiting phase.tested.last
  | .see (.completed _) true, .waiting phase => .seen phase
  | .set (.started _) false, .seen phase => .stopped phase
  | .set (.completed _) false, .stopped phase => .cleared phase
  | _, stage => stage

/-- Where the callback stands. -/
inductive Callback where
  /-- In no handler of a tested device. -/
  | resting
  /-- An edge of a device has been acknowledged. -/
  | servicing (tested : Tested)
  /-- The started flag was set. -/
  | answering (tested : Tested)
  deriving DecidableEq

/-- Where the callback stands after a deed. -/
def called (callback : Callback) : Deed → Callback
  | .queue entry added =>
    if added = true ∧ response? entry.func ≠ none then .resting else callback
  | .see (.started tested) value => if value then .answering tested else .resting
  | .acknowledge gpio _ => (tested? gpio).elim callback .servicing
  | _ => callback

/-- The response that core 1 is executing, after a deed. -/
def responded (responding : Option Tested) : Deed → Option Tested
  | .set .. => none
  | _ => responding

/-! ## The bench -/

/-- The latched edges, the queue, the flags, and where the threads stand. -/
structure Bench where
  /-- The edges of each pin that are latched. -/
  latched : Nat → UInt32
  /-- `call_queue`. -/
  callQueue : List QueueEntry
  /-- The flags. -/
  marks : Mark → Bool
  /-- The pins serviced since the started flag of a device was last set. -/
  serviced : Tested → List Nat
  /-- Core 0. -/
  stage : Stage
  /-- The callback. -/
  callback : Callback
  /-- The response that core 1 is executing. -/
  responding : Option Tested

namespace Bench

/-- The bench before the first test. -/
def start : Bench where
  latched _ := 0
  callQueue := []
  marks _ := false
  serviced _ := []
  stage := .idle
  callback := .resting
  responding := none

/-- The pins serviced after a deed of core 0. -/
def refreshed (serviced : Tested → List Nat) : Deed → Tested → List Nat
  | .set (.started tested) true => Function.update serviced tested []
  | _ => serviced

/-- The pins serviced after a deed of the callback. -/
def recorded (serviced : Tested → List Nat) : Deed → Tested → List Nat
  | .acknowledge gpio _ => fun tested => gpio :: serviced tested
  | _ => serviced

/-- A deed moves its own thread. -/
def moved (bench : Bench) (thread : Thread) (what : Deed) : Bench :=
  match thread with
  | .core0 => { bench with
      stage := staged bench.stage what
      serviced := refreshed bench.serviced what }
  | .interrupt => { bench with
      callback := called bench.callback what
      serviced := recorded bench.serviced what }
  | .core1 => { bench with responding := responded bench.responding what }

/-- The bench after a deed, if it is possible. -/
def act (bench : Bench) : Deed → Option Bench
  | .queue entry added =>
    if added = decide (bench.callQueue.length < callQueueCapacity) then
      some { bench with callQueue := if added then bench.callQueue ++ [entry] else bench.callQueue }
    else none
  | .set mark value => some { bench with marks := Function.update bench.marks mark value }
  | .see mark value => if value = bench.marks mark then some bench else none
  | .acknowledge gpio events => some { bench with
      latched := Function.update bench.latched gpio (bench.latched gpio &&& ~~~events) }
  | .other => some bench

/-- The bench after an answered operation, if the answer is possible. -/
def exec (thread : Thread) (bench : Bench) (op : Op) (answer : Ans op) : Option Bench :=
  (bench.moved thread (deed op answer)).act (deed op answer)

/-- A callback gets the latched edges of a pin, and they are acknowledged. -/
def service (bench : Bench) (gpio : Nat) : Bench :=
  { bench with latched := Function.update bench.latched gpio 0 }

/-- Core 1 takes the first entry of the queue. -/
def dequeue (bench : Bench) (entry : QueueEntry) (rest : List QueueEntry) : Bench :=
  { bench with callQueue := rest, responding := response? entry.func }

/-- What core 0 does outside the tests: none of its messages is one of theirs. -/
def Untesting (op : Op) : Prop :=
  Elsewhere op ∧ ∀ (phase : Phase) (args : List LogArg), op ≠ .rp2040Log phase.passed args

/-- An idle thread starts a program. Core 0 runs tests in any order and any number of times. -/
def launch [Max77958.DriverHeader] (thread : Thread) (bench : Bench) (program : Firmware Unit)
    (after : Bench) : Prop :=
  match thread with
  | .core0 =>
    (∃ tested : Tested, after = { bench with stage := .begun tested } ∧ program = tested.test) ∨
      after = { bench with stage := .idle } ∧ program.Within Untesting
  | .interrupt => ∃ gpio, bench.latched gpio ≠ 0 ∧ after = bench.service gpio ∧
      program = robotInterruptHandler gpio (bench.latched gpio)
  | .core1 => ∃ (entry : QueueEntry) (rest : List QueueEntry), bench.callQueue = entry :: rest ∧
      after = bench.dequeue entry rest ∧
        if ofTested entry.func = true then
          ∃ buffers, program = entry.call buffers >>= fun _ => .done ()
        else program.Within Elsewhere

/-- An edge of a pin is latched. -/
inductive Drift (bench : Bench) : Bench → Prop where
  /-- Any edges, on any pin. -/
  | edge (gpio : Nat) (events : UInt32) : Drift bench { bench with
      latched := Function.update bench.latched gpio (bench.latched gpio ||| events) }

end Bench

section System

variable [Max77958.DriverHeader]

/-- The threads over the bench. -/
def system : System Ans where
  Thread := Thread
  decEq := inferInstance
  Shared := Bench
  preempts first second := first = .interrupt ∧ second = .core0
  exec := Bench.exec
  launch := Bench.launch
  drift := Bench.Drift

/-- No test has run. -/
def started : system.Config where
  shared := Bench.start
  programs _ := .done ()

/-- No test of the device is under way. -/
def Untested (config : system.Config) (tested : Tested) : Prop :=
  (config.programs Thread.core0).isDone = true ∨
    (Bench.stage config.shared).tested? ≠ some tested

/-- A phase that logs that it has passed had an edge of its pin serviced since it set its started
flag. -/
def PassesSoundly (config : system.Config) : Prop :=
  ∀ (phase : Phase) (args : List LogArg) (answer : Unit) (next : system.Config),
    System.Step config (.perform Thread.core0 (.rp2040Log phase.passed args) answer) next →
      phase.pin ∈ Bench.serviced config.shared phase.tested

/-- A device whose test is not under way has clear flags, and no interrupt queues its response. -/
structure NoResidue (config : system.Config) : Prop where
  /-- Both flags are false. -/
  flags : ∀ tested, Untested config tested →
    Bench.marks config.shared (.started tested) = false ∧
      Bench.marks config.shared (.completed tested) = false
  /-- A response is queued only while the test is under way. -/
  handlers : ∀ (entry : QueueEntry) (added : Bool) (next : system.Config) (tested : Tested),
    System.Step config (.perform Thread.interrupt (.callQueueTryAdd entry) added) next →
      response? entry.func = some tested → ¬ Untested config tested

/-- What a test with two phases leaves behind when it has returned. -/
structure Leftover (config : system.Config) : Prop where
  /-- Both flags of the wireless charger are set. -/
  ncp3901 : (config.programs Thread.core0).isDone = true →
    Bench.stage config.shared = Tested.finished .ncp3901 →
      Bench.marks config.shared (.started .ncp3901) = true ∧
        Bench.marks config.shared (.completed .ncp3901) = true
  /-- The completed flag of the motor drivers is set. -/
  drv8830 : (config.programs Thread.core0).isDone = true →
    Bench.stage config.shared = Tested.finished .drv8830 →
      Bench.marks config.shared (.completed .drv8830) = true

end System

/-! ## Conditions on runs -/

namespace Bench

/-- A response of the device is queued, or core 1 is executing one. -/
def Pending (bench : Bench) (tested : Tested) : Prop :=
  bench.responding = some tested ∨
    bench.callQueue.any (fun entry => response? entry.func = some tested) = true

/-- An edge of a pin would not be taken for one of another pin. -/
def Attributed (bench : Bench) (gpio : Nat) : Prop :=
  ∀ phase ∈ Phase.all, bench.stage = .waiting phase → tested? gpio = some phase.tested →
    gpio = phase.pin ∨ phase.pin ∈ bench.serviced phase.tested

/-- When a phase starts, its completed flag is clear and no response of its device is pending, and
while it waits, its own pin is the first one of its device to be serviced. -/
def Unmistaken (bench : Bench) : Deed → Prop
  | .set (.started tested) true =>
    bench.marks (.completed tested) = false ∧ ¬ bench.Pending tested
  | .acknowledge gpio _ => bench.Attributed gpio
  | _ => True

/-- When the completed flag of the charger is cleared, no response of it is pending, and no second
phase sees its completed flag. -/
def Tidy (bench : Bench) : Deed → Prop
  | .set (.completed tested) false => tested = .max77976 → ¬ bench.Pending tested
  | .see (.completed tested) true => bench.stage = .waiting tested.last → tested = .max77976
  | _ => True

/-- The steps that meet a condition on deeds. -/
def During [Max77958.DriverHeader] (condition : Bench → Deed → Prop) (bench : Bench) :
    (system : System Ans).Action → Prop
  | .perform _ op answer => condition bench (deed op answer)
  | _ => True

end Bench

/-! ## What the threads do -/

/-- What core 0 may do, by where it stands. -/
def Deed.Tests : Deed → Stage → Prop
  | .other, _ => True
  | .queue entry _, _ => response? entry.func = none
  | .acknowledge gpio _, _ => tested? gpio = none
  | .set (.started device) true, .begun tested => device = tested
  | .set (.started device) true, .cleared phase => device = phase.tested
  | .set (.started device) false, .seen phase => device = phase.tested
  | .set (.completed device) false, .stopped phase => device = phase.tested
  | .see (.completed device) _, .waiting phase => device = phase.tested
  | .set .., _ => False
  | .see .., _ => False

/-- Core 0, with where it stands. -/
abbrev tester : Monitor Ans where
  State := Stage
  allows stage op := (∀ answer, (deed op answer).Tests stage) ∧
    ∀ (phase : Phase) (args : List LogArg), op = .rp2040Log phase.passed args → stage.Past phase
  next stage op answer := staged stage (deed op answer)

/-- What the callback may do, by where it stands. -/
def Deed.Answers (callback : Callback) : Deed → Prop
  | .queue entry _ => ∀ tested, response? entry.func = some tested → callback = .answering tested
  | .set .. => False
  | .see (.started tested) _ => callback = .servicing tested
  | .see (.completed _) _ => False
  | .acknowledge .. => True
  | .other => True

/-- The callback, with where it stands. -/
abbrev answerer : Monitor Ans where
  State := Callback
  allows callback op := ∀ answer, (deed op answer).Answers callback
  next callback op answer := called callback (deed op answer)

/-- What core 1 may do, by the response that it is executing. -/
def Deed.Completes (responding : Option Tested) : Deed → Prop
  | .queue entry _ => response? entry.func = none
  | .set mark value => ∃ tested, responding = some tested ∧ mark = .completed tested ∧ value = true
  | .see .. => False
  | .acknowledge gpio _ => tested? gpio = none
  | .other => True

/-- Core 1, with the response that it is executing. -/
abbrev completer : Monitor Ans where
  State := Option Tested
  allows responding op := ∀ answer, (deed op answer).Completes responding
  next responding op answer := responded responding (deed op answer)

/-- The monitor of each thread. -/
abbrev monitor : Thread → Monitor Ans
  | .core0 => tester
  | .interrupt => answerer
  | .core1 => completer

/-- Where a thread stands. -/
def view : (thread : Thread) → Bench → (monitor thread).State
  | .core0, bench => bench.stage
  | .interrupt, bench => bench.callback
  | .core1, bench => bench.responding

/-- Where an idle thread may stand. -/
def rest : (thread : Thread) → (monitor thread).State → Prop
  | .core0, (stage : Stage) => stage = .idle ∨ ∃ tested : Tested, stage = tested.finished
  | .interrupt, (callback : Callback) => callback = .resting
  | .core1, (responding : Option Tested) => responding = none

namespace Deed.Elsewhere

variable {what : Deed}

/-- Core 0 is not concerned with code of other files. -/
theorem tests (apart : what.Elsewhere) (stage : Stage) :
    what.Tests stage ∧ staged stage what = stage := by
  cases what with
  | set mark value => exact apart.elim
  | see mark value => exact apart.elim
  | _ => exact ⟨apart, rfl⟩

/-- The callback is not concerned with it. -/
theorem answers (apart : what.Elsewhere) (callback : Callback) :
    what.Answers callback ∧ called callback what = callback := by
  cases what with
  | queue entry added =>
    have silent : response? entry.func = none := apart
    refine ⟨fun tested told => ?_, if_neg fun both => both.2 silent⟩
    rw [silent] at told
    cases told
  | acknowledge gpio events =>
    have foreign : tested? gpio = none := apart
    exact ⟨trivial, by rw [called, foreign]; rfl⟩
  | set mark value => exact apart.elim
  | see mark value => exact apart.elim
  | other => exact ⟨trivial, rfl⟩

/-- Core 1 is not concerned with it. -/
theorem completes (apart : what.Elsewhere) (responding : Option Tested) :
    what.Completes responding ∧ responded responding what = responding := by
  cases what with
  | set mark value => exact apart.elim
  | see mark value => exact apart.elim
  | _ => exact ⟨apart, rfl⟩

end Deed.Elsewhere

/-- The test on core 0 does not see the others. -/
theorem tester_ignores_untesting : tester.Ignores Bench.Untesting := fun stage _ untesting =>
  ⟨⟨fun answer => ((untesting.1 answer).tests stage).1, fun phase args same =>
    absurd same (untesting.2 phase args)⟩, fun answer => ((untesting.1 answer).tests stage).2⟩

/-- The interrupt handler does not see operations elsewhere. -/
theorem answerer_ignores_elsewhere : answerer.Ignores Elsewhere := fun callback _ elsewhere =>
  ⟨fun answer => ((elsewhere answer).answers callback).1,
    fun answer => ((elsewhere answer).answers callback).2⟩

/-- Neither does core 1. -/
theorem completer_ignores_elsewhere : completer.Ignores Elsewhere := fun responding _ elsewhere =>
  ⟨fun answer => ((elsewhere answer).completes responding).1,
    fun answer => ((elsewhere answer).completes responding).2⟩

/-- Waiting, logging and raising errors are elsewhere. -/
theorem elsewhere_of_routine (op : Op) (routine : op.Routine) : Elsewhere op := by
  intro answer
  cases op <;> first | exact routine.elim | trivial

/-! ## The tests on core 0 -/

/-- A message that no phase logs when it has passed. -/
abbrev Plain (format : String) : Prop :=
  (Phase.all.all fun phase => phase.passed != format) = true

/-- A plain message is none of the test. -/
theorem untesting_log {format : String} (plain : Plain format) (args : List LogArg) :
    Bench.Untesting (.rp2040Log format args) := by
  refine ⟨fun _ => trivial, fun phase others same => ?_⟩
  have apart := List.all_eq_true.mp plain phase phase.mem_all
  obtain ⟨rfl, _⟩ := Op.rp2040Log.inj same
  exact absurd rfl (bne_iff_ne.mp apart)

/-- Nor is an operation elsewhere. -/
theorem untesting_of_silent {op : Op} (elsewhere : Elsewhere op)
    (silent : ∀ format args, op ≠ .rp2040Log format args) : Bench.Untesting op :=
  ⟨elsewhere, fun _ _ => silent _ _⟩

/-- Moving a pin is none of it beside its messages. -/
theorem movePin_untesting {gpio : Nat} {move : Firmware Unit} {level : Bool}
    {prior failed after : String} (inside : move.Within Bench.Untesting) (before : Plain prior)
    (wrong : Plain failed) (behind : Plain after) :
    (movePin gpio move level prior failed after).Within Bench.Untesting := by
  have look : Bench.Untesting (.gpioGet gpio) := untesting_of_silent (fun _ => trivial) (by simp)
  have stop : Bench.Untesting .assertFalse := untesting_of_silent (fun _ => trivial) (by simp)
  refine ⟨look, fun _ => ⟨untesting_log before _, fun _ => inside.bind fun _ => ⟨look, fun _ =>
    .ite ?_ ?_⟩⟩⟩
  · exact ⟨look, fun _ => ⟨untesting_log wrong _, fun _ =>
      ⟨stop, fun impossible => impossible.elim⟩⟩⟩
  · exact ⟨look, fun _ => ⟨untesting_log behind _, fun _ => trivial⟩⟩

/-- Nor is writing the masks of the charger. -/
theorem setMasks_untesting (src : List UInt8) :
    (i2cWriteErrorHandling .i2c1 Max77976.addr src false).Within Bench.Untesting := by
  have write : Bench.Untesting (.i2cWriteTimeoutUs .i2c1 Max77976.addr src false) :=
    untesting_of_silent (fun _ => trivial) (by simp)
  exact i2cErrorHandling_allowed ((Program.Within.act write).bind fun _ => .done _)
    (untesting_of_silent (fun _ => trivial) (by simp))
    (untesting_of_silent (fun _ => trivial) (by simp))
    (fun _ => untesting_of_silent (fun _ => trivial) (by simp))
    (untesting_of_silent (fun _ => trivial) (by simp)) (untesting_log (by decide))
    (untesting_of_silent (fun _ => trivial) (by simp))

/-- Nor is turning a pin. -/
theorem setDir_untesting (gpio : Nat) (out : Bool) : Bench.Untesting (.gpioSetDir gpio out) :=
  untesting_of_silent (fun _ => trivial) (by simp)

/-- Nor is pulling it up. -/
theorem pullUp_untesting (gpio : Nat) : Bench.Untesting (.gpioPullUp gpio) :=
  untesting_of_silent (fun _ => trivial) (by simp)

section Guards

variable {α : Type} {stage : Stage} {post : Stage → α → Prop}

/-- What is outside the tests comes first. -/
theorem guards_untesting {β : Type} {program : Firmware β} {next : β → Firmware α}
    (inside : program.Within Bench.Untesting)
    (goes : ∀ value, tester.Guards stage (next value) post) :
    tester.Guards stage (program >>= next) post :=
  Monitor.guards_bind.mpr (tester_ignores_untesting.guards inside goes)

/-- An operation that is none of the test leaves the stage. -/
theorem guards_perform {op : Op} {next : Ans op → Firmware α} (untesting : Bench.Untesting op)
    (goes : ∀ answer, tester.Guards stage (next answer) post) :
    tester.Guards stage (perform op >>= next) post :=
  guards_untesting (.act untesting) goes

/-- A message is logged first. -/
theorem guards_log {format : String} {args : List LogArg} {next : Unit → Firmware α}
    (plain : Plain format) (goes : tester.Guards stage (next ()) post) :
    tester.Guards stage (rp2040Log format args >>= next) post :=
  guards_perform (untesting_log plain args) fun _ => goes

/-- A flag is assigned first. -/
theorem guards_store {flag : Flag} {mark : Mark} {value : Bool} {next : Unit → Firmware α}
    (flagged : mark? flag = some mark) (tests : (Deed.set mark value).Tests stage)
    (goes : tester.Guards (staged stage (.set mark value)) (next ()) post) :
    tester.Guards stage (store flag value >>= next) post := by
  have means (answer : Unit) : deed (.store flag value) answer = .set mark value := by
    rw [deed, flagged]
    rfl
  refine ⟨⟨fun answer => ?_, fun _ _ same => Op.noConfusion same⟩, fun answer => ?_⟩
  · rw [means]
    exact tests
  · change tester.Guards (staged stage (deed (.store flag value) answer)) (next answer) post
    rw [means]
    exact goes

/-- A phase logs first that it has passed. -/
theorem guards_passed (phase : Phase) {args : List LogArg} {next : Unit → Firmware α}
    (past : stage.Past phase) (goes : tester.Guards stage (next ()) post) :
    tester.Guards stage (rp2040Log phase.passed args >>= next) post := by
  refine ⟨⟨fun _ => trivial, fun other others same => ?_⟩, fun _ => goes⟩
  have texts : other.passed = phase.passed := (Op.rp2040Log.inj same).1.symm
  exact Phase.passed_injective texts ▸ past

/-- A phase waits until it sees its completed flag. -/
theorem guards_waitForTest {phase : Phase} {flag : Flag} {timedOut : String}
    (flagged : mark? flag = some (.completed phase.tested)) (plain : Plain timedOut) (left : Nat) :
    tester.Guards (.waiting phase) (waitForTest flag timedOut left)
      fun final _ => final = .seen phase := by
  have means (value : Bool) : deed (.load flag) value = .see (.completed phase.tested) value := by
    rw [deed, flagged]
    rfl
  let ends : Stage → Nat → Prop := fun final _ => final = .seen phase
  have looks {program : Bool → Firmware Nat} (goes : ∀ value, tester.Guards
      (staged (.waiting phase) (.see (.completed phase.tested) value)) (program value) ends) :
      tester.Guards (.waiting phase) (load flag >>= program) ends := by
    refine ⟨⟨fun (value : Bool) => ?_, fun _ _ same => Op.noConfusion same⟩,
      fun (value : Bool) => ?_⟩
    · rw [means]
      exact rfl
    · change tester.Guards (staged _ (deed (.load flag) value)) (program value) _
      rw [means]
      exact goes value
  have sleep : Program.Within Bench.Untesting (perform (.sleepMs 10)) :=
    .act (untesting_of_silent (fun _ => trivial) (by simp))
  induction left with
  | zero =>
    refine looks fun value => ?_
    cases value with
    | true => exact rfl
    | false =>
      exact guards_untesting sleep fun _ => guards_untesting (.act (untesting_log plain _)) fun _ =>
        ⟨⟨fun impossible => impossible.elim, fun _ _ same => Op.noConfusion same⟩,
          fun impossible => impossible.elim⟩
  | succ left ih =>
    refine looks fun value => ?_
    cases value with
    | true => exact rfl
    | false => exact guards_untesting sleep fun _ => ih

/-- A phase waits first. -/
theorem guards_wait (phase : Phase) {flag : Flag} {timedOut : String} {left : Nat}
    {next : Nat → Firmware α} (flagged : mark? flag = some (.completed phase.tested))
    (plain : Plain timedOut) (goes : ∀ left, tester.Guards (.seen phase) (next left) post) :
    tester.Guards (.waiting phase) (waitForTest flag timedOut left >>= next) post := by
  refine Monitor.guards_bind.mpr ((guards_waitForTest flagged plain left).mono ?_)
  rintro _ left rfl
  exact goes left

/-- The test of the charger comes to its end. -/
theorem guards_max77976 : tester.Guards (.begun .max77976) Max77976.testInterrupt
    fun final _ => final = Tested.finished .max77976 :=
  guards_log (by decide) <|
  guards_untesting (setMasks_untesting _) fun _ =>
  guards_store rfl rfl <|
  guards_untesting (movePin_untesting (.act (setDir_untesting _ _)) (by decide) (by decide)
    (by decide)) fun _ =>
  guards_wait .charger rfl (by decide) fun _ =>
  guards_perform (setDir_untesting _ _) fun _ =>
  guards_perform (pullUp_untesting _) fun _ =>
  guards_store rfl rfl <|
  guards_store rfl rfl <|
  guards_untesting (setMasks_untesting _) fun _ =>
  @guards_passed _ _ _ .charger _ .done (.inr (.inr rfl)) rfl

/-- The test of the wireless charger comes to its end. -/
theorem guards_ncp3901 : tester.Guards (.begun .ncp3901) Ncp3901.testInterrupt
    fun final _ => final = Tested.finished .ncp3901 :=
  guards_log (by decide) <|
  guards_store rfl rfl <|
  guards_untesting (movePin_untesting (.act (setDir_untesting _ _)) (by decide) (by decide)
    (by decide)) fun _ =>
  guards_wait .connect rfl (by decide) fun _ =>
  guards_store rfl rfl <|
  guards_store rfl rfl <|
  guards_passed .connect (.inr (.inr rfl)) <|
  guards_log (by decide) <|
  guards_store rfl rfl <|
  guards_untesting (movePin_untesting
    ⟨setDir_untesting _ _, fun _ => .act (pullUp_untesting _)⟩ (by decide) (by decide)
    (by decide)) fun _ =>
  guards_wait .disconnect rfl (by decide) fun _ =>
  @guards_passed _ _ _ .disconnect _ .done (.inl rfl) rfl

/-- The test of the motor drivers comes to its end. -/
theorem guards_drv8830 : tester.Guards (.begun .drv8830) Drv8830.testInterrupt
    fun final _ => final = Tested.finished .drv8830 :=
  guards_log (by decide) <|
  guards_store rfl rfl <|
  guards_untesting (movePin_untesting (.act (setDir_untesting _ _)) (by decide) (by decide)
    (by decide)) fun _ =>
  guards_wait .encoder1 rfl (by decide) fun _ =>
  guards_perform (setDir_untesting _ _) fun _ =>
  guards_perform (pullUp_untesting _) fun _ =>
  guards_store rfl rfl <|
  guards_store rfl rfl <|
  guards_passed .encoder1 (.inr (.inr rfl)) <|
  guards_store rfl rfl <|
  guards_perform (setDir_untesting _ _) fun _ =>
  guards_wait .encoder2 rfl (by decide) fun _ =>
  guards_perform (setDir_untesting _ _) fun _ =>
  guards_perform (pullUp_untesting _) fun _ =>
  guards_store rfl rfl <|
  @guards_passed _ _ _ .encoder2 _ .done (.inr (.inl rfl)) rfl

/-- A test starts where no phase has begun, and comes to its end. -/
theorem guards_test (tested : Tested) : tester.Guards (.begun tested) tested.test
    fun final _ => final = tested.finished := by
  cases tested with
  | max77976 => exact guards_max77976
  | ncp3901 => exact guards_ncp3901
  | drv8830 => exact guards_drv8830

end Guards

/-! ## The callback and core 1 -/

/-- The part that the handlers of the tested devices share: it queues a response only when it has
seen the started flag of its device. -/
theorem guards_respond {gpio : Nat} {mask : UInt32} {func response : EntryFunc} {arg : Int32}
    {flag : Flag} {tested : Tested} (belongs : tested? gpio = some tested)
    (silent : response? func = none)
    (flagged : mark? flag = some (.started tested)) (responds : response? response = some tested) :
    answerer.Guards .resting (do
      gpioAcknowledgeIrq gpio mask
      callQueueTryAdd func arg
      if ← load flag then callQueueTryAdd response 1)
      fun callback _ => callback = .resting := by
  have means (value : Bool) : deed (.load flag) value = .see (.started tested) value := by
    rw [deed, flagged]
    rfl
  have queued : (callQueueTryAdd func arg).Within Elsewhere :=
    callQueueTryAdd_allowed elsewhere_of_routine fun _ => silent
  have services : called .resting (.acknowledge gpio mask) = .servicing tested := by
    rw [called, belongs]
    rfl
  refine Monitor.guards_bind.mpr (Monitor.guards_act.mpr ⟨fun _ => trivial, fun _ =>
    Monitor.guards_bind.mpr ?_⟩)
  change answerer.Guards (called .resting (.acknowledge gpio mask)) _ _
  rw [services]
  refine answerer_ignores_elsewhere.guards queued fun _ => ?_
  refine Monitor.guards_bind.mpr (Monitor.guards_act.mpr
    ⟨fun value => ?_, fun (value : Bool) => ?_⟩)
  · rw [means]
    exact rfl
  change answerer.Guards (called _ (deed (.load flag) value)) _ _
  rw [means]
  cases value with
  | false => exact rfl
  | true =>
    refine ⟨fun _ other told => ?_, fun (added : Bool) => ?_⟩
    · rw [responds] at told
      exact congrArg Callback.answering (Option.some.inj told)
    · cases added with
      | true => exact if_pos ⟨rfl, by rw [responds]; exact Option.some_ne_none _⟩
      | false =>
        exact ⟨fun _ => trivial, fun _ => ⟨fun _ => trivial, fun impossible => impossible.elim⟩⟩

/-- Every callback comes to rest. -/
theorem guards_callback (gpio : Nat) (eventMask : UInt32) :
    answerer.Guards .resting (robotInterruptHandler gpio eventMask)
      fun callback _ => callback = .resting := by
  have quiet {program : Firmware Unit} (inside : program.Within Elsewhere) :
      answerer.Guards .resting program fun callback _ => callback = .resting :=
    answerer_ignores_elsewhere.guards inside fun _ => rfl
  have choice {condition : Prop} [Decidable condition] {first second : Firmware Unit}
      (yes : answerer.Guards .resting first fun callback _ => callback = .resting)
      (no : answerer.Guards .resting second fun callback _ => callback = .resting) :
      answerer.Guards .resting (if condition then first else second)
        fun callback _ => callback = .resting := by
    split
    · exact yes
    · exact no
  have typeC : (Max77958.onInterrupt eventMask).Within Elsewhere :=
    .ite (queueFunctions_allowed elsewhere_of_routine (fun _ => by exact rfl) (fun _ => rfl)
      (fun _ => trivial) fun _ => rfl) trivial
  have gauge : (Bq27742G1.onInterrupt gpio eventMask).Within Elsewhere :=
    Bq27742G1.onInterrupt_allowed (fun _ => trivial) (fun _ _ _ => trivial) (fun _ _ => trivial)
      (fun _ _ => by exact rfl) (fun _ => trivial) fun _ => rfl
  have motor (belongs : tested? gpio = some .drv8830) :
      answerer.Guards .resting (Drv8830.onInterrupt gpio eventMask)
        fun callback _ => callback = .resting :=
    choice (guards_respond belongs rfl rfl rfl) rfl
  unfold robotInterruptHandler
  split
  · subst gpio
    exact choice (guards_respond rfl rfl rfl rfl) (choice (guards_respond rfl rfl rfl rfl) rfl)
  split
  · exact choice (guards_respond rfl rfl rfl rfl) rfl
  split
  · exact quiet typeC
  split
  · exact quiet gauge
  split
  · subst gpio
    exact motor rfl
  split
  · subst gpio
    exact motor rfl
  · exact rfl

/-- A function of the files of the tested devices completes its own response, and nothing else. -/
theorem guards_call [Max77958.DriverHeader] (buffers : Max77958.Buffers) (entry : QueueEntry)
    (own : ofTested entry.func = true) :
    completer.Guards (response? entry.func) (entry.call buffers >>= fun _ => .done ())
      fun responding _ => responding = none := by
  have respond {flag : Flag} {tested : Tested} (flagged : mark? flag = some (.completed tested)) :
      completer.Guards (some tested) ((do store flag true; return 0 : Firmware Int32) >>= fun _ =>
        .done ()) fun responding _ => responding = none := by
    have means (answer : Unit) :
        deed (.store flag true) answer = .set (.completed tested) true := by
      rw [deed, flagged]
      rfl
    refine ⟨fun answer => ?_, fun answer => ?_⟩
    · rw [means]
      exact ⟨tested, rfl, rfl, rfl⟩
    · change responded _ (deed (.store flag true) answer) = none
      rw [means]
      rfl
  have quiet {program : Firmware Int32} (inside : program.Within Elsewhere) :
      completer.Guards none (program >>= fun _ => .done ()) fun responding _ => responding = none :=
    completer_ignores_elsewhere.guards (inside.bind fun _ => .done _) fun _ => rfl
  obtain ⟨func, data⟩ := entry
  cases func with
  | max77976TestResponse => exact respond rfl
  | ncp3901TestResponse => exact respond rfl
  | drv8830TestResponse => exact respond rfl
  | drv8830FaultHandler =>
    exact quiet (Drv8830.faultHandler_allowed ⟨elsewhere_of_routine, fun _ _ _ _ => trivial,
      fun _ _ _ _ => trivial⟩ data)
  | ncp3901OnWirelessChargerAttached =>
    exact quiet ⟨fun _ => trivial, fun _ => ⟨fun _ => trivial, fun _ => trivial⟩⟩
  | ncp3901OnWirelessChargerDetached =>
    exact quiet ⟨fun _ => trivial, fun _ => ⟨fun _ => trivial, fun _ => trivial⟩⟩
  | max77976ParseInterruptVals =>
    exact quiet (Max77976.parseInterruptVals_allowed ⟨elsewhere_of_routine, fun _ _ _ => trivial,
      fun _ _ => trivial, fun _ _ _ => trivial⟩ (fun _ => trivial) fun _ => trivial)
  | _ => exact Bool.noConfusion own

end SelfTests

end RobotFirmware
