import RobotFirmware.Interaction.Playback
import RobotFirmware.Interrupts.Edges
import RobotFirmware.TypeC.Board

/-!
# The interrupt line of the fuel gauge

A falling edge of the line is answered by queueing a parse call for core 1 and listening for the
rising edge instead; a rising edge, and the parse call itself, arm the falling edge again. The
line, the latched edges, a pending flag and the call queue are shared by `bq27742_g1_init` and
the interrupt handler on core 0 and by core 1, whose edge enables are its own.

Enabling an edge discards what is latched of it. Only what core 0 has enabled interrupts.
-/

namespace RobotFirmware

open Interaction
open TypeC (Thread callQueueCapacity)

namespace GaugeLine

/-! ## Deeds and stages -/

/-- What an answered operation means to the line. -/
inductive Deed where
  /-- Nothing. -/
  | other
  /-- An entry is offered to the call queue. -/
  | queue (entry : QueueEntry) (added : Bool)
  /-- `bq27742_g1_interrupt_pending` is assigned. -/
  | setPending (value : Bool)
  /-- It is read. -/
  | seePending (value : Bool)
  /-- The level of the line is read. -/
  | level (high : Bool)
  /-- Edges are enabled or disabled. -/
  | enable (edges : Edges) (enabled : Bool)
  /-- Edges are acknowledged. -/
  | acknowledge (edges : Edges)

/-- The meaning of an operation. -/
def deed : (op : Op) → Ans op → Deed
  | .callQueueTryAdd entry, added => .queue entry added
  | .store .bq27742G1InterruptPending value, _ => .setPending value
  | .load .bq27742G1InterruptPending, value => .seePending value
  | .gpioGet gpio, high => if gpio = Bq27742G1.gpioInterrupt then .level high else .other
  | .gpioSetIrqEnabled gpio events enabled, _ =>
    if gpio = Bq27742G1.gpioInterrupt then .enable (.ofMask events) enabled else .other
  | .gpioAcknowledgeIrq gpio events, _ =>
    if gpio = Bq27742G1.gpioInterrupt then .acknowledge (.ofMask events) else .other
  | _, _ => .other

/-- What a thread is about to do next. -/
inductive Stage where
  /-- Nothing with the line. -/
  | idle
  /-- `bq27742_g1_init` enables the falling edge. -/
  | enabling
  /-- `bq27742_g1_init` reads the line. -/
  | looking
  /-- `bq27742_g1_on_interrupt` acknowledges a falling edge. -/
  | acknowledging
  /-- `bq27742_g1_queue_parse_interrupt` reads the pending flag. -/
  | checking
  /-- It sets the flag. -/
  | claiming
  /-- It disables the falling edge. -/
  | muting
  /-- It enables the rising edge. -/
  | listening
  /-- It offers the parse call. -/
  | offering
  /-- The offer was refused, and it reads the line. -/
  | refused
  /-- `bq27742_g1_on_interrupt` acknowledges a rising edge. -/
  | deasserted
  /-- It reads the line. -/
  | released
  /-- `bq27742_g1_parse_interrupt_vals` reads the line for its message. -/
  | reporting
  /-- It reads the line at its end. -/
  | finishing
  /-- `bq27742_g1_rearm_assert_irq` clears the flag. -/
  | clearing
  /-- It disables the rising edge. -/
  | deafening
  /-- It enables the falling edge. -/
  | arming
  deriving DecidableEq

/-- What is about to be done after a deed, if the deed is what was to be done. -/
def Stage.step : Stage → Deed → Option Stage
  | stage, .other => some stage
  | .offering, .queue entry added =>
    if entry.func = .bq27742G1ParseInterruptVals then some (if added then .idle else .refused)
    else none
  | stage, .queue entry _ =>
    if entry.func = .bq27742G1ParseInterruptVals then none else some stage
  | .enabling, .enable ⟨false, true⟩ true => some .looking
  | .looking, .level high => some (if high then .idle else .checking)
  | .acknowledging, .acknowledge ⟨false, true⟩ => some .checking
  | .checking, .seePending pending => some (if pending then .idle else .claiming)
  | .claiming, .setPending true => some .muting
  | .muting, .enable ⟨false, true⟩ false => some .listening
  | .listening, .enable ⟨true, false⟩ true => some .offering
  | .refused, .level high => some (if high then .clearing else .idle)
  | .deasserted, .acknowledge ⟨true, false⟩ => some .released
  | .released, .level high => some (if high then .clearing else .idle)
  | .reporting, .level _ => some .finishing
  | .finishing, .level high => some (if high then .clearing else .idle)
  | .clearing, .setPending false => some .deafening
  | .deafening, .enable ⟨true, false⟩ false => some .arming
  | .arming, .enable ⟨false, true⟩ true => some .idle
  | _, _ => none

/-- Where a thread stands. -/
structure Progress where
  /-- What it is about to do. -/
  stage : Stage
  /-- A rising edge is to be answered after that. -/
  also : Bool
  deriving DecidableEq

/-- A thread that has nothing to do with the line. -/
def Progress.idle : Progress := ⟨.idle, false⟩

/-- Where a thread stands after a deed. -/
def Progress.after (progress : Progress) (what : Deed) : Progress :=
  match progress.stage.step what with
  | none => progress
  | some .idle => if progress.also then ⟨.deasserted, false⟩ else .idle
  | some stage => ⟨stage, progress.also⟩

/-! ## The line -/

/-- What the threads share. -/
structure Line where
  /-- The line is low. -/
  low : Bool
  /-- The edges latched since they were last acknowledged. -/
  latched : Edges
  /-- The edges that core 0 has enabled. -/
  enabled : Edges
  /-- `bq27742_g1_interrupt_pending`. -/
  pending : Bool
  /-- `call_queue`. -/
  callQueue : List QueueEntry
  /-- A parse call has been queued since the line last fell. -/
  queuedSince : Bool
  /-- Where the threads stand. -/
  progress : Thread → Progress

namespace Line

/-- The line before the end of `bq27742_g1_init`. -/
def start (low : Bool) (latched : Edges) (callQueue : List QueueEntry) : Line where
  low := low
  latched := latched
  enabled := .none
  pending := false
  callQueue := callQueue
  queuedSince := false
  progress
    | .core0 => ⟨.enabling, false⟩
    | _ => .idle

/-- What a thread is about to do. -/
def stage (line : Line) (thread : Thread) : Stage := (line.progress thread).stage

/-- The edges that wait to be serviced on core 0. -/
def waiting (line : Line) : Edges := line.enabled.inter line.latched

/-- The line after a deed of a thread, if the deed is possible. -/
def act (line : Line) (thread : Thread) : Deed → Option Line
  | .queue entry added =>
    if added = decide (line.callQueue.length < callQueueCapacity) then
      some { line with
        callQueue := if added then line.callQueue ++ [entry] else line.callQueue
        queuedSince := line.queuedSince || (added && entry.func = .bq27742G1ParseInterruptVals) }
    else none
  | .setPending value => some { line with pending := value }
  | .seePending value => if value = line.pending then some line else none
  | .level high => if high = !line.low then some line else none
  | .enable edges true =>
    some { line with
      latched := line.latched.minus edges
      enabled := if thread = .core1 then line.enabled else line.enabled.union edges }
  | .enable edges false =>
    some { line with
      enabled := if thread = .core1 then line.enabled else line.enabled.minus edges }
  | .acknowledge edges => some { line with latched := line.latched.minus edges }
  | .other => some line

/-- The line after an answered operation, if the answer is possible. -/
def exec (thread : Thread) (line : Line) (op : Op) (answer : Ans op) : Option Line :=
  (line.act thread (deed op answer)).map fun after =>
    { after with
      progress := Function.update line.progress thread
        ((line.progress thread).after (deed op answer)) }

/-- Core 0 is interrupted: the waiting edges are acknowledged and passed to the handler. -/
def service (line : Line) : Line :=
  { line with
    latched := line.latched.minus line.waiting
    progress := Function.update line.progress .interrupt
      (if line.waiting.fall then ⟨.acknowledging, line.waiting.rise⟩ else ⟨.deasserted, false⟩) }

/-- Core 1 takes the first entry of the queue. -/
def dequeue (line : Line) (entry : QueueEntry) (rest : List QueueEntry) : Line :=
  { line with
    callQueue := rest
    progress := Function.update line.progress .core1
      (if entry.func = .bq27742G1ParseInterruptVals then ⟨.reporting, false⟩ else .idle) }

end Line

/-- What code does that has nothing to do with the line. -/
def Elsewhere (op : Op) : Prop := ∀ answer, Stage.step .idle (deed op answer) = some .idle

/-- An idle thread starts a program. Code that has nothing to do with the line may do anything
else. -/
def Line.launch [Max77958.DriverHeader] (thread : Thread) (line : Line) (program : Firmware Unit)
    (after : Line) : Prop :=
  match thread with
  | .core0 => after = line ∧ program.Within Elsewhere
  | .interrupt =>
    (after = line ∧ ∃ gpio eventMask, gpio ≠ Bq27742G1.gpioInterrupt ∧
      program = robotInterruptHandler gpio eventMask) ∨
    line.waiting ≠ .none ∧ after = line.service ∧
      program = robotInterruptHandler Bq27742G1.gpioInterrupt line.waiting.mask
  | .core1 => ∃ (entry : QueueEntry) (rest : List QueueEntry), line.callQueue = entry :: rest ∧
      after = line.dequeue entry rest ∧
        if entry.func = .bq27742G1ParseInterruptVals then
          ∃ buffers, program = entry.call buffers >>= fun _ => .done ()
        else program.Within Elsewhere

/-- The line changes its level. -/
inductive Line.Drift (line : Line) : Line → Prop where
  /-- It rises. -/
  | rise (low : line.low = true) :
      Drift line { line with low := false, latched := ⟨true, line.latched.fall⟩ }
  /-- It falls. -/
  | fall (high : line.low = false) :
      Drift line { line with
        low := true
        latched := ⟨line.latched.rise, true⟩
        queuedSince := false }

section System

variable [Max77958.DriverHeader]

/-- The threads over the line. -/
def system : System Ans where
  Thread := Thread
  decEq := inferInstance
  Shared := Line
  preempts first second := first = .interrupt ∧ second = .core0
  exec := Line.exec
  launch := Line.launch
  drift := Line.Drift

/-- `bq27742_g1_init` is about to enable the falling edge. -/
def started (low : Bool) (latched : Edges) (callQueue : List QueueEntry) : system.Config where
  shared := Line.start low latched callQueue
  programs
    | .core0 => Bq27742G1.initEnd
    | .interrupt => .done ()
    | .core1 => .done ()

/-- `bq27742_g1_init` is over, no handler is running, and no enabled edge waits. -/
structure Quiet (config : system.Config) : Prop where
  /-- Core 0 has nothing more to do with the line. -/
  finished : Line.stage config.shared .core0 = .idle
  /-- No handler is running. -/
  returned : (config.programs Thread.interrupt).isDone = true
  /-- No enabled edge waits. -/
  serviced : Line.waiting config.shared = .none

end System

/-- A parse call is queued. -/
def Line.Queued (line : Line) : Prop :=
  ∃ entry ∈ line.callQueue, entry.func = .bq27742G1ParseInterruptVals

/-- The line is neither deaf nor dropped: the falling edge is expected, or the rising edge is, a
parse call has been queued since the line fell, and it still is or the line is still low. -/
def Line.Attended (line : Line) : Prop :=
  line.pending = false ∧ line.enabled.fall = true ∨
    line.pending = true ∧ line.enabled.rise = true ∧ line.queuedSince = true ∧
      (line.Queued ∨ line.low = true)

/-! ## What the threads do -/

/-- A thread, with what it is about to do. -/
abbrev follower : Monitor Ans where
  State := Progress
  allows progress op := ∀ answer, (progress.stage.step (deed op answer)).isSome
  next progress op answer := progress.after (deed op answer)

/-- Where a thread stands at the end of a branch. -/
def Progress.left (also : Bool) : Progress := if also then ⟨.deasserted, false⟩ else .idle

/-- What is elsewhere leaves an idle thread idle. -/
theorem guards_elsewhere {α : Type} {program : Firmware α} (inside : program.Within Elsewhere) :
    follower.Guards .idle program fun progress _ => progress = .idle := by
  induction program with
  | done value => rfl
  | perform op resume ih =>
    refine ⟨fun answer => ?_, fun answer => ?_⟩
    · change (Stage.idle.step (deed op answer)).isSome
      rw [inside.1 answer]
      rfl
    · have stays : Progress.idle.after (deed op answer) = .idle := by
        change (match Stage.idle.step (deed op answer) with
          | none => Progress.idle
          | some .idle => if Progress.idle.also then ⟨.deasserted, false⟩ else .idle
          | some stage => ⟨stage, Progress.idle.also⟩) = .idle
        rw [inside.1 answer]
        rfl
      change follower.Guards (Progress.idle.after (deed op answer)) _ _
      rw [stays]
      exact ih answer (inside.2 answer)

/-- A look at the line that finds it released re-arms the falling edge. -/
theorem guards_rearmIfReleased {stage : Stage} (looks : stage = .refused ∨ stage = .released ∨
    stage = .finishing) (also : Bool) :
    follower.Guards ⟨stage, also⟩ Bq27742G1.rearmIfReleased
      fun progress _ => progress = .left also := by
  have rearm : follower.Guards ⟨.clearing, also⟩ Bq27742G1.rearmAssertIrq
      fun progress _ => progress = .left also :=
    ⟨fun _ => rfl, fun _ => ⟨fun _ => rfl, fun _ => ⟨fun _ => rfl, fun _ => rfl⟩⟩⟩
  obtain rfl | rfl | rfl := looks
  all_goals
    refine ⟨fun _ => rfl, fun (high : Bool) => ?_⟩
    cases high with
    | true => exact rearm
    | false => rfl

/-- A parse call is offered once. -/
theorem guards_queueParseInterrupt (also : Bool) :
    follower.Guards ⟨.checking, also⟩ Bq27742G1.queueParseInterrupt
      fun progress _ => progress = .left also := by
  refine ⟨fun _ => rfl, fun (pending : Bool) => ?_⟩
  cases pending with
  | true => rfl
  | false =>
    refine ⟨fun _ => rfl, fun _ => ⟨fun _ => rfl, fun _ => ⟨fun _ => rfl, fun _ =>
      ⟨fun _ => rfl, fun (added : Bool) => ?_⟩⟩⟩⟩
    cases added with
    | true => rfl
    | false => exact guards_rearmIfReleased (.inl rfl) also

/-- The handler answers the edges of its mask, the falling one first. -/
theorem guards_handler {edges : Edges} (some' : edges ≠ .none) :
    follower.Guards (if edges.fall then ⟨.acknowledging, edges.rise⟩ else ⟨.deasserted, false⟩)
      (robotInterruptHandler Bq27742G1.gpioInterrupt edges.mask)
      fun progress _ => progress = .idle := by
  have bits : (edges.mask &&& Bq27742G1.irqMask ≠ 0 ↔ edges.fall = true) ∧
      (edges.mask &&& Bq27742G1.deassertIrqMask ≠ 0 ↔ edges.rise = true) := by
    obtain ⟨rise, fall⟩ := edges
    revert rise fall
    decide
  have deassert : follower.Guards (.left edges.rise) (Bq27742G1.onDeassert edges.mask)
      fun progress _ => progress = .idle := by
    rw [Bq27742G1.onDeassert, Progress.left]
    cases rises : edges.rise with
    | true =>
      rw [if_pos (bits.2.mpr rises)]
      exact ⟨fun _ => rfl, fun _ => guards_rearmIfReleased (.inr (.inl rfl)) false⟩
    | false =>
      rw [if_neg fun bit => Bool.noConfusion (rises.symm.trans (bits.2.mp bit))]
      rfl
  change follower.Guards _ (Bq27742G1.onAssert edges.mask >>= fun _ =>
    Bq27742G1.onDeassert edges.mask) _
  rw [Monitor.guards_bind, Bq27742G1.onAssert]
  cases falls : edges.fall with
  | true =>
    rw [if_pos (bits.1.mpr falls)]
    refine ⟨fun _ => rfl, fun _ => (guards_queueParseInterrupt edges.rise).mono fun _ _ left => ?_⟩
    rw [left]
    exact deassert
  | false =>
    have rises : edges.rise = true := by
      obtain ⟨rise, fall⟩ := edges
      cases rise with
      | true => rfl
      | false => exact absurd (congrArg (Edges.mk false) falls) some'
    rw [if_neg fun bit => Bool.noConfusion (falls.symm.trans (bits.1.mp bit))]
    rw [Progress.left, rises] at deassert
    exact deassert

/-- The end of `bq27742_g1_init` looks at the line once its falling edge is enabled. -/
theorem guards_initEnd : follower.Guards ⟨.enabling, false⟩ Bq27742G1.initEnd
    fun progress _ => progress = .idle := by
  refine ⟨fun _ => rfl, fun _ => ⟨fun _ => rfl, fun (high : Bool) => ?_⟩⟩
  cases high with
  | true => exact ⟨fun _ => rfl, fun _ => rfl⟩
  | false =>
    refine ⟨fun _ => rfl, fun _ => ?_⟩
    change follower.Guards ⟨.checking, false⟩ (Bq27742G1.queueParseInterrupt >>= fun _ =>
      rp2040Log "bq27742_g1 init finished\n" []) _
    refine Monitor.guards_bind.mpr ((guards_queueParseInterrupt false).mono fun _ _ left => ?_)
    rw [left]
    exact ⟨fun _ => rfl, fun _ => rfl⟩

/-- What means nothing to the line. -/
def Silent (op : Op) : Prop := ∀ answer, deed op answer = .other

/-- Waiting, logging and raising errors mean nothing to the line. -/
theorem Silent.of_routine (op : Op) (routine : op.Routine) : Silent op := by
  intro answer
  cases op <;> first | rfl | exact routine.elim

/-- A silent program leaves a thread where it is. -/
theorem guards_silent {α : Type} {program : Firmware α} {stage : Stage}
    {post : Progress → α → Prop} (inside : program.Within Silent)
    (holds : ∀ value, post ⟨stage, false⟩ value) :
    follower.Guards ⟨stage, false⟩ program post := by
  have stays : (⟨stage, false⟩ : Progress).after .other = ⟨stage, false⟩ := by
    cases stage <;> rfl
  have allowed : (stage.step .other).isSome := by cases stage <;> rfl
  induction program with
  | done value => exact holds value
  | perform op resume ih =>
    refine ⟨fun answer => ?_, fun answer => ?_⟩
    · change (stage.step (deed op answer)).isSome
      rw [inside.1 answer]
      exact allowed
    · change follower.Guards ((⟨stage, false⟩ : Progress).after (deed op answer)) _ _
      rw [inside.1 answer, stays]
      exact ih answer (inside.2 answer)

/-- Reading registers means nothing to the line. -/
theorem readBytes_silent (command : UInt8) (len : Nat) :
    (Bq27742G1.readBytes command len).Within Silent :=
  (i2cWriteErrorHandling_within (fun _ => rfl) Silent.of_routine).bind fun _ =>
    i2cReadErrorHandling_within (fun _ => rfl) Silent.of_routine

/-- Clearing a latched IMAX interrupt means nothing to the line. -/
theorem clearImax_silent (flags : UInt16) : (Bq27742G1.clearImax flags).Within Silent :=
  .ite ⟨fun _ => rfl, fun _ => ((i2cWriteErrorHandling_within (fun _ => rfl) Silent.of_routine).bind
    fun _ => (i2cWriteErrorHandling_within (fun _ => rfl) Silent.of_routine).bind fun _ =>
      i2cReadErrorHandling_within (fun _ => rfl) Silent.of_routine).bind fun _ => trivial⟩ trivial

/-- The parse call looks at the line for its message and at its end. -/
theorem guards_parseInterruptVals : follower.Guards ⟨.reporting, false⟩
    Bq27742G1.parseInterruptVals fun progress _ => progress = .idle := by
  have log (value mask : UInt16) (message : String) :
      (Bq27742G1.logBit value mask message).Within Silent :=
    .ite ⟨fun _ => rfl, fun _ => trivial⟩ trivial
  have tail (flags safety : UInt16) : follower.Guards ⟨.finishing, false⟩ (do
      Bq27742G1.logNoStatus flags safety
      Bq27742G1.rearmIfReleased
      return Int32.ofNat flags.toNat) fun progress _ => progress = .idle := by
    refine Monitor.guards_bind.mpr (guards_silent (.ite ⟨fun _ => rfl, fun _ => trivial⟩ trivial)
      fun _ => Monitor.guards_bind.mpr ((guards_rearmIfReleased (.inr (.inr rfl)) false).mono
        fun _ _ left => ?_))
    rw [left]
    rfl
  refine Monitor.guards_bind.mpr (guards_silent (readBytes_silent _ _) fun flags => ?_)
  refine Monitor.guards_bind.mpr (guards_silent (readBytes_silent _ _) fun safety => ?_)
  refine Monitor.guards_bind.mpr (Monitor.guards_act.mpr ⟨fun _ => rfl, fun level => ?_⟩)
  have message : (rp2040Log
      "BQ27742-G1 interrupt: GPIO%d=%d Flags=0x%04x SafetyStatus=0x%04x\n"
      [.int Bq27742G1.gpioInterrupt, .int level.toNat, .int (Bq27742G1.word flags).toNat,
        .int (Bq27742G1.word safety).toNat]).Within Silent := ⟨fun _ => rfl, fun _ => trivial⟩
  change follower.Guards ⟨.finishing, false⟩ (_ >>= _) _
  refine Monitor.guards_bind.mpr (guards_silent message fun _ => ?_)
  iterate 3 refine Monitor.guards_bind.mpr (guards_silent (log _ _ _) fun _ => ?_)
  refine Monitor.guards_bind.mpr (guards_silent (clearImax_silent _) fun _ => ?_)
  iterate 6 refine Monitor.guards_bind.mpr (guards_silent (log _ _ _) fun _ => ?_)
  exact tail _ _

/-- The handlers of other pins do not touch the line. -/
theorem otherInterrupt_elsewhere {gpio : Nat} (other : gpio ≠ Bq27742G1.gpioInterrupt)
    (eventMask : UInt32) : (robotInterruptHandler gpio eventMask).Within Elsewhere := by
  have routine (op : Op) (routine : op.Routine) : Elsewhere op := by
    intro answer
    rw [Silent.of_routine op routine answer]
    rfl
  have acknowledged (mask : UInt32) : Elsewhere (.gpioAcknowledgeIrq gpio mask) := by
    intro answer
    rw [deed, if_neg other]
    rfl
  have queued {func : EntryFunc} (silent : func ≠ .bq27742G1ParseInterruptVals) (arg : Int32) :
      Elsewhere (.callQueueTryAdd ⟨func, arg⟩) := fun _ => if_neg silent
  have loaded (flag : Flag) (apart : flag ≠ .bq27742G1InterruptPending) :
      Elsewhere (.load flag) := by
    intro answer
    cases flag <;> first | rfl | exact absurd rfl apart
  have announce {mask : UInt32} {func : EntryFunc}
      (silent : func ≠ .bq27742G1ParseInterruptVals) :
      Program.Within Elsewhere (do
        gpioAcknowledgeIrq gpio mask
        callQueueTryAdd func 0
        if ← load .testNcp3901Started then callQueueTryAdd .ncp3901TestResponse 1) :=
    queueFunctions_allowed routine (acknowledged mask) (queued silent 0)
      (loaded _ (by decide)) (queued (by decide) 1)
  have silent : ∀ func ∈ EntryFunc.ofInterrupt, func ≠ .bq27742G1ParseInterruptVals := by decide
  have apart : ∀ flag ∈ Flag.ofInterrupt, flag ≠ .bq27742G1InterruptPending := by decide
  exact robotInterruptHandler_allowed routine acknowledged
    (fun func listed => queued (silent func listed)) (fun flag listed =>
        loaded flag (apart flag listed))
    (fun _ => .ite (announce (by decide)) (.ite (announce (by decide)) trivial))
    fun same => absurd same other

end GaugeLine

end RobotFirmware
