import RobotFirmware.TypeC.Discipline

/-!
# The threads of the pipeline

Every program that a thread is launched on keeps to the discipline: `max77958_init`, the opcode
tests and `max77958_shutdown` on core 0, the interrupt handler, and whatever core 1 takes from
the call queue. So in every configuration reached each thread performs only permitted deeds,
and a property of the board that permitted deeds preserve holds in every run.
-/

namespace RobotFirmware

open Interaction Max77958

namespace TypeC

/-- Core 1 has to execute a command that it took, and stays where it was for the rest. -/
theorem Board.dequeue_duty (board : Board) (entry : QueueEntry) (rest : List QueueEntry) :
    (board.dequeue entry rest).core0 = board.core0 ∧ (board.dequeue entry rest).core1.duty =
      if entry.func.isOpcode then .executing entry else board.core1.duty := by
  unfold Board.dequeue
  split_ifs <;> exact ⟨rfl, rfl⟩

/-- The commands of the opcode tests are commands, and do not touch GPIO4. -/
theorem testedOpcodes_fit : ∀ func ∈ Board.testedOpcodes, Due.other.Fits ⟨func, 0⟩ := by
  intro func tested
  have plain : func.isOpcode = true ∧ func ≠ .gpioSet := by
    revert func
    decide
  refine ⟨plain.1, fun off => Due.noConfusion off, fun high => ?_⟩
  rw [gpio4?, if_neg plain.2] at high
  cases high

section Threads

variable [DriverHeader] {thread : Thread} {here : Local} {buffers : Buffers}

/-- A function that keeps a thread in its section, whatever it is answered. -/
def Stays {α : Type} (thread : Thread) (function : Driver α) : Prop :=
  ∀ (here : Local) (buffers : Buffers),
    (driver thread).Guards here (function.run buffers) fun final _ => final.duty = here.duty

/-- Functions that stay may follow each other. -/
theorem Stays.bind {α β : Type} {function : Driver α} {next : α → Driver β}
    (first : Stays thread function) (second : ∀ value, Stays thread (next value)) :
    Stays thread (function >>= next) := by
  intro here buffers
  rw [StateT.run_bind]
  exact Monitor.guards_bind.mpr ((first here buffers).mono fun middle reached stayed =>
    (second reached.1 middle reached.2).mono fun final _ same => same.trans stayed)

/-- A message stays. -/
theorem Stays.log (format : String) (args : List LogArg) :
    Stays thread (rp2040Log format args : Driver Unit) :=
  fun _ _ => ⟨fun _ => trivial, fun _ => rfl⟩

/-- Reading a byte of `return_buf` stays. -/
theorem Stays.returnByte (index : Fin 33) :
    Stays thread (returnByte index : Driver UInt8) := fun _ _ => rfl

/-- A branch stays when both of its sides do. -/
theorem Stays.ite {α : Type} {condition : Prop} [Decidable condition] {yes no : Driver α}
    (first : Stays thread yes) (second : Stays thread no) :
    Stays thread (if condition then yes else no) := by
  split_ifs
  · exact first
  · exact second

/-- `test_max77958_get_id` stays. -/
theorem testGetId_stays : Stays thread testGetId := by
  have ids {rest : Driver Unit} (stays : Stays thread rest) : Stays thread (do
      clearSendBuf
      clearReturnBuf
      writeSendBuf 1 true
      readReturnBuf 2
      rest) := by
    intro here buffers
    simp only [clearSendBuf, clearReturnBuf, StateT.run_bind, StateT.run_modify,
      Monitor.guards_bind, Program.pure_def, Monitor.guards_done]
    have head : ((Vector.replicate 33 (0 : UInt8)).toList.take 1).head? = some 0 := rfl
    have plain : some (0 : UInt8) ≠ some opcodeWriteReg := by decide
    refine guards_writeSendBuf (by rw [head]; exact plain) ?_
    simp only [head, readReturnBuf, StateT.run_bind, StateT.run_monadLift, StateT.run_modify,
      monadLift_self, Monitor.guards_bind, Program.pure_def, Monitor.guards_done]
    exact guards_read (fun _ => trivial) fun bytes => stays _ _
  have last : Stays thread (do
      rp2040Log "test_max77958_get_id PASSED: DEVICE_ID = %x\n" [.byte (← Max77958.returnByte 0)]
      rp2040Log "test_max77958_get_id PASSED: DEVICE_REV = %x\n" [.byte (← Max77958.returnByte 1)] :
        Driver Unit) :=
    (Stays.returnByte _).bind fun _ => (Stays.log _ _).bind fun _ =>
      (Stays.returnByte _).bind fun _ => Stays.log _ _
  have check {condition : Prop} [Decidable condition] (message : String) {rest : Driver Unit}
      (stays : Stays thread rest) : Stays thread (do
        if condition then rp2040Log message []
        rest : Driver Unit) := .ite ((Stays.log _ _).bind fun _ => stays) stays
  refine (Stays.log _ _).bind fun _ => ids ?_
  exact (Stays.returnByte _).bind fun _ => check _ ((Stays.returnByte _).bind fun _ => check _ last)

/-- `set_interrupt_masks` stays. -/
theorem setInterruptMasks_stays : Stays thread setInterruptMasks := by
  intro here buffers
  simp only [setInterruptMasks, clearSendBuf, setSend, StateT.run_bind, StateT.run_modify,
    Monitor.guards_bind, Program.pure_def, Monitor.guards_done]
  have plain : regUicIntM ≠ opcodeWriteReg := by decide
  exact guards_writeSendBuf (fun same => plain (Option.some.inj same)) rfl

/-- `max77958_init` queues its three commands and moves the first one. -/
theorem guards_initDevice (duty : here.duty = .starting) :
    (driver .core0).Guards here ((initDevice : Driver Unit).run buffers) fun final _ => final.duty =
        .free := by
  have fits (func : EntryFunc) (data : Int32) (opcode : func.isOpcode = true) 
      (low : gpio4? ⟨func, data⟩ ≠ some true) : Due.other.Fits ⟨func, data⟩ :=
    ⟨opcode, fun off => Due.noConfusion off, fun high => absurd high low⟩
  unfold initDevice
  rw [StateT.run_bind, Monitor.guards_bind]
  refine (testGetId_stays here buffers).mono fun first reached same => ?_
  rw [StateT.run_bind, Monitor.guards_bind]
  refine (setInterruptMasks_stays first reached.2).mono fun second found also => ?_
  have starting := (also.trans same).trans duty
  simp only [StateT.run_bind, StateT.run_monadLift, monadLift_self, Monitor.guards_bind,
    Program.pure_def, Monitor.guards_done]
  iterate 5 refine ⟨fun _ => trivial, fun _ => ?_⟩
  refine guards_readRegisters (by decide) (fun _ => .inr ⟨rfl, starting⟩) fun bytes final filled =>
    ?_
  have stands : second.duty.after (reading (some regUicInt) bytes.toList) = .starting := by
    rw [starting]
    exact if_neg fun both => Duty.noConfusion both.2
  refine guards_opcodeQueueAdd (.inr (.inr ⟨rfl, .inl stands⟩)) ?_ ?_
  · change (second.duty.after (reading (some regUicInt) bytes.toList)).due.Fits _
    rw [stands]
    exact fits _ _ rfl (by decide)
  refine guards_opcodeQueueAdd (.inr (.inr ⟨rfl, .inr rfl⟩)) (fits _ _ rfl (by decide)) ?_
  refine guards_opcodeQueueAdd (.inr (.inr ⟨rfl, .inr rfl⟩)) (fits _ _ rfl (by decide)) ?_
  refine guards_opcodeQueuePop rfl fun _ => ⟨fun _ => trivial, fun _ => ?_⟩
  exact onCcstatChange_settles _ _ rfl

/-- The opcode tests and `max77958_shutdown` add a command and move one. -/
theorem guards_runOpcode {func : EntryFunc} {data : Int32} (duty : here.duty = .free)
    (fits : Due.other.Fits ⟨func, data⟩) :
    (driver thread).Guards here (runOpcode func data) fun final _ => final.duty = .free := by
  have due : here.duty.due.Fits ⟨func, data⟩ := by rwa [duty]
  refine Monitor.guards_bind.mpr (guards_opcodeQueueAdd (.inl duty) due ?_)
  refine Monitor.guards_bind.mpr (guards_opcodeQueuePop rfl fun _ => ?_)
  exact ⟨fun _ => trivial, fun _ => rfl⟩

/-- Whatever core 1 takes from the call queue ends in no section. A command is due when it is
taken. -/
theorem guards_call (entry : QueueEntry)
    (duty : here.duty = if entry.func.isOpcode then .executing entry else .free) :
    (driver .core1).Guards here (entry.call buffers >>= fun _ => .done ())
      fun final _ => final.duty = .free := by
  have driven {function : Driver Int32} (guards : (driver .core1).Guards here
      (function.run buffers) fun final _ => final.duty = .free) :
      (driver .core1).Guards here (callDriver buffers function >>= fun _ => .done ())
        fun final _ => final.duty = .free :=
    Monitor.guards_bind.mpr (Monitor.guards_bind.mpr guards)
  have command {function : Driver Int32} (opcode : entry.func.isOpcode = true)
      (executes : Executes entry.func entry.data function) :
      (driver .core1).Guards here (callDriver buffers function >>= fun _ => .done ())
        fun final _ => final.duty = .free := by
    obtain ⟨selected, _⟩ := here
    obtain rfl := duty.trans (if_pos opcode)
    exact driven (executes selected buffers)
  have settled {function : Driver Int32} (plain : entry.func.isOpcode = false)
      (settles : Settles .core1 function) :
      (driver .core1).Guards here (callDriver buffers function >>= fun _ => .done ())
        fun final _ => final.duty = .free :=
    driven (settles here buffers (duty.trans (if_neg (Bool.eq_false_iff.mp plain))))
  have aside {program : Firmware Int32} (plain : entry.func.isOpcode = false)
      (inside : program.Within fun op => op.Peripheral ∨ op = .strayStore 3) :
      (driver .core1).Guards here (program >>= fun _ => .done ()) fun final _ => final.duty =
          .free :=
    Monitor.guards_bind.mpr (ignores_peripheral.guards inside fun _ =>
      duty.trans (if_neg (Bool.eq_false_iff.mp plain)))
  obtain ⟨func, data⟩ := entry
  cases func with
  | parseInterruptVals => exact settled rfl parseInterruptVals_settles
  | pdMsgResponse => exact settled rfl pdMsgResponse_settles
  | gpioSet => exact command rfl (gpioSet_executes data)
  | customerConfigWrite => exact command rfl (customerConfigWrite_executes data)
  | bcCtrl1Read => exact command rfl (plainOpcode_executes data nofun (by decide))
  | bcCtrl2Read => exact command rfl (plainOpcode_executes data nofun (by decide))
  | control1Read => exact command rfl (plainOpcode_executes data nofun (by decide))
  | ccCtrl1Read => exact command rfl (plainOpcode_executes data nofun (by decide))
  | ccCtrl4Read => exact command rfl (plainOpcode_executes data nofun (by decide))
  | gpioControlRead => exact command rfl (plainOpcode_executes data nofun (by decide))
  | gpio0Gpio1AdcRead => exact command rfl (plainOpcode_executes data nofun (by decide))
  | snkPdoRequest => exact command rfl (snkPdoRequest_executes data)
  | customerConfigRead => exact command rfl (plainOpcode_executes data nofun (by decide))
  | _ => exact aside rfl (QueueEntry.call_apart buffers _ rfl)

/-! ## The pipeline keeps to it -/

/-- The interrupt handler, which only queues functions that are no commands. -/
abbrev handler : Monitor Ans where
  State := Unit
  allows _ op := op.Interrupt
  next _ _ _ := ()

/-- What the interrupt handler does is to request a shutdown at most, and to queue functions
that are no commands. -/
inductive Interrupting : Deed → Prop where
  /-- Nothing. -/
  | other : Interrupting .other
  /-- Another device. -/
  | shutdown (value : Bool) : Interrupting (.requestShutdown value)
  /-- A function that is no command. -/
  | queue {entry : QueueEntry} (added : Bool) (plain : entry.func.isOpcode = false) :
      Interrupting (.queue entry added)

/-- The operations of the interrupt handler. -/
theorem deed_interrupt {op : Op} (interrupt : op.Interrupt) (selected : Option UInt8)
    (answer : Ans op) : Interrupting (deed selected op answer) := by
  obtain peripheral | ⟨entry, rfl, plain⟩ := interrupt
  · obtain other | ⟨value, shutdown⟩ := deed_peripheral peripheral selected answer
    · rw [other]; exact .other
    · rw [shutdown]; exact .shutdown value
  · exact .queue _ plain

/-- The monitor of each thread. -/
abbrev monitor : Thread → Monitor Ans
  | .core0 => driver .core0
  | .interrupt => handler
  | .core1 => driver .core1

/-- What the monitor of a thread knows. -/
def view : (thread : Thread) → Board → (monitor thread).State
  | .core0, board => board.core0
  | .interrupt, _ => ()
  | .core1, board => board.core1

/-- An idle thread is in no section. -/
def rest : (thread : Thread) → (monitor thread).State → Prop
  | .core0, (here : Local) => here.duty = .free
  | .interrupt, _ => True
  | .core1, (here : Local) => here.duty = .free

/-- A deed moves no thread by itself. -/
theorem Board.act_threads {board after : Board} {duty : Duty} {deed : Deed}
    (acted : board.act duty deed = some after) :
    after.core0 = board.core0 ∧ after.core1 = board.core1 := by
  cases deed with
  | command src =>
    cases duty <;> (obtain rfl := Option.some.inj acted; exact ⟨rfl, rfl⟩)
  | queue entry added | addOpcode entry added =>
    simp only [Board.act, Option.ite_none_right_eq_some, Option.some.injEq] at acted
    obtain ⟨_, rfl⟩ := acted
    split <;> exact ⟨rfl, rfl⟩
  | readInterrupts | readResponse | readPdStatus | removeOpcode | seeFinished =>
    simp only [Board.act, Option.ite_none_right_eq_some, Option.some.injEq] at acted
    obtain ⟨_, rfl⟩ := acted
    exact ⟨rfl, rfl⟩
  | _ =>
    obtain rfl := Option.some.inj acted
    exact ⟨rfl, rfl⟩

/-- An answered operation is a deed, after which its thread has moved. -/
theorem Board.exec_cases {board after : Board} {thread : Thread} {op : Op} {answer : Ans op}
    (executed : board.exec thread op answer = some after) :
    ∃ acted, board.act (board.here thread).duty (deed (board.here thread).selected op answer) =
      some acted ∧ after = acted.moved thread ((board.here thread).next op answer) := by
  obtain ⟨acted, found, rfl⟩ := Option.map_eq_some_iff.mp executed
  exact ⟨acted, found, rfl⟩

/-- The pipeline keeps to the discipline. -/
def discipline : System.Discipline (pipeline : System Ans) where
  monitor := monitor
  view := view
  rest := rest
  own := by
    intro thread board op answer after executed
    obtain ⟨acted, found, rfl⟩ := Board.exec_cases executed
    cases thread <;> rfl
  other := by
    intro thread board op answer after executed bystander apart
    obtain ⟨acted, found, rfl⟩ := Board.exec_cases executed
    obtain ⟨core0, core1⟩ := Board.act_threads found
    cases bystander <;> cases thread <;> first | exact absurd rfl apart | assumption | rfl
  launched := by
    intro thread board program after launched resting
    cases thread with
    | core0 =>
      obtain ⟨rfl, rfl | ⟨func, tested, rfl⟩⟩ := launched
      · exact guards_runOpcode resting
          ⟨rfl, fun off => Due.noConfusion off, fun high => absurd high (by decide)⟩
      · exact guards_runOpcode resting (testedOpcodes_fit func tested)
    | interrupt =>
      obtain ⟨rfl, gpio, eventMask, rfl⟩ := launched
      have ignores : handler.Ignores Op.Interrupt := fun _ _ inside => ⟨inside, fun _ => rfl⟩
      exact ignores.guards (robotInterruptHandler_within gpio eventMask) fun _ => trivial
    | core1 =>
      obtain ⟨_, entry, rest, buffers, queued, rfl, rfl⟩ := launched
      refine guards_call entry ((Board.dequeue_duty board entry rest).2.trans ?_)
      rw [show board.core1.duty = .free from resting]
  aside := by
    intro thread board program after launched bystander apart
    cases thread with
    | core0 => exact congrArg (view bystander) launched.1
    | interrupt => exact congrArg (view bystander) launched.1
    | core1 =>
      obtain ⟨_, entry, rest, buffers, queued, rfl, rfl⟩ := launched
      cases bystander with
      | core0 => exact (Board.dequeue_duty board entry rest).1
      | interrupt => rfl
      | core1 => exact absurd rfl apart
  drifted := by
    intro board after drifted thread
    cases drifted <;> cases thread <;> rfl

end Threads

end TypeC

end RobotFirmware
