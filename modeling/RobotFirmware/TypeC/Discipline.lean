import RobotFirmware.TypeC.Board

/-!
# The discipline of the pipeline

Which deeds a thread with a given duty performs. Every program that a thread can be launched on
keeps to this, whatever it is answered, and ends in no section of the driver. What is proved of
the pipeline afterwards follows from the permitted deeds alone.
-/

namespace RobotFirmware

open Interaction Max77958

namespace TypeC

/-- A command that may be added for the given reason. -/
structure Due.Fits (due : Due) (entry : QueueEntry) : Prop where
  /-- It is a command. -/
  opcode : entry.func.isOpcode = true
  /-- Turning VBUS off sets GPIO4 low. -/
  low : due = .off → gpio4? entry = some false
  /-- Only turning VBUS on sets GPIO4 high. -/
  high : gpio4? entry = some true → due = .on

/-- The first byte read stands first in the buffer. -/
theorem first_byte {len : Nat} (nonempty : 0 < len) (bytes : Vector UInt8 len)
    (buf : Vector UInt8 33) : (overwrite buf bytes)[0] = bytes.toList.headD 0 := by
  have head : bytes.toList.headD 0 = bytes[0] := by
    rw [List.headD_eq_head?_getD, List.head?_eq_getElem?]
    simp [nonempty]
  rw [head]
  simp [overwrite, nonempty]

section Deeds

variable [DriverHeader]

/-- The deeds that a thread with the given duty performs. -/
def Permits (thread : Thread) (duty : Duty) : Deed → Prop
  | .command src =>
    thread = .core1 ∧ ∃ entry, duty = .executing entry ∧ gpio4OfCommand? src = gpio4? entry
  | .readInterrupts _ => thread = .core1 ∧ duty = .free ∨ thread = .core0 ∧ duty = .starting
  | .readResponse _ => thread = .core1 ∧ duty = .noticed
  | .readCcStatus _ => duty = .free
  | .readPdStatus _ => duty = .free
  | .queue entry _ => (∃ answering, duty = .holding entry answering) ∨
      entry.func.isOpcode = false ∧ ∀ held answering, duty ≠ .holding held answering
  | .addOpcode entry _ => ∃ due, duty = .cleared due ∧ due.Fits entry
  | .removeOpcode _ => duty = .added ∨ thread = .core1 ∧ duty = .answered
  | .setFinished true => thread = .core1 ∧ duty = .finishing
  | .setFinished false => duty = .free ∨ (∃ due, duty = .turning due) ∨
      thread = .core0 ∧ (duty = .starting ∨ duty = .added)
  | .storeResponse bytes => thread = .core1 ∧ duty = .replied bytes
  | .resetQueue => False
  | _ => True

/-- A thread that keeps to the discipline. -/
abbrev driver (thread : Thread) : Monitor Ans where
  State := Local
  allows here op := ∀ answer, Permits thread here.duty (deed here.selected op answer)
  next := Local.next

variable {thread : Thread} {here : Local} {buffers : Buffers}

/-- The MAX77958 has an address of its own. -/
theorem slaveP1_apart :
    Bq27742G1.addr ≠ DriverHeader.slaveP1 ∧
      ∀ motor : Drv8830.Motor, motor.address ≠ DriverHeader.slaveP1 := by
  have apart := DriverHeader.slave_apart
  simp only [List.mem_cons, List.not_mem_nil, or_false, not_or] at apart
  refine ⟨fun same => apart.2.2 same.symm, fun motor => ?_⟩
  cases motor with
  | left => exact fun same => apart.1 same.symm
  | right => exact fun same => apart.2.1 same.symm

/-- The other devices mean nothing to the pipeline, but for a request to shut down. -/
theorem deed_peripheral {op : Op} (peripheral : op.Peripheral) (selected : Option UInt8)
    (answer : Ans op) :
    deed selected op answer = .other ∨ ∃ value, deed selected op answer =
      .requestShutdown value := by
  cases op with
  | i2cWriteTimeoutUs i2c addr src nostop =>
    cases i2c with
    | i2c0 =>
      have apart : addr ≠ DriverHeader.slaveP1 := by
        obtain rfl | ⟨⟨motor, rfl⟩, _⟩ := peripheral
        · exact slaveP1_apart.1
        · exact slaveP1_apart.2 motor
      exact .inl (if_neg fun hit => apart hit.1)
    | i2c1 => exact .inl rfl
  | i2cReadTimeoutUs i2c addr len nostop =>
    cases i2c with
    | i2c0 =>
      have apart : addr ≠ DriverHeader.slaveP1 := by
        obtain rfl | ⟨motor, rfl⟩ := peripheral
        · exact slaveP1_apart.1
        · exact slaveP1_apart.2 motor
      exact .inl (if_neg fun hit => apart hit.1)
    | i2c1 => exact .inl rfl
  | store flag value =>
    cases flag <;> first | exact .inl rfl | exact .inr ⟨_, rfl⟩ | exact absurd rfl peripheral
  | load flag => cases flag <;> first | exact .inl rfl | exact absurd rfl peripheral
  | _ => first | exact .inl rfl | exact peripheral.elim

/-- The other devices leave a thread where it stands. -/
theorem ignores_peripheral : (driver thread).Ignores fun op => op.Peripheral ∨ op =
    .strayStore 3 := by
  rintro (here : Local) op (peripheral | rfl)
  · have seen := deed_peripheral peripheral here.selected
    refine ⟨fun answer => ?_, fun answer => ?_⟩
    · obtain other | ⟨value, shutdown⟩ := seen answer
      · rw [other]; trivial
      · rw [shutdown]; trivial
    · change here.next op answer = here
      obtain other | ⟨value, shutdown⟩ := seen answer
      · simp only [Local.next, other, Deed.selects, Duty.after]
      · simp only [Local.next, shutdown, Deed.selects, Duty.after]
  · exact ⟨fun _ => trivial, fun _ => rfl⟩

/-- Logging, waiting and raising errors leave a thread where it stands. -/
theorem ignores_routine : (driver thread).Ignores Op.Routine :=
  fun here op routine => ignores_peripheral here op (.inl routine.peripheral)

/-! ## The queues -/

/-- `assert(false)` never returns. -/
theorem guards_assertFalse {α : Type} {post : Local → α → Prop} :
    (driver thread).Guards here assertFalse post :=
  ⟨fun _ => trivial, fun impossible => nomatch impossible⟩

/-- `opcode_queue_add` adds a command that fits. -/
theorem guards_opcodeQueueAdd {func : EntryFunc} {data : Int32} {post : Local → Unit → Prop}
    (begins : Permits thread here.duty (.setFinished false))
    (fits : here.duty.due.Fits ⟨func, data⟩) (holds : post { here with duty := .added } ()) :
    (driver thread).Guards here (opcodeQueueAdd func data) post := by
  refine ⟨fun _ => begins, fun _ => ⟨fun added => ⟨_, rfl, fits⟩, fun added => ?_⟩⟩
  cases added with
  | true => exact ⟨fun _ => trivial, fun _ => ⟨fun _ => trivial, fun _ => holds⟩⟩
  | false =>
    exact ⟨fun _ => trivial, fun _ => ⟨fun _ => trivial, fun impossible => nomatch impossible⟩⟩

/-- `opcode_queue_pop` after an addition moves a command, or finds none. -/
theorem guards_opcodeQueuePop {post : Local → Bool → Prop} (duty : here.duty = .added)
    (holds : ∀ popped, post { here with duty := .free } popped) :
    (driver thread).Guards here opcodeQueuePop post := by
  obtain ⟨selected, _⟩ := here
  subst duty
  refine ⟨fun _ => .inl rfl, fun removed => ?_⟩
  cases removed with
  | none => exact ⟨fun _ => trivial, fun _ => holds false⟩
  | some entry =>
    refine ⟨fun _ => trivial, fun _ => ⟨fun _ => trivial, fun _ =>
      ⟨fun _ => .inl ⟨_, rfl⟩, fun added => ?_⟩⟩⟩
    cases added with
    | true => exact ⟨fun _ => trivial, fun _ => holds true⟩
    | false => exact ⟨fun _ => trivial, fun _ => holds false⟩

/-- `opcode_queue_pop` after a response moves a command, or is about to set the flag. -/
theorem guards_opcodeQueuePop_answered {selected : Option UInt8} {post : Local → Bool → Prop}
    (moved : post ⟨selected, .free⟩ true) (failed : post ⟨selected, .finishing⟩ false) :
    (driver .core1).Guards ⟨selected, .answered⟩ opcodeQueuePop post := by
  refine ⟨fun _ => .inr ⟨rfl, rfl⟩, fun removed => ?_⟩
  cases removed with
  | none => exact ⟨fun _ => trivial, fun _ => failed⟩
  | some entry =>
    refine ⟨fun _ => trivial, fun _ => ⟨fun _ => trivial, fun _ =>
      ⟨fun _ => .inl ⟨_, rfl⟩, fun added => ?_⟩⟩⟩
    cases added with
    | true => exact ⟨fun _ => trivial, fun _ => moved⟩
    | false => exact ⟨fun _ => trivial, fun _ => failed⟩

/-- `call_queue_try_add` outside `opcode_queue_pop` queues functions that are no commands. -/
theorem guards_callQueueTryAdd {func : EntryFunc} {data : Int32} {post : Local → Unit → Prop}
    (plain : func.isOpcode = false) (duty : here.duty = .free) (holds : post here ()) :
    (driver thread).Guards here (callQueueTryAdd func data) post := by
  obtain ⟨selected, _⟩ := here
  subst duty
  refine ⟨fun _ => .inr ⟨plain, fun _ _ => Duty.noConfusion⟩, fun added => ?_⟩
  cases added with
  | true => exact holds
  | false =>
    exact ⟨fun _ => trivial, fun _ => guards_assertFalse⟩

/-- One command is added and one is moved. -/
theorem guards_addAndPop {func : EntryFunc} {data : Int32} {post : Local → Unit → Prop}
    (begins : Permits thread here.duty (.setFinished false))
    (fits : here.duty.due.Fits ⟨func, data⟩) (holds : post { here with duty := .free } ()) :
    (driver thread).Guards here (do
      opcodeQueueAdd func data
      let _ ← opcodeQueuePop) post :=
  Monitor.guards_bind.mpr <| guards_opcodeQueueAdd begins fits <| Monitor.guards_bind.mpr <|
    guards_opcodeQueuePop rfl fun _ => holds

/-! ## The chip -/

/-- A write that is no command selects its first byte. -/
theorem guards_writeSendBuf {len : Nat} {nostop : Bool} {post : Local → Unit × Buffers → Prop}
    (plain : (buffers.sendBuf.toList.take len).head? ≠ some opcodeWriteReg)
    (holds : post { here with selected := (buffers.sendBuf.toList.take len).head? } ((), buffers)) :
    (driver thread).Guards here ((writeSendBuf len nostop : Driver Unit).run buffers) post := by
  simp only [writeSendBuf, StateT.run_bind, StateT.run_get, StateT.run_monadLift, monadLift_self,
    Monitor.guards_bind, Program.pure_def, Monitor.guards_done]
  refine guards_i2cWriteErrorHandling ignores_routine ?_ ?_ ?_
  · intro (result : Int)
    simp only [deed, if_neg plain]
    split_ifs <;> trivial
  · intro result failed
    simp only [Local.next, deed, if_neg fun hit => Int.not_le.mpr failed (And.right hit),
      Deed.selects, Duty.after]
  · intro result written
    simpa only [Local.next, deed, true_and, written, if_true, if_neg plain, Deed.selects,
      Duty.after] using holds

/-- A read means what its register says. -/
theorem guards_read {len : Nat} {post : Local → Vector UInt8 len → Prop}
    (permits : ∀ bytes : Vector UInt8 len, Permits thread here.duty
        (reading here.selected bytes.toList))
    (holds : ∀ bytes : Vector UInt8 len,
      post { here with duty := here.duty.after (reading here.selected bytes.toList) } bytes) :
    (driver thread).Guards here (i2cReadErrorHandling .i2c0 DriverHeader.slaveP1 len false)
        post := by
  have apart (bytes : Vector UInt8 len) :
      (reading here.selected bytes.toList).selects here.selected = here.selected := by
    unfold reading
    split_ifs <;> rfl
  refine RobotFirmware.guards_i2cReadErrorHandling ignores_routine ?_ ?_ ?_
  · intro answer
    obtain ⟨result, bytes⟩ : Int × Vector UInt8 len := answer
    simp only [deed, true_and]
    split_ifs
    · exact permits bytes
    · trivial
  · intro result bytes failed
    simp only [Local.next, deed, if_neg fun hit => Int.not_le.mpr failed (And.right hit),
      Deed.selects, Duty.after]
  · intro result bytes obtained
    simpa only [Local.next, deed, true_and, obtained, if_true, apart] using holds bytes

/-- Registers are read into a cleared buffer. -/
theorem guards_readRegisters {reg : UInt8} {len : Nat} {post : Local → Unit × Buffers → Prop}
    (plain : reg ≠ opcodeWriteReg)
    (permits : ∀ bytes : Vector UInt8 len,
      Permits thread here.duty (reading (some reg) bytes.toList))
    (holds : ∀ (bytes : Vector UInt8 len) (final : Buffers),
      final.returnBuf = overwrite (.replicate 33 0) bytes →
      post ⟨some reg, here.duty.after (reading (some reg) bytes.toList)⟩ ((), final)) :
    (driver thread).Guards here ((readRegisters reg len : Driver Unit).run buffers) post := by
  simp only [readRegisters, clearSendBuf, clearReturnBuf, setSend, StateT.run_bind, pure_bind,
    StateT.run_modify, Monitor.guards_bind]
  refine guards_writeSendBuf (fun same => plain (Option.some.inj same)) ?_
  simp only [readReturnBuf, StateT.run_bind, StateT.run_monadLift, StateT.run_modify,
    monadLift_self, Monitor.guards_bind, Program.pure_def, Monitor.guards_done]
  exact guards_read permits fun bytes => holds bytes _ rfl

/-! ## Commands -/

/-- The level of GPIO4 in a command depends on its second and fourth byte. -/
theorem gpio4OfCommand?_eq (sendBuf : Vector UInt8 33) :
    gpio4OfCommand? sendBuf.toList =
      if sendBuf.get 1 = DriverHeader.opcodeSetGpio then some (raises (sendBuf.get 3) gpio4Mask)
      else none := by
  have bytes : sendBuf.toList = sendBuf[0] :: sendBuf[1] :: sendBuf[2] :: sendBuf[3] ::
      sendBuf.toList.drop 4 := by
    apply List.ext_getElem
    · simp
    · intro i _ _
      rcases i with _ | _ | _ | _ | i <;> simp [Nat.add_comm _ 1]
      simp only [Nat.add_comm 1, List.getElem_cons_succ, List.getElem_drop, Vector.getElem_toList,
        Nat.add_comm 4]
  rw [bytes]
  rfl

/-- `opcode_write` writes the command that core 1 is executing. -/
theorem guards_opcodeWrite {entry : QueueEntry} {post : Local → Unit × Buffers → Prop}
    (duty : here.duty = .executing entry) (head : buffers.sendBuf.get 0 = opcodeWriteReg)
    (level : gpio4OfCommand? buffers.sendBuf.toList = gpio4? entry)
    (holds : ∀ (final : Local) (left : Buffers), final.duty = .free → post final ((), left)) :
    (driver .core1).Guards here ((opcodeWrite : Driver Unit).run buffers) post := by
  have whole : buffers.sendBuf.toList.take 33 = buffers.sendBuf.toList :=
    List.take_of_length_le (by simp)
  have first : buffers.sendBuf.toList.head? = some opcodeWriteReg := by
    rw [← head]
    simp [List.head?_eq_getElem?, Vector.get]
  have written : (driver .core1).Guards here ((writeSendBuf 33 false : Driver Unit).run buffers)
      fun final value => final.duty = .free ∧ value.2 = buffers := by
    simp only [writeSendBuf, StateT.run_bind, StateT.run_get, StateT.run_monadLift,
      monadLift_self, Monitor.guards_bind, Program.pure_def, Monitor.guards_done, whole]
    refine guards_i2cWriteErrorHandling ignores_routine ?_ ?_ ?_
    · intro (result : Int)
      simp only [deed, first, if_true]
      split_ifs
      · exact ⟨rfl, entry, duty, level⟩
      · trivial
    · intro result failed
      simp only [Local.next, deed, if_neg fun hit => Int.not_le.mpr failed (And.right hit),
        Deed.selects, Duty.after]
    · intro result written
      simp only [Local.next, deed, first, written, if_true, Duty.after, and_self]
  simp only [opcodeWrite, StateT.run_bind, run_sendByte, StateT.run_modify, setSend,
    Monitor.guards_bind, Program.pure_def, Monitor.guards_done, Monitor.guards_run_ite]
  split_ifs with other
  · exact absurd head other
  · refine written.mono ?_
    rintro final ⟨_, left⟩ ⟨free, rfl⟩
    refine guards_writeSendBuf ?_ (holds _ _ free)
    simp [List.head?_eq_getElem?, opcodeWriteReg]

/-- A function that core 1 runs for a command, and that writes it. -/
def Executes (func : EntryFunc) (data : Int32) (function : Driver Int32) : Prop :=
  ∀ (selected : Option UInt8) (buffers : Buffers),
    (driver .core1).Guards ⟨selected, .executing ⟨func, data⟩⟩ (function.run buffers)
      fun final _ => final.duty = .free

/-- `gpio_set` writes the levels that it was queued with. -/
theorem gpioSet_executes (data : Int32) : Executes .gpioSet data (gpioSet data) := by
  intro selected buffers
  simp only [gpioSet, startOpcode, clearSendBuf, setSend, StateT.run_bind, StateT.run_modify,
    Monitor.guards_bind, Program.pure_def, Monitor.guards_done]
  refine guards_opcodeWrite rfl rfl ?_ fun _ _ free => free
  exact (gpio4OfCommand?_eq _).trans (if_pos rfl)

/-- The opcodes that the driver writes as literals. -/
def literalOpcodes : List UInt8 :=
  [0x01, 0x03, 0x05, 0x0B, 0x11, 0x23, 0x27, 0x37, 0x3E, 0x55, 0x56]

/-- The literal opcodes do not set the GPIOs. -/
theorem gpio4OfCommand?_literal {func : EntryFunc} {data : Int32} {sendBuf : Vector UInt8 33}
    {opcode : UInt8} (other : func ≠ .gpioSet) (literal : opcode ∈ literalOpcodes)
    (second : sendBuf.get 1 = opcode) :
    gpio4OfCommand? sendBuf.toList = gpio4? ⟨func, data⟩ := by
  have apart : sendBuf.get 1 ≠ DriverHeader.opcodeSetGpio := by
    rintro same
    exact DriverHeader.opcode_apart (same ▸ second ▸ literal)
  rw [gpio4OfCommand?_eq, if_neg apart, gpio4?, if_neg other]

/-- The commands that only consist of their opcode are written. -/
theorem plainOpcode_executes {func : EntryFunc} (data : Int32) {opcode : UInt8}
    (other : func ≠ .gpioSet) (literal : opcode ∈ literalOpcodes) :
    Executes func data (plainOpcode opcode) := by
  intro selected buffers
  simp only [plainOpcode, startOpcode, clearSendBuf, setSend, StateT.run_bind, StateT.run_modify,
    Monitor.guards_bind, Program.pure_def, Monitor.guards_done]
  exact guards_opcodeWrite rfl rfl (gpio4OfCommand?_literal other literal rfl) fun _ _ free => free

/-- `snk_pdo_request` writes its command. -/
theorem snkPdoRequest_executes (data : Int32) : Executes .snkPdoRequest data snkPdoRequest := by
  intro selected buffers
  simp only [snkPdoRequest, startOpcode, clearSendBuf, setSend, StateT.run_bind, StateT.run_modify,
    StateT.run_monadLift, monadLift_self, Monitor.guards_bind, Monitor.guards_act,
    Program.pure_def, Monitor.guards_done]
  refine ⟨fun _ => trivial, fun mtp => ?_⟩
  exact guards_opcodeWrite rfl rfl (gpio4OfCommand?_literal (by decide)
    (by decide : (0x3E : UInt8) ∈ literalOpcodes) rfl) fun _ _ free => free

/-- `customer_config_write` writes its command. -/
theorem customerConfigWrite_executes (data : Int32) :
    Executes .customerConfigWrite data customerConfigWrite := by
  intro selected buffers
  simp only [customerConfigWrite, startOpcode, clearSendBuf, setSend, StateT.run_bind,
    StateT.run_modify, StateT.run_monadLift, monadLift_self, Monitor.guards_bind,
    Monitor.guards_act, Program.pure_def, Monitor.guards_done]
  refine ⟨fun _ => trivial, fun _ => ?_⟩
  exact guards_opcodeWrite rfl rfl (gpio4OfCommand?_literal (by decide)
    (by decide : (0x56 : UInt8) ∈ literalOpcodes) rfl) fun _ _ free => free

/-! ## Handlers -/

/-- A function that starts and ends in no section, whatever it is answered. -/
def Settles {α : Type} (thread : Thread) (function : Driver α) : Prop :=
  ∀ (here : Local) (buffers : Buffers), here.duty = .free →
    (driver thread).Guards here (function.run buffers) fun final _ => final.duty = .free

/-- A log message leaves a thread where it stands. -/
theorem guards_log {format : String} {args : List LogArg} {post : Local → Unit → Prop}
    (holds : post here ()) : (driver thread).Guards here (rp2040Log format args) post :=
  ⟨fun _ => trivial, fun _ => holds⟩

/-- A thread that is free or has to turn VBUS off does so. -/
theorem guards_vbusTurnOff (duty : here.duty = .free ∨ here.duty = .turning .off) :
    (driver thread).Guards here vbusTurnOff fun final _ => final.duty = .free := by
  have fits : here.duty.due.Fits ⟨.gpioSet, gpioBoolToInt32 false true⟩ :=
    ⟨rfl, fun _ => by decide, fun high => absurd high (by decide)⟩
  refine guards_addAndPop ?_ fits rfl
  obtain free | turning := duty
  · exact .inl free
  · exact .inr (.inl ⟨_, turning⟩)

/-- A thread that has to turn VBUS on does so. -/
theorem guards_vbusTurnOn (duty : here.duty = .turning .on) :
    (driver thread).Guards here vbusTurnOn fun final _ => final.duty = .free := by
  have fits : here.duty.due.Fits ⟨.gpioSet, gpioBoolToInt32 true true⟩ := by
    rw [duty]
    exact ⟨rfl, fun off => Due.noConfusion off, fun _ => rfl⟩
  exact guards_addAndPop (.inr (.inl ⟨_, duty⟩)) fits rfl

/-- The CC state decides whether VBUS is turned off. -/
theorem guards_actOnCcStat {ccStat : UInt8}
    (duty : here.duty = if Unpowered ccStat then .turning .off else .free) :
    (driver thread).Guards here (actOnCcStat ccStat) fun final _ => final.duty = .free := by
  have powered (none : ccStat ≠ 0b000) (sink : ccStat ≠ 0b001) : here.duty = .free := by
    exact duty.trans (if_neg (not_or.mpr ⟨none, sink⟩))
  refine .branch (fun none => ?_) fun none => ?_
  · have off := duty.trans (if_pos (.inl none))
    exact Monitor.guards_bind.mpr (guards_log (guards_vbusTurnOff (.inr off)))
  refine .branch (fun sink => ?_) fun sink => ?_
  · have off := duty.trans (if_pos (.inr sink))
    exact Monitor.guards_bind.mpr (guards_log (guards_vbusTurnOff (.inr off)))
  exact .branch (fun _ => guards_log (powered none sink)) fun _ => guards_log (powered none sink)

/-- A message about a fault leaves a thread where it stands. -/
theorem guards_logFault {ccStatus1 bit : UInt8} {message : String} {post : Local → Unit → Prop}
    (holds : post here ()) : (driver thread).Guards here (logFault ccStatus1 bit message) post :=
  .branch (fun _ => guards_log holds) fun _ => holds

/-- `on_ccstat_change` turns VBUS off when nothing needs it. -/
theorem onCcstatChange_settles : Settles thread onCcstatChange := by
  intro here buffers free
  simp only [onCcstatChange, StateT.run_bind, StateT.run_monadLift, monadLift_self, run_returnByte,
    Monitor.guards_bind, Program.pure_def, Monitor.guards_done]
  refine ⟨fun _ => trivial, fun _ => guards_log ?_⟩
  refine guards_readRegisters (by decide) (fun _ => free) fun bytes final filled => ?_
  have byte : final.returnBuf[(0 : Fin 33)] = bytes.toList.headD 0 := by
    exact (congrArg (·[0]) filled).trans (first_byte (by decide) _ _)
  iterate 4 refine guards_log ?_
  refine (guards_actOnCcStat ?_).mono fun middle _ settled => ?_
  · have read : reading (some regCcStatus0) bytes.toList =
        .readCcStatus (bytes.toList.headD 0 &&& 0b00000111) := rfl
    rw [byte, read]
    exact congrArg (fun duty : Duty => duty.after (.readCcStatus _)) free
  · iterate 5 refine guards_logFault ?_
    exact settled

/-- After a function that ends in no section, functions that settle may follow. -/
theorem Settles.follows {α β : Type} {function : Driver α} {next : α → Driver β}
    (second : ∀ value, Settles thread (next value))
    (first : (driver thread).Guards here (function.run buffers) fun final _ => final.duty = .free) :
    (driver thread).Guards here ((function >>= next).run buffers)
      fun final _ => final.duty = .free := by
  rw [StateT.run_bind]
  exact Monitor.guards_bind.mpr (first.mono fun middle reached settled =>
    second reached.1 middle reached.2 settled)

/-- Functions that settle settle one after the other. -/
theorem Settles.bind {α β : Type} {function : Driver α} {next : α → Driver β}
    (first : Settles thread function) (second : ∀ value, Settles thread (next value)) :
    Settles thread (function >>= next) :=
  fun here buffers free => Settles.follows second (first here buffers free)

/-- Returning settles. -/
theorem Settles.pure {α : Type} (value : α) : Settles thread (pure value : Driver α) :=
  fun _ _ free => free

/-- Logging and marks settle. -/
theorem Settles.log (format : String) (args : List LogArg) :
    Settles thread (rp2040Log format args : Driver Unit) := by
  intro here buffers free
  exact ⟨fun _ => trivial, fun _ => free⟩

/-- A mark settles. -/
theorem Settles.enter (call : Call) : Settles thread (perform (.enter call) : Driver Unit) := by
  intro here buffers free
  exact ⟨fun _ => trivial, fun _ => free⟩

/-- `on_chgtype_change` only reports. -/
theorem onChgtypeChange_settles : Settles thread onChgtypeChange := by
  refine (Settles.enter _).bind fun _ => (Settles.log _ _).bind fun _ => Settles.bind ?_ fun _ => ?_
  · intro here buffers free
    exact guards_readRegisters (by decide) (fun _ => trivial) fun _ _ _ => free
  · exact fun here buffers free => ⟨fun _ => trivial, fun _ => free⟩

/-- `on_pd_msg_received` queues a function that is no command. -/
theorem onPdMsgReceived_settles : Settles thread onPdMsgReceived := by
  refine (Settles.enter _).bind fun _ => (Settles.log _ _).bind fun _ => ?_
  intro here buffers free
  simp only [StateT.run_monadLift, monadLift_self, Monitor.guards_bind, Program.pure_def,
    Monitor.guards_done]
  exact guards_callQueueTryAdd rfl free free

/-- A test of `parse_interrupt_vals` settles when its handler does. -/
theorem dispatch_settles {reg : Fin 33} {mask : UInt8} {handler : Driver Unit}
    {bit returnVal : UInt16} (settles : Settles thread handler) :
    Settles thread (dispatch reg mask handler bit returnVal) := by
  intro here buffers free
  simp only [dispatch, StateT.run_bind, run_returnByte, Monitor.guards_bind, Program.pure_def,
    Monitor.guards_done, Monitor.guards_run_ite, StateT.run_pure]
  split_ifs
  · exact settles here buffers free
  · exact free

/-- `on_opcode_cmd_response` reads and stores the response, and then moves the next command or
sets the flag. -/
theorem guards_onOpcodeCmdResponse (duty : here.duty = .noticed) :
    (driver .core1).Guards here ((onOpcodeCmdResponse : Driver Unit).run buffers) fun final _ =>
        final.duty = .free := by
  obtain ⟨selected, _⟩ := here
  subst duty
  simp only [onOpcodeCmdResponse, opcodeRead, clearSendBuf, setSend, StateT.run_bind,
    StateT.run_modify, StateT.run_monadLift, monadLift_self, Monitor.guards_bind,
    Program.pure_def, Monitor.guards_done]
  refine ⟨fun _ => trivial, fun _ => ?_⟩
  have plain : opcodeReadCommand ≠ opcodeWriteReg := by decide
  refine guards_writeSendBuf (fun same => plain (Option.some.inj same)) ?_
  refine guards_read (fun _ => ⟨rfl, rfl⟩) fun bytes => ?_
  refine ⟨fun _ => ⟨rfl, rfl⟩, fun _ => ⟨fun _ => trivial, fun _ => ?_⟩⟩
  refine guards_opcodeQueuePop_answered ?_ ?_
  · exact rfl
  · exact ⟨fun _ => ⟨rfl, rfl⟩, fun _ => rfl⟩

/-- `parse_interrupt_vals` handles a response that it noticed, and settles. -/
theorem parseInterruptVals_settles : Settles .core1 parseInterruptVals := by
  have marked (call : Call) (format : String) : Settles .core1 (do
      perform (.enter call)
      rp2040Log format [] : Driver Unit) :=
    (Settles.enter call).bind fun _ => Settles.log format []
  intro here buffers free
  unfold parseInterruptVals getInterruptVals
  rw [StateT.run_bind, Monitor.guards_bind]
  refine guards_readRegisters (by decide) (fun _ => .inl ⟨rfl, free⟩) fun bytes final filled => ?_
  have byte : final.returnBuf[0] = bytes.toList.headD 0 := by
    rw [filled, first_byte (by decide)]
  refine Settles.follows (fun _ => ?_) ?_
  · refine (dispatch_settles (Settles.log _ _)).bind fun _ =>
      (dispatch_settles onPdMsgReceived_settles).bind fun _ =>
      (dispatch_settles onChgtypeChange_settles).bind fun _ =>
      (dispatch_settles onCcstatChange_settles).bind fun _ =>
      (dispatch_settles (marked _ _)).bind fun _ =>
      (dispatch_settles (marked _ _)).bind fun _ =>
      (dispatch_settles (marked _ _)).bind fun _ => ?_
    split_ifs
    · exact fun here buffers free => ⟨fun _ => trivial, fun _ => free⟩
    · exact Settles.pure _
  · have stands : here.duty.after (reading (some regUicInt) bytes.toList) =
        if raises final.returnBuf[0] apCmdResIMask then .noticed else .free := by
      have read : reading (some regUicInt) bytes.toList =
          .readInterrupts (raises (bytes.toList.headD 0) apCmdResIMask) := rfl
      rw [byte, read, free]
      simp only [Duty.after, and_true]
    simp only [dispatch, StateT.run_bind, run_returnByte, Monitor.guards_bind, Program.pure_def,
      Monitor.guards_done, Monitor.guards_run_ite, StateT.run_pure]
    split_ifs with response
    · exact guards_onOpcodeCmdResponse (stands.trans (if_pos (decide_eq_true response)))
    · exact stands.trans (if_neg fun raised => response (of_decide_eq_true raised))

/-- The type of the PD message decides whether VBUS is switched. -/
theorem guards_actOnPdStatus {pdStatus0 : UInt8}
    (duty : here.duty = if pdStatus0 = DriverHeader.pdmsgPrswapSwaptosrc then .turning .on else
        .free) :
    (driver thread).Guards here (actOnPdStatus pdStatus0) fun final _ => final.duty = .free := by
  have apart := DriverHeader.pdmsg_distinct
  simp only [List.nodup_cons, List.mem_cons, List.not_mem_nil, or_false, not_or] at apart
  obtain ⟨⟨_, _, srctoswap, _⟩, ⟨_, swaptosnk, _⟩, ⟨snktoswap, _⟩, _⟩ := apart
  have req : logVdmReq.Within Op.Routine := ⟨trivial, fun _ => trivial⟩
  have ack : logVdmAck.Within Op.Routine := ⟨trivial, fun _ => req⟩
  have busy : logVdmBusy.Within Op.Routine := ⟨trivial, fun _ => ack⟩
  have nak : logVdmNak.Within Op.Routine := ⟨trivial, fun _ => busy⟩
  have calm (other : pdStatus0 ≠ DriverHeader.pdmsgPrswapSwaptosrc) : here.duty = .free :=
    duty.trans (if_neg other)
  refine .branch (fun first => guards_log (calm (first ▸ srctoswap))) fun _ => ?_
  refine .branch (fun second => ?_) fun _ => ?_
  · exact Monitor.guards_bind.mpr (guards_log (guards_vbusTurnOff
    (.inl (calm (second ▸ swaptosnk)))))
  refine .branch (fun third => guards_log (calm (third ▸ snktoswap))) fun _ => ?_
  refine .branch (fun source => ?_) fun other => ?_
  · exact Monitor.guards_bind.mpr (guards_log (guards_vbusTurnOn (duty.trans (if_pos source))))
  refine .branch (fun _ => ignores_routine.guards nak fun _ => calm other) fun _ => ?_
  refine .branch (fun _ => ignores_routine.guards busy fun _ => calm other) fun _ => ?_
  refine .branch (fun _ => ignores_routine.guards ack fun _ => calm other) fun _ => ?_
  refine .branch (fun _ => ignores_routine.guards req fun _ => calm other) fun _ => ?_
  exact guards_log (calm other)

/-- `pd_msg_response` turns VBUS off or on as the message asks. -/
theorem pdMsgResponse_settles : Settles thread pdMsgResponse := by
  intro here buffers free
  simp only [pdMsgResponse, StateT.run_bind, StateT.run_monadLift, monadLift_self, run_returnByte,
    Monitor.guards_bind, Program.pure_def, Monitor.guards_done]
  refine guards_readRegisters (by decide) (fun _ => free) fun bytes final filled => ?_
  have byte : final.returnBuf[(0 : Fin 33)] = bytes.toList.headD 0 := by
    exact (congrArg (·[0]) filled).trans (first_byte (by decide) _ _)
  have read : reading (some regPdStatus0) bytes.toList = .readPdStatus (bytes.toList.headD 0) := rfl
  refine guards_log ((guards_actOnPdStatus ?_).mono fun _ _ settled => settled)
  rw [byte, read]
  exact congrArg (fun duty : Duty => duty.after (.readPdStatus _)) free

end Deeds

end TypeC

end RobotFirmware
