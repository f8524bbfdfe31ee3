import RobotFirmware.Footprint

/-!
# What the driver sends for a command

The operations of the driver share one transfer buffer. A command fills it from the start, and
what is sent for the command is watched from the trace alone: 33 bytes that only depend on the
command, and then the two bytes that let the chip execute it.
-/

namespace RobotFirmware

open Interaction

namespace Max77958

/-- The functions that send a command. -/
inductive Command where
  | bcCtrl1Read
  | bcCtrl2Read
  | control1Read
  | ccCtrl1Read
  | ccCtrl4Read
  | gpioControlRead
  | gpio0Gpio1AdcRead
  | snkPdoRequest
  | customerConfigRead
  | customerConfigWrite
  | gpioSet (gpioVal : Int32)
  | powerSwapRequest
  | setSrcPdos
  | setSnkPdos

/-- The operations of the driver. -/
inductive Operation where
  | command (command : Command)
  | onOpcodeCmdResponse
  | onPdMsgReceived
  | onChgtypeChange
  | onCcstatChange
  | parseInterruptVals
  | pdMsgResponse
  | getInterruptVals
  | getInterruptMasks
  | setInterruptMasks
  | setInterruptMasksAllMasked
  | readReg (reg : UInt8)
  | readRegister (reg : UInt8)
  | testStatusBlockReadAll
  | testGetId
  | init

section Sending

variable [DriverHeader]

namespace Command

/-- The opcode of a command. -/
def opcode : Command → UInt8
  | .bcCtrl1Read => 0x01
  | .bcCtrl2Read => 0x03
  | .control1Read => 0x05
  | .ccCtrl1Read => 0x0B
  | .ccCtrl4Read => 0x11
  | .gpioControlRead => 0x23
  | .gpio0Gpio1AdcRead => 0x27
  | .snkPdoRequest => 0x3E
  | .customerConfigRead => 0x55
  | .customerConfigWrite => 0x56
  | .gpioSet _ => DriverHeader.opcodeSetGpio
  | .powerSwapRequest => 0x37
  | .setSrcPdos => DriverHeader.opcodeSetSourceCap
  | .setSnkPdos => DriverHeader.opcodeSnkPdoSet

/-- The parameters of a command. Only the sink request depends on `use_mtp_access`. -/
def params (mtpAccess : Bool) : Command → List UInt8
  | .snkPdoRequest => [if mtpAccess then 0x80 else 0x00]
  | .customerConfigWrite => [0x20, 0x6A, 0x0B, 0x60, 0x68, 0x00, 0x64, 0x00, 0x32, 0x00]
  | .gpioSet gpioVal => [0x00, gpioVal.toUInt32.toUInt8]
  | .powerSwapRequest => [0x02]
  | .setSrcPdos => [0x01, 0x2C, 0x90, 0x01, 0x26]
  | .setSnkPdos => [0x01, 0x2C, 0x91, 0x81, 0x26]
  | _ => []

/-- What is sent for a command: the register, the opcode, its parameters, and zeros. -/
def bytes (mtpAccess : Bool) (command : Command) : List UInt8 :=
  0x21 :: command.opcode :: command.params mtpAccess ++
    List.replicate (31 - (command.params mtpAccess).length) 0

/-- A call whose result is not used. -/
def unreturned (function : Driver Int32) : Driver Unit := do
  let _ ← function

/-- The function of a command. -/
def program : Command → Driver Unit
  | .bcCtrl1Read => unreturned Max77958.bcCtrl1Read
  | .bcCtrl2Read => unreturned Max77958.bcCtrl2Read
  | .control1Read => unreturned Max77958.control1Read
  | .ccCtrl1Read => unreturned Max77958.ccCtrl1Read
  | .ccCtrl4Read => unreturned Max77958.ccCtrl4Read
  | .gpioControlRead => unreturned Max77958.gpioControlRead
  | .gpio0Gpio1AdcRead => unreturned Max77958.gpio0Gpio1AdcRead
  | .snkPdoRequest => unreturned Max77958.snkPdoRequest
  | .customerConfigRead => unreturned Max77958.customerConfigRead
  | .customerConfigWrite => unreturned Max77958.customerConfigWrite
  | .gpioSet gpioVal => unreturned (Max77958.gpioSet gpioVal)
  | .powerSwapRequest => Max77958.powerSwapRequest
  | .setSrcPdos => unreturned Max77958.setSrcPdos
  | .setSnkPdos => unreturned Max77958.setSnkPdos

/-- It is 33 bytes long. -/
theorem bytes_length (mtpAccess : Bool) (command : Command) :
    (command.bytes mtpAccess).length = 33 := by
  cases command <;> rfl

end Command

/-- The function of an operation. -/
def Operation.program : Operation → Driver Unit
  | .command sent => sent.program
  | .onOpcodeCmdResponse => Max77958.onOpcodeCmdResponse
  | .onPdMsgReceived => Max77958.onPdMsgReceived
  | .onChgtypeChange => Max77958.onChgtypeChange
  | .onCcstatChange => Max77958.onCcstatChange
  | .parseInterruptVals => Command.unreturned Max77958.parseInterruptVals
  | .pdMsgResponse => Command.unreturned Max77958.pdMsgResponse
  | .getInterruptVals => Max77958.getInterruptVals
  | .getInterruptMasks => Max77958.getInterruptMasks
  | .setInterruptMasks => Max77958.setInterruptMasks
  | .setInterruptMasksAllMasked => Max77958.setInterruptMasksAllMasked
  | .readReg reg => Max77958.readReg reg
  | .readRegister reg => do let _ ← Max77958.readRegister reg
  | .testStatusBlockReadAll => Max77958.testStatusBlockReadAll
  | .testGetId => Max77958.testGetId
  | .init => Max77958.init

/-- The operations one after the other. -/
def inOrder : List Operation → Driver Unit
  | [] => pure ()
  | operation :: later => do
    operation.program
    inOrder later

/-! ## What is sent -/

/-- A write that belongs to a command. -/
inductive Sending where
  /-- The command itself. -/
  | command (command : Command)
  /-- The go-ahead after it. -/
  | go

/-- What is written. -/
def Sending.bytes (mtpAccess : Bool) : Sending → List UInt8
  | .command sent => sent.bytes mtpAccess
  | .go => [0x41, 0x00]

/-- The writes of an operation that belong to a command. -/
def Operation.sendings : Operation → List Sending
  | .command sent => [.command sent, .go]
  | _ => []

/-- What is still to be sent. -/
structure Transmission where
  /-- The value of `use_mtp_access` that was loaded last. -/
  mtpAccess : Bool
  /-- The writes to come. -/
  expected : List Sending

namespace Transmission

/-- A write has the length of a command or of a go-ahead. -/
def Framed (src : List UInt8) : Prop := src.length = 33 ∨ src.length = 2

instance (src : List UInt8) : Decidable (Framed src) := inferInstanceAs (Decidable (_ ∨ _))

/-- A write of these lengths has to be the next one expected. -/
def allows (transmission : Transmission) : Op → Prop
  | .i2cWriteTimeoutUs _ _ src _ => Framed src → ∃ sending later,
    transmission.expected = sending :: later ∧ src = sending.bytes transmission.mtpAccess
  | _ => True

/-- When it succeeds, the next one is due. -/
def next (transmission : Transmission) : (op : Op) → Ans op → Transmission
  | .i2cWriteTimeoutUs _ _ src _, (result : Int) =>
    if Framed src ∧ 0 ≤ result then { transmission with expected := transmission.expected.tail }
    else transmission
  | .load .useMtpAccess, (value : Bool) => { transmission with mtpAccess := value }
  | _, _ => transmission

end Transmission

/-- The writes that belong to commands are the ones expected, in their order. -/
abbrev transmitting : Monitor Ans where
  State := Transmission
  allows := Transmission.allows
  next := Transmission.next

/-- Routine operations send nothing. -/
theorem ignores_routine : transmitting.Ignores Op.Routine := by
  intro transmission op routine
  cases op <;> first | exact ⟨trivial, fun _ => rfl⟩ | exact routine.elim

/-- A write that is due is sent. -/
theorem guards_due {transmission : Transmission} {sending : Sending} {later : List Sending}
    {src : List UInt8} {nostop : Bool} (due : transmission.expected = sending :: later)
    (same : src = sending.bytes transmission.mtpAccess) :
    transmitting.Guards transmission (i2cWriteErrorHandling .i2c0 DriverHeader.slaveP1 src nostop)
      fun final _ => final = { transmission with expected := later } := by
  have framed : Transmission.Framed src := by
    cases sending with
    | command sent => exact .inl (same ▸ sent.bytes_length _)
    | go => exact .inr (same ▸ rfl)
  refine guards_i2cWriteErrorHandling ignores_routine (fun _ => ⟨sending, later, due, same⟩)
    (fun result negative => if_neg fun both => absurd both.2 (Int.not_le.mpr negative))
    fun result nonneg => ?_
  refine (if_pos ⟨framed, nonneg⟩).trans ?_
  rw [due, List.tail_cons]

/-- `opcode_write` sends the buffer and then the go-ahead. -/
theorem guards_opcodeWrite {transmission : Transmission} {sent : Command} {later : List Sending}
    {buffers : Buffers} (due : transmission.expected = .command sent :: .go :: later)
    (filled : buffers.sendBuf.toList = sent.bytes transmission.mtpAccess) :
    transmitting.Guards transmission ((opcodeWrite : Driver Unit).run buffers)
      fun final _ => final.expected = later := by
  have whole : buffers.sendBuf.toList.take 33 = sent.bytes transmission.mtpAccess := by
    rw [filled, List.take_of_length_le (Nat.le_of_eq (sent.bytes_length _))]
  have ahead (buf : Vector UInt8 33) :
      ((buf.set 0 0x41).set 1 0x00).toList.take 2 = Sending.go.bytes transmission.mtpAccess := by
    have length : buf.toList.length = 33 := buf.length_toList
    rw [Vector.toList_set, Vector.toList_set]
    generalize buf.toList = bytes at length
    rcases bytes with _ | ⟨_, _ | ⟨_, _⟩⟩
    · cases length
    · cases length
    · rfl
  have tail : transmitting.Guards transmission ((do
      writeSendBuf 33 false
      setSend 0 0
      setSend 1 0
      setSend 2 0
      setSend 3 0
      setSend 0 0x41
      setSend 1 0x00
      writeSendBuf 2 false : Driver Unit).run buffers) fun final _ => final.expected = later := by
    simp only [writeSendBuf, setSend, StateT.run_bind, StateT.run_get, StateT.run_modify,
      StateT.run_monadLift, monadLift_self, Monitor.guards_bind, Program.pure_def,
      Monitor.guards_done]
    refine (guards_due due whole).mono fun (middle : Transmission) _ moved => ?_
    have next : middle.expected = .go :: later := moved ▸ rfl
    have same : middle.mtpAccess = transmission.mtpAccess := moved ▸ rfl
    exact (guards_due next (same ▸ ahead _)).mono fun final _ ended =>
      congrArg Transmission.expected ended
  change transmitting.Guards transmission
    (StateT.run (if buffers.sendBuf[0] ≠ 0x21 then _ else _) buffers) _
  rw [Monitor.guards_run_ite]
  split
  · exact ⟨trivial, fun _ => tail⟩
  · exact tail

/-- A command sends its own bytes, whatever the buffers held. -/
theorem guards_command {transmission : Transmission} {later : List Sending} (sent : Command)
    (buffers : Buffers) (due : transmission.expected = .command sent :: .go :: later) :
    transmitting.Guards transmission (sent.program.run buffers)
      fun final _ => final.expected = later := by
  cases sent <;>
    simp only [Command.program, Command.unreturned, bcCtrl1Read, bcCtrl2Read, control1Read,
      ccCtrl1Read, ccCtrl4Read, gpioControlRead, gpio0Gpio1AdcRead, customerConfigRead, plainOpcode,
      snkPdoRequest, customerConfigWrite, gpioSet, powerSwapRequest, setSrcPdos, setSnkPdos,
      startOpcode, clearSendBuf, setSend, StateT.run_bind, StateT.run_modify, StateT.run_pure,
      StateT.run_monadLift, monadLift_self, Monitor.guards_bind, Program.pure_def,
      Monitor.guards_done]
  case snkPdoRequest =>
    refine ⟨trivial, fun (mtpAccess : Bool) => ?_⟩
    exact guards_opcodeWrite due rfl
  case customerConfigWrite => exact ⟨trivial, fun _ => guards_opcodeWrite due rfl⟩
  all_goals exact guards_opcodeWrite due rfl

/-- Operations other than the writes of a command. -/
def Unframed : Op → Prop
  | .i2cWriteTimeoutUs _ _ src _ => ¬ Transmission.Framed src
  | _ => True

/-- Operations that send no command have other lengths. -/
theorem unframed_of_commandless (op : Op) (commandless : Commandless op) : Unframed op := by
  cases op <;> first
    | exact trivial
    | exact fun framed => framed.elim commandless.2.1 commandless.2.2

/-- They send nothing that is expected. -/
theorem guards_unframed {α : Type} {function : Driver α} (inside : StatefulWithin Unframed function)
    (transmission : Transmission) (buffers : Buffers) :
    transmitting.Guards transmission (function.run buffers)
      fun final _ => final.expected = transmission.expected := by
  refine Monitor.guards_of_within (inside buffers)
    (fun (reached : Transmission) op unframed same => ?_) rfl
  cases op <;> try exact ⟨trivial, fun _ => same⟩
  case i2cWriteTimeoutUs i2c addr src nostop =>
    exact ⟨fun framed => absurd framed unframed, fun (result : Int) =>
      (congrArg Transmission.expected (if_neg fun both => unframed both.1)).trans same⟩
  case load flag => cases flag <;> exact ⟨trivial, fun _ => same⟩

/-- So do the functions of the driver that send none. -/
theorem unframed {α : Type} {function : Driver α} (inside : StatefulWithin Commandless function) :
    StatefulWithin Unframed function := inside.mono unframed_of_commandless

/-- Initialising configures the pin as well. -/
theorem init_within : StatefulWithin Unframed (init : Driver Unit) := by
  refine .bind (unframed (queues_within (log_within _ _))) fun _ =>
    .bind (.lift (.act trivial)) fun _ => .bind (unframed (testGetId_within inspects_commandless))
      fun _ =>
    .bind (unframed (setInterruptMasks_within inspects_commandless)) fun _ => ?_
  iterate 5 refine .bind (.lift (.act trivial)) fun _ => ?_
  refine .bind (unframed (readRegisters_within reads_commandless _ _)) fun _ => ?_
  iterate 3 refine .bind (unframed (queues_within (opcodeQueueAdd_within _ _))) fun _ => ?_
  refine .bind (.lift (opcodeQueuePop_within.mono fun op queueing =>
    unframed_of_commandless op (queueing_commandless op queueing))) fun _ => ?_
  exact .bind (unframed (queues_within (log_within _ _))) fun _ => unframed onCcstatChange_within

/-- An operation sends what is expected of it. -/
theorem guards_operation {transmission : Transmission} {later : List Sending}
    (operation : Operation) (buffers : Buffers)
    (due : transmission.expected = operation.sendings ++ later) :
    transmitting.Guards transmission (operation.program.run buffers)
      fun final _ => final.expected = later := by
  have silent {function : Driver Unit} (nothing : transmission.expected = later)
      (inside : StatefulWithin Unframed function) :
      transmitting.Guards transmission (function.run buffers) fun final _ => final.expected =
        later :=
    nothing ▸ guards_unframed inside transmission buffers
  have result {α : Type} {function : Driver α} (inside : StatefulWithin Commandless function) :
      StatefulWithin Unframed (do let _ ← function : Driver Unit) :=
    .bind (unframed inside) fun _ => .pure _
  cases operation with
  | command sent => exact guards_command sent buffers due
  | onOpcodeCmdResponse => exact silent due (unframed onOpcodeCmdResponse_within)
  | onPdMsgReceived => exact silent due (unframed onPdMsgReceived_within)
  | onChgtypeChange => exact silent due (unframed onChgtypeChange_within)
  | onCcstatChange => exact silent due (unframed onCcstatChange_within)
  | parseInterruptVals => exact silent due (result parseInterruptVals_within)
  | pdMsgResponse => exact silent due (result pdMsgResponse_within)
  | getInterruptVals => exact silent due (unframed (readRegisters_within reads_commandless _ _))
  | getInterruptMasks => exact silent due (unframed (readRegisters_within reads_commandless _ _))
  | setInterruptMasks => exact silent due (unframed (setInterruptMasks_within inspects_commandless))
  | setInterruptMasksAllMasked => exact silent due (unframed
    (setInterruptMasksAllMasked_within inspects_commandless))
  | readReg reg => exact silent due (unframed (readReg_within inspects_commandless reg))
  | readRegister reg => exact silent due (result (readRegister_within inspects_commandless reg))
  | testStatusBlockReadAll => exact silent due (unframed
    (testStatusBlockReadAll_within inspects_commandless))
  | testGetId => exact silent due (unframed (testGetId_within inspects_commandless))
  | init => exact silent due init_within

/-- Operations one after the other send what is expected of each. -/
theorem guards_inOrder (operations : List Operation) {transmission : Transmission}
    (buffers : Buffers) (due : transmission.expected = operations.flatMap Operation.sendings) :
    transmitting.Guards transmission ((inOrder operations).run buffers)
      fun final _ => final.expected = [] := by
  induction operations generalizing transmission buffers with
  | nil => exact due
  | cons operation operations ih =>
    exact Monitor.guards_bind.mpr ((guards_operation operation buffers due).mono
      fun _ reached due => ih reached.2 due)

/-- Whatever the buffers held at first, the writes of a sequence of operations that have the length
of a command or of a go-ahead are those of its commands: each command is sent as its own 33 bytes,
which only for the sink request depend on `use_mtp_access`, followed by its go-ahead. -/
theorem no_stale_bytes (operations : List Operation) (buffers : Buffers) (mtpAccess : Bool)
    {trace : List (Event Ans)} {rest : Firmware (Unit × Buffers)}
    (run : ((inOrder operations).run buffers).Runs trace rest) :
    transmitting.Accepts ⟨mtpAccess, operations.flatMap Operation.sendings⟩ trace ∧
      (rest.isDone = true →
        (transmitting.after ⟨mtpAccess, operations.flatMap Operation.sendings⟩ trace).expected =
            []) := by
  have guards : transmitting.Guards ⟨mtpAccess, operations.flatMap Operation.sendings⟩
      ((inOrder operations).run buffers) fun final _ => final.expected = [] :=
    guards_inOrder operations buffers rfl
  refine ⟨(guards.run run).1, fun returned => ?_⟩
  rw [Program.eq_done_valueD returned ((), buffers)] at run
  exact guards.ends run

end Sending

/-- A chip that acknowledges every transfer, while `use_mtp_access` is set. -/
def acknowledging : Unit → (op : Op) → Option (Ans op × Unit)
  | _, .rp2040Log .. => some ((), ())
  | _, .cexceptionTry => some ((), ())
  | _, .i2cWriteTimeoutUs .. => some ((0 : Int), ())
  | _, .i2cReadTimeoutUs _ _ len _ => some ((0, .replicate len 0xFF), ())
  | _, .load _ => some (true, ())
  | _, _ => none

/-- A status read and then a sink request. -/
def request : List Operation := [.readReg 0x0C, .command .snkPdoRequest]

/-- Both, from buffers full of other bytes. -/
def requested : List (Event Ans) × Firmware (Unit × Buffers) × Unit :=
  let _ := sampleHeader
  ((inOrder request).run ⟨.replicate 33 0xFF, .replicate 33 0xFF⟩).drive acknowledging ()

/-- The sink request is sent without a byte of the status read. -/
theorem no_stale_bytes_request :
    let _ := sampleHeader
    requested.2.1.isDone = true ∧
      transmitting.Accepts ⟨false, request.flatMap Operation.sendings⟩ requested.1 := by
  let _ := sampleHeader
  exact ⟨by decide, (no_stale_bytes request _ false (Program.drive_runs acknowledging () _)).1⟩

end Max77958

end RobotFirmware
