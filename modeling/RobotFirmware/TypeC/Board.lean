import RobotFirmware.Interaction.System
import RobotFirmware.TypeC.InterruptDispatch

/-!
# The opcode pipeline

Commands to the MAX77958 are added to the opcode queue, moved one by one to the call queue,
executed by core 1, and answered by the chip with an interrupt, whose handler reads the
response and moves the next command. Core 0 runs `max77958_init`, the opcode tests and
`max77958_shutdown`, and is interrupted by the GPIO handler; core 1 runs what the call queue
holds. The threads interleave at every operation. Here every thread has the driver's static
buffers and the register pointer of the chip for itself; the firmware shares them, and its runs
without overlapping uses are runs of this pipeline.

Each operation on the queues, the flag and the chip is decoded into a deed. Every thread has a
duty, which follows from its own deeds and says where in a section of the driver it stands.
The lists of added, executed, written and answered commands only record what happened.
-/

namespace RobotFirmware

open Interaction Max77958

namespace TypeC

/-- The capacity that `init_queues` gives to `call_queue`. -/
def callQueueCapacity : Nat := 256

/-- The threads that use the pipeline. -/
inductive Thread where
  /-- Core 0 outside interrupts. -/
  | core0
  /-- The GPIO interrupt handler on core 0. -/
  | interrupt
  /-- The loop in `core1_entry`. -/
  | core1
  deriving DecidableEq

/-! ## Levels of VBUS -/

/-- The bit of GPIO4, which drives VBUS, in the data of `gpio_set`. -/
def gpio4Mask : UInt8 := (1 : UInt8) <<< 1

/-- The level that a queued command gives to GPIO4. -/
def gpio4? (entry : QueueEntry) : Option Bool :=
  if entry.func = .gpioSet then some (raises entry.data.toUInt32.toUInt8 gpio4Mask) else none

/-- The level that the bytes of a command give to GPIO4. -/
def gpio4OfCommand? [DriverHeader] : List UInt8 → Option Bool
  | _ :: opcode :: _ :: value :: _ =>
    if opcode = DriverHeader.opcodeSetGpio then some (raises value gpio4Mask) else none
  | _ => none

/-- A CC state with nothing that needs VBUS: no connection, or sink. -/
def Unpowered (ccStat : UInt8) : Prop := ccStat = 0b000 ∨ ccStat = 0b001

instance (ccStat : UInt8) : Decidable (Unpowered ccStat) := inferInstanceAs (Decidable (_ ∨ _))

/-! ## Deeds -/

/-- What an operation means to the pipeline. -/
inductive Deed where
  /-- Nothing. -/
  | other
  /-- A register of the chip is selected. -/
  | select (reg : Option UInt8)
  /-- A command is written to the chip. -/
  | command (src : List UInt8)
  /-- The interrupt registers are read, and with them whether a response is pending. -/
  | readInterrupts (response : Bool)
  /-- The response to a command is read. -/
  | readResponse (bytes : List UInt8)
  /-- The CC state is read. -/
  | readCcStatus (ccStat : UInt8)
  /-- The type of the PD message is read. -/
  | readPdStatus (pdStatus0 : UInt8)
  /-- An entry is offered to the call queue. -/
  | queue (entry : QueueEntry) (added : Bool)
  /-- A command is offered to the opcode queue. -/
  | addOpcode (entry : QueueEntry) (added : Bool)
  /-- A command is asked from the opcode queue. -/
  | removeOpcode (removed : Option QueueEntry)
  /-- `opcodes_finished` is assigned. -/
  | setFinished (value : Bool)
  /-- `opcodes_finished` is read. -/
  | seeFinished (value : Bool)
  /-- `op_code_return_buf` is filled. -/
  | storeResponse (bytes : List UInt8)
  /-- `core1_shutdown_requested` is assigned. -/
  | requestShutdown (value : Bool)
  /-- `opcode_queue` is made empty. -/
  | resetQueue

/-- What reading bytes from a register on means. -/
def reading (selected : Option UInt8) (bytes : List UInt8) : Deed :=
  if selected = some regUicInt then .readInterrupts (raises (bytes.headD 0) apCmdResIMask)
  else if selected = some opcodeReadCommand then .readResponse bytes
  else if selected = some regCcStatus0 then .readCcStatus (bytes.headD 0 &&& 0b00000111)
  else if selected = some regPdStatus0 then .readPdStatus (bytes.headD 0)
  else .other

/-- What an answered operation means, by the register that its thread has selected. -/
def deed [DriverHeader] (selected : Option UInt8) : (op : Op) → Ans op → Deed
  | .i2cWriteTimeoutUs .i2c0 addr src _, result =>
    if addr = DriverHeader.slaveP1 ∧ 0 ≤ result then
      if src.head? = some opcodeWriteReg then .command src else .select src.head?
    else .other
  | .i2cReadTimeoutUs .i2c0 addr _ _, (result, bytes) =>
    if addr = DriverHeader.slaveP1 ∧ 0 ≤ result then reading selected bytes.toList else .other
  | .callQueueTryAdd entry, added => .queue entry added
  | .opcodeQueueTryAdd entry, added => .addOpcode entry added
  | .opcodeQueueTryRemove, removed => .removeOpcode removed
  | .opcodeQueueInit, _ => .resetQueue
  | .store .opcodesFinished value, _ => .setFinished value
  | .store .core1ShutdownRequested value, _ => .requestShutdown value
  | .load .opcodesFinished, value => .seeFinished value
  | .await .opcodesFinished, _ => .seeFinished true
  | .storeOpCodeReturnBuf bytes, _ => .storeResponse bytes.toList
  | _, _ => .other

/-! ## Duties -/

/-- Why a command is about to be added. -/
inductive Due where
  /-- VBUS is to be turned off, for nothing needs it. -/
  | off
  /-- VBUS is to be turned on, for the port becomes the source. -/
  | on
  /-- Anything else. -/
  | other
  deriving DecidableEq

/-- Where a thread stands in a section of the driver. -/
inductive Duty where
  /-- In no section. -/
  | free
  /-- Core 0 in `max77958_init` before its first command. -/
  | starting
  /-- A status read asks for a change of VBUS. -/
  | turning (due : Due)
  /-- `opcode_queue_add` has cleared the flag. -/
  | cleared (due : Due)
  /-- `opcode_queue_add` has added a command. -/
  | added
  /-- `opcode_queue_pop` has removed a command; the response handler is answering. -/
  | holding (entry : QueueEntry) (answering : Bool)
  /-- Core 1 is about to write a command. -/
  | executing (entry : QueueEntry)
  /-- The interrupt registers showed a response. -/
  | noticed
  /-- `opcode_read` has read a response. -/
  | replied (response : List UInt8)
  /-- `opcode_read` has stored the response. -/
  | answered
  /-- The response handler found no further command. -/
  | finishing
  deriving DecidableEq

/-- The reason for which a thread with the given duty adds a command. -/
def Duty.due : Duty → Due
  | .turning due => due
  | _ => .other

/-- The duty after a failed or empty `opcode_queue_pop`. -/
def popFailed (answering : Bool) : Duty := if answering then .finishing else .free

/-- The duty after a deed. -/
def Duty.after [DriverHeader] (duty : Duty) : Deed → Duty
  | .command _ => .free
  | .readInterrupts response => if response ∧ duty = .free then .noticed else duty
  | .readResponse bytes => .replied bytes
  | .readCcStatus ccStat => if Unpowered ccStat then .turning .off else duty
  | .readPdStatus pdStatus0 =>
    if pdStatus0 = DriverHeader.pdmsgPrswapSwaptosrc then .turning .on else duty
  | .queue _ success =>
    match duty with
    | .holding _ answering => if success then .free else popFailed answering
    | _ => duty
  | .addOpcode _ success => if success then .added else duty
  | .removeOpcode (some entry) => .holding entry (duty = Duty.answered)
  | .removeOpcode none => popFailed (duty = Duty.answered)
  | .setFinished false => .cleared duty.due
  | .setFinished true => .free
  | .storeResponse _ => .answered
  | _ => duty

/-- What a thread knows of itself. -/
structure Local where
  /-- The register that its next read starts from. -/
  selected : Option UInt8
  /-- Where it stands. -/
  duty : Duty
  deriving DecidableEq

/-- A thread that has done nothing yet. -/
def Local.idle : Local := ⟨none, .free⟩

/-- The selected register after a deed. -/
def Deed.selects (selected : Option UInt8) : Deed → Option UInt8
  | .select reg => reg
  | _ => selected

/-- The state of a thread after an operation. -/
def Local.next [DriverHeader] (here : Local) (op : Op) (answer : Ans op) : Local where
  selected := (deed here.selected op answer).selects here.selected
  duty := here.duty.after (deed here.selected op answer)

/-! ## The board -/

/-- What the threads and the chip share, and what has happened. -/
structure Board where
  /-- `call_queue`. -/
  callQueue : List QueueEntry
  /-- `opcode_queue`. -/
  opcodeQueue : List QueueEntry
  /-- `opcodes_finished`. -/
  opcodesFinished : Bool
  /-- `op_code_return_buf`. -/
  opCodeReturnBuf : List UInt8
  /-- `core1_shutdown_requested`. -/
  core1ShutdownRequested : Bool
  /-- The commands that the chip has not answered yet. -/
  pending : List QueueEntry
  /-- The number of answers that have not been read. -/
  unread : Nat
  /-- The response registers of the chip. -/
  response : List UInt8
  /-- The interrupt bit of a response. -/
  apCmdResI : Bool
  /-- The type of the last PD message. -/
  pdStatus0 : UInt8
  /-- Core 0. -/
  core0 : Local
  /-- Core 1. -/
  core1 : Local
  /-- The commands added to the opcode queue. -/
  added : List QueueEntry
  /-- The commands that core 1 took from the call queue. -/
  executed : List QueueEntry
  /-- The commands written to the chip. -/
  written : List QueueEntry
  /-- The commands that the chip answered, with its answers. -/
  answers : List (QueueEntry × List UInt8)
  /-- The last CC state read by `on_ccstat_change`. -/
  ccStat : Option UInt8
  /-- Whether a swap to source arrived after it. -/
  swapSince : Bool
  /-- The level of GPIO4 in the last `gpio_set` written to the chip. -/
  gpio4 : Option Bool
  deriving DecidableEq

namespace Board

variable [DriverHeader]

/-- The board after `queue_init`, with the entries of other devices in the call queue. -/
def start (callQueue : List QueueEntry) (pdStatus0 : UInt8) : Board where
  callQueue := callQueue
  opcodeQueue := []
  opcodesFinished := false
  opCodeReturnBuf := List.replicate 33 0
  core1ShutdownRequested := false
  pending := []
  unread := 0
  response := List.replicate 33 0
  apCmdResI := false
  pdStatus0 := pdStatus0
  core0 := ⟨none, .starting⟩
  core1 := .idle
  added := []
  executed := []
  written := []
  answers := []
  ccStat := none
  swapSince := false
  gpio4 := none

/-- What is known of a thread. -/
def here (board : Board) : Thread → Local
  | .core0 => board.core0
  | .interrupt => .idle
  | .core1 => board.core1

/-- A thread moves. The interrupt handler is always idle where it stands. -/
def moved (board : Board) (thread : Thread) (here : Local) : Board :=
  { board with
    core0 := if thread = .core0 then here else board.core0
    core1 := if thread = .core1 then here else board.core1 }

/-- The board after a deed of a thread with the given duty, if the deed is possible. A command
belongs to the entry that the thread is executing. -/
def act (board : Board) (duty : Duty) : Deed → Option Board
  | .command src =>
    let board := { board with gpio4 := gpio4OfCommand? src <|> board.gpio4 }
    match duty with
    | .executing entry => some { board with
        written := board.written ++ [entry], pending := board.pending ++ [entry] }
    | _ => some board
  | .readInterrupts response =>
    if response = board.apCmdResI then some { board with apCmdResI := false } else none
  | .readResponse bytes =>
    if bytes = board.response then some { board with unread := board.unread - 1 } else none
  | .readCcStatus ccStat => some { board with ccStat := some ccStat, swapSince := false }
  | .readPdStatus pdStatus0 => if pdStatus0 = board.pdStatus0 then some board else none
  | .queue entry added =>
    if added = decide (board.callQueue.length < callQueueCapacity) then
      some (if added then { board with callQueue := board.callQueue ++ [entry] } else board)
    else none
  | .addOpcode entry added =>
    if added = decide (board.opcodeQueue.length < opcodeQueueCapacity) then
      some (if added then { board with
        opcodeQueue := board.opcodeQueue ++ [entry], added := board.added ++ [entry] } else board)
    else none
  | .removeOpcode removed =>
    if removed = board.opcodeQueue.head? then
      some { board with opcodeQueue := board.opcodeQueue.tail }
    else none
  | .resetQueue => some { board with opcodeQueue := [] }
  | .setFinished value => some { board with opcodesFinished := value }
  | .seeFinished value => if value = board.opcodesFinished then some board else none
  | .storeResponse bytes => some { board with opCodeReturnBuf := bytes }
  | .requestShutdown value => some { board with core1ShutdownRequested := value }
  | .other => some board
  | .select _ => some board

/-- The board after an answered operation of a thread, if the answer is possible. -/
def exec (thread : Thread) (board : Board) (op : Op) (answer : Ans op) : Option Board :=
  (board.act (board.here thread).duty (deed (board.here thread).selected op answer)).map
      fun after =>
    after.moved thread ((board.here thread).next op answer)

/-- Core 1 takes the first entry of the call queue. -/
def dequeue (board : Board) (entry : QueueEntry) (rest : List QueueEntry) : Board :=
  if entry.func.isOpcode then
    { board with
      callQueue := rest
      executed := board.executed ++ [entry]
      core1 := { board.core1 with duty := .executing entry } }
  else { board with callQueue := rest }

/-- The commands that the opcode tests add. -/
def testedOpcodes : List EntryFunc :=
  [.bcCtrl1Read, .bcCtrl2Read, .control1Read, .ccCtrl1Read, .ccCtrl4Read, .gpioControlRead,
    .gpio0Gpio1AdcRead, .snkPdoRequest, .customerConfigRead]

/-- An idle thread starts a program. -/
def launch (thread : Thread) (board : Board) (program : Firmware Unit) (after : Board) : Prop :=
  match thread with
  | .core0 =>
    after = board ∧ (program = shutdown ∨ ∃ func ∈ testedOpcodes, program = runOpcode func 0)
  | .interrupt =>
    after = board ∧ ∃ gpio eventMask, program = robotInterruptHandler gpio eventMask
  | .core1 =>
    board.core1ShutdownRequested = false ∧ ∃ (entry : QueueEntry) (rest : List QueueEntry)
      (buffers : Buffers), board.callQueue = entry :: rest ∧ after = board.dequeue entry rest ∧
        program = entry.call buffers >>= fun _ => .done ()

/-- The chip moves by itself. -/
inductive Drift (board : Board) : Board → Prop where
  /-- It answers the oldest command and raises one interrupt. -/
  | answer {entry : QueueEntry} {rest : List QueueEntry} (response : List UInt8)
      (pending : board.pending = entry :: rest) :
      Drift board { board with
        pending := rest
        answers := board.answers ++ [(entry, response)]
        response := response
        unread := board.unread + 1
        apCmdResI := true }
  /-- A PD message arrives. -/
  | message (pdStatus0 : UInt8) :
      Drift board { board with
        pdStatus0 := pdStatus0
        swapSince := board.swapSince || pdStatus0 = DriverHeader.pdmsgPrswapSwaptosrc }

end Board

section System

variable [DriverHeader]

/-- The threads over the board. -/
def pipeline : System Ans where
  Thread := Thread
  decEq := inferInstance
  Shared := Board
  preempts first second := first = .interrupt ∧ second = .core0
  exec := Board.exec
  launch := Board.launch
  drift := Board.Drift

/-- A condition on the deeds of a run, each with the board before it and its thread. -/
abbrev During (meets : Board → Thread → Deed → Prop) : pipeline.Shared → pipeline.Action → Prop
  | (board : Board), .perform (thread : Thread) op answer =>
    meets board thread (deed (board.here thread).selected op answer)
  | _, _ => True

/-- `max77958_init` has just called `queue_init`. -/
def started (buffers : Buffers) (callQueue : List QueueEntry) (pdStatus0 : UInt8) :
    pipeline.Config where
  shared := Board.start callQueue pdStatus0
  programs
    | .core0 => (initDevice : Driver Unit).run buffers >>= fun _ => .done ()
    | .interrupt => .done ()
    | .core1 => .done ()

end System

end TypeC

end RobotFirmware
