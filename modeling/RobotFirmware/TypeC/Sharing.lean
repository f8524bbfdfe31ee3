import RobotFirmware.TypeC.SharedBuffers
import RobotFirmware.TypeC.Turns

/-!
# The opcode pipeline on shared buffers

The cores share `send_buf`, `return_buf` and the register that the chip reads from next. Every
access to them is a step of its own, so the other core can come between the stores of a command
and its transfer, or between a transfer and the tests of what it brought. On core 0 the pipeline
takes turns with functions that only inspect the chip through the same buffers.

A run is undisturbed when no core reads a buffer or the chip after the other core has interfered
with its use. What the users of the buffers are is recorded for this condition only: nothing in
the code looks at it. The undisturbed runs are those of the pipeline in which every core has
buffers of its own, so that invariants carry over.
-/

namespace RobotFirmware

open Interaction Max77958

namespace TypeC

/-- Who uses the driver. -/
inductive User where
  /-- A thread of the pipeline. -/
  | runs (thread : Thread)
  /-- Core 0 in a function that only inspects the chip. -/
  | inspects
  deriving DecidableEq

/-- The thread of the pipeline. -/
def User.thread? : User → Option Thread
  | .runs thread => some thread
  | .inspects => none

/-- The board with what the cores share in the driver. -/
structure SharedBoard where
  /-- The queues, the flags and the chip. -/
  board : Board
  /-- `send_buf` and `return_buf`. -/
  buffers : Buffers
  /-- The register that the chip reads from next. -/
  pointer : Option UInt8
  /-- Who cleared `send_buf` last, if nobody else has stored in it since. -/
  sendUser : Option User
  /-- Who cleared `return_buf` last, if nobody else has read into it since. -/
  returnUser : Option User
  /-- Who selected the register. -/
  pointerUser : Option User

/-- Who has a buffer for itself after a store. -/
def stored (user : User) (held : Option User) : Option User :=
  if held = some user then held else none

section Operations

variable [DriverHeader]

/-- The operation of the platform that an access amounts to, with its answer. -/
def transferred (buffers : Buffers) : (op : DriverOp) → DriverAns op → Option (Event Ans)
  | .platform op, answer => some ⟨op, answer⟩
  | .writeSendBuf len nostop, (result : Int) =>
    some ⟨.i2cWriteTimeoutUs .i2c0 DriverHeader.slaveP1 (buffers.sendBuf.toList.take len) nostop,
      result⟩
  | .readReturnBuf len, answer =>
    some ⟨.i2cReadTimeoutUs .i2c0 DriverHeader.slaveP1 len false, answer⟩
  | _, _ => none

/-- Whether the answer to an access is what the buffer holds. -/
def holds (buffers : Buffers) : (op : DriverOp) → DriverAns op → Bool
  | .sendByte index, (byte : UInt8) => decide (byte = buffers.sendBuf.get index)
  | .returnByte index, (byte : UInt8) => decide (byte = buffers.returnBuf.get index)
  | _, _ => true

/-- Whether an operation reads from the chip. -/
def readsChip : Op → Bool
  | .i2cReadTimeoutUs .i2c0 addr _ _ => decide (addr = DriverHeader.slaveP1)
  | _ => false

/-- Whether an access depends on what `send_buf` holds. -/
def usesSend : DriverOp → Bool
  | .sendByte _ => true
  | .writeSendBuf .. => true
  | _ => false

/-- Whether an access depends on what `return_buf` holds. -/
def usesReturn : DriverOp → Bool
  | .returnByte _ => true
  | _ => false

/-- Whether an access depends on the register that the chip reads from. -/
def usesPointer : DriverOp → Bool
  | .platform op => readsChip op
  | .readReturnBuf _ => true
  | _ => false

/-- Who has `send_buf` for itself after an access. -/
def sendUserAfter (user : User) (held : Option User) : DriverOp → Option User
  | .clearSendBuf => some user
  | .setSend .. => stored user held
  | _ => held

/-- Who has `return_buf` for itself after an access. An attempt that fails may leave bytes. -/
def returnUserAfter (user : User) (held : Option User) : DriverOp → Option User
  | .clearReturnBuf => some user
  | .readReturnBuf _ => stored user held
  | _ => held

namespace SharedBoard

/-- The register pointer of the chip after a deed. A command leaves it to nobody. -/
def pointed (shared : SharedBoard) (user : User) : Deed → SharedBoard
  | .select reg => { shared with pointer := reg, pointerUser := some user }
  | .command src => { shared with pointer := src.head?, pointerUser := none }
  | _ => shared

/-- The board on which an operation of a thread is performed. What it reads comes from the
register that the chip has been told last, by whomever. -/
def aimed (shared : SharedBoard) (thread : Thread) (op : Op) : Board :=
  if readsChip op then
    shared.board.moved thread { shared.board.here thread with selected := shared.pointer }
  else shared.board

/-- The shared board after an answered operation of the platform, if the answer is possible. An
inspection changes nothing but the register pointer. -/
def operated (shared : SharedBoard) (user : User) (event : Event Ans) : Option SharedBoard :=
  match user with
  | .runs thread =>
    ((shared.aimed thread event.op).exec thread event.op event.answer).map fun after =>
      { shared.pointed user (deed none event.op event.answer) with board := after }
  | .inspects => some (shared.pointed user (deed none event.op event.answer))

/-- The buffers after an access, and who uses them. -/
def accessed (shared : SharedBoard) (user : User) (op : DriverOp) (answer : DriverAns op) :
    SharedBoard :=
  { shared with
    buffers := shared.buffers.after op answer
    sendUser := sendUserAfter user shared.sendUser op
    returnUser := returnUserAfter user shared.returnUser op }

/-- The shared board after an answered access, if the answer is possible. -/
def exec (user : User) (shared : SharedBoard) (op : DriverOp) (answer : DriverAns op) :
    Option SharedBoard :=
  if holds shared.buffers op answer then
    match transferred shared.buffers op answer with
    | some event => (shared.operated user event).map fun after => after.accessed user op answer
    | none => some (shared.accessed user op answer)
  else none

/-- The functions that core 0 runs next to the pipeline and that only inspect the chip or set its
interrupt masks. -/
def inspections : List (Sharing Unit) :=
  [testGetId, testStatusBlockReadAll, setInterruptMasks, setInterruptMasksAllMasked,
    readReg 0x9, readReg 0xA, readReg 0xD]

/-- An idle user starts a program. -/
def launch (user : User) (shared : SharedBoard) (program : Sharing Unit) (after : SharedBoard) :
    Prop :=
  match user with
  | .runs .core1 =>
    shared.board.core1ShutdownRequested = false ∧
      ∃ (entry : QueueEntry) (rest : List QueueEntry), shared.board.callQueue = entry :: rest ∧
        after = { shared with board := shared.board.dequeue entry rest } ∧
          program = entry.callShared >>= fun _ => .done ()
  | .runs thread =>
    after = shared ∧ ∃ function : Firmware Unit,
      Board.launch thread shared.board function shared.board ∧ program = liftM function
  | .inspects => after = shared ∧ program ∈ inspections

/-- The chip moves by itself. -/
def Drift (shared after : SharedBoard) : Prop :=
  ∃ board, shared.board.Drift board ∧ after = { shared with board := board }

end SharedBoard

/-- The first user keeps the second one waiting: interrupts go before core 0, which runs one
function at a time. -/
def User.precedes : User → User → Prop
  | .runs .interrupt, .runs .core0 => True
  | .runs .interrupt, .inspects => True
  | .runs .core0, .inspects => True
  | .inspects, .runs .core0 => True
  | _, _ => False

/-- The users of the driver over the shared board. -/
abbrev sharing : System DriverAns where
  Thread := User
  decEq := inferInstance
  Shared := SharedBoard
  preempts := User.precedes
  exec := SharedBoard.exec
  launch := SharedBoard.launch
  drift := SharedBoard.Drift

/-- What a user reads from a buffer or from the chip has not been interfered with. -/
def Undisturbed (shared : SharedBoard) (user : User) (op : DriverOp) : Prop :=
  (usesSend op = true → shared.sendUser = some user) ∧
    (usesReturn op = true → shared.returnUser = some user) ∧
    (usesPointer op = true → shared.pointerUser = some user)

instance (shared : SharedBoard) (user : User) (op : DriverOp) :
    Decidable (Undisturbed shared user op) := inferInstanceAs (Decidable (_ ∧ _))

/-- A condition on the deeds of an undisturbed run, each with the board before it and its
thread. -/
def Undisturbedly (meets : Board → Thread → Deed → Prop) :
    sharing.Shared → sharing.Action → Prop
  | (shared : SharedBoard), .perform (user : User) op answer =>
    Undisturbed shared user op ∧
      ∀ thread ∈ user.thread?, ∀ event ∈ transferred shared.buffers op answer,
        meets shared.board thread
          (deed (shared.board.here thread).selected event.op event.answer)
  | _, _ => True

/-- `max77958_init` has just called `queue_init`. -/
def sharingStarted (buffers : Buffers) (callQueue : List QueueEntry) (pdStatus0 : UInt8) :
    sharing.Config where
  shared := ⟨.start callQueue pdStatus0, buffers, none, none, none, none⟩
  programs
    | .runs .core0 => initDevice
    | _ => .done ()

end Operations

/-! ## What a core sees -/

section Seeing

variable [DriverHeader] {shared after : SharedBoard} {user : User} {thread : Thread}
  {view : Buffers} {op : DriverOp} {answer : DriverAns op}

/-- What a thread has for itself is as if nobody else used it. -/
structure Sees (shared : SharedBoard) (thread : Thread) (view : Buffers) : Prop where
  /-- Its `send_buf`. -/
  send : shared.sendUser = some (.runs thread) → view.sendBuf = shared.buffers.sendBuf
  /-- Its `return_buf`. -/
  reply : shared.returnUser = some (.runs thread) → view.returnBuf = shared.buffers.returnBuf
  /-- The register that it selected. -/
  pointer : thread ≠ .interrupt → shared.pointerUser = some (.runs thread) →
    shared.pointer = (shared.board.here thread).selected

omit [DriverHeader] in
/-- A thread that stays where it is changes nothing. -/
theorem Board.moved_here (board : Board) (thread : Thread) :
    board.moved thread (board.here thread) = board := by
  cases thread <;> rfl

/-- An operation leaves the other threads where they stand. -/
theorem Board.exec_here {board after : Board} {op : Op} {answer : Ans op}
    (executed : board.exec thread op answer = some after) {bystander : Thread}
    (apart : bystander ≠ thread) : after.here bystander = board.here bystander := by
  have kept := discipline.other executed apart
  cases bystander with
  | core0 => exact kept
  | interrupt => rfl
  | core1 => exact kept

omit [DriverHeader] in
/-- Whoever stores in a buffer takes it from the others. -/
theorem stored_apart {held : Option User} {other : User} (apart : user ≠ other) :
    stored user held ≠ some other := by
  unfold stored
  split_ifs with same
  · exact fun also => apart (Option.some.inj (same.symm.trans also))
  · exact nofun

omit [DriverHeader] in
/-- A store keeps the buffer of whoever had it. -/
theorem stored_own {held : Option User} (own : stored user held = some user) :
    held = some user := by
  unfold stored at own
  split_ifs at own with same
  exact same

omit [DriverHeader] in
/-- Reading selects no register. -/
theorem reading_aside (selected before : Option UInt8) (bytes : List UInt8) :
    shared.pointed user (reading selected bytes) = shared ∧
      (reading selected bytes).selects before = before := by
  unfold reading
  split_ifs <;> exact ⟨rfl, rfl⟩

/-- Only a write to the chip moves the register pointer. -/
theorem deed_selectless {op : Op}
    (other : ∀ addr src nostop, op ≠ .i2cWriteTimeoutUs .i2c0 addr src nostop)
    (answer : Ans op) (selected before : Option UInt8) :
    shared.pointed user (deed selected op answer) = shared ∧
      (deed selected op answer).selects before = before := by
  cases op with
  | i2cWriteTimeoutUs i2c addr src nostop =>
    cases i2c with
    | i2c0 => exact absurd rfl (other addr src nostop)
    | i2c1 => exact ⟨rfl, rfl⟩
  | i2cReadTimeoutUs i2c addr len nostop =>
    cases i2c with
    | i2c0 =>
      obtain ⟨result, bytes⟩ : Int × Vector UInt8 len := answer
      simp only [deed]
      split_ifs
      · exact reading_aside ..
      · exact ⟨rfl, rfl⟩
    | i2c1 => exact ⟨rfl, rfl⟩
  | store flag value => cases flag <;> cases value <;> exact ⟨rfl, rfl⟩
  | load flag => cases flag <;> exact ⟨rfl, rfl⟩
  | await flag => cases flag <;> exact ⟨rfl, rfl⟩
  | _ => exact ⟨rfl, rfl⟩

/-- The register pointer goes where the thread selects. -/
theorem pointed_own (here : Local) (op : Op) (answer : Ans op)
    (own : (shared.pointed user (deed none op answer)).pointerUser = some user) :
    (shared.pointed user (deed none op answer)).pointer = (here.next op answer).selected ∨
      shared.pointerUser = some user ∧
        (shared.pointed user (deed none op answer)).pointer = shared.pointer ∧
          (here.next op answer).selected = here.selected := by
  by_cases write : ∃ addr src nostop, op = .i2cWriteTimeoutUs .i2c0 addr src nostop
  · obtain ⟨addr, src, nostop, rfl⟩ := write
    simp only [Local.next, deed] at own ⊢
    split_ifs at own ⊢ with reached command
    · cases own
    · exact .inl rfl
    · exact .inr ⟨own, rfl, rfl⟩
  · have other (addr : UInt8) (src : List UInt8) (nostop : Bool) :
        op ≠ .i2cWriteTimeoutUs .i2c0 addr src nostop := fun same => write ⟨_, _, _, same⟩
    have kept : shared.pointed user (deed none op answer) = shared :=
      (deed_selectless other answer none none).1
    rw [kept] at own ⊢
    exact .inr ⟨own, rfl, (@deed_selectless _ shared user _ other answer _ _).2⟩

/-- What an operation of the platform changes of what is shared. -/
theorem SharedBoard.operated_cases {event : Event Ans}
    (operated : shared.operated user event = some after) :
    ∃ board, after = { shared.pointed user (deed none event.op event.answer) with board := board } ∧
      (∀ thread, user = .runs thread →
        (shared.aimed thread event.op).exec thread event.op event.answer = some board) ∧
      (user = .inspects → board = shared.board) := by
  cases user with
  | runs thread =>
    obtain ⟨board, executed, rfl⟩ := Option.map_eq_some_iff.mp operated
    exact ⟨board, rfl, fun other same => by cases same; exact executed, nofun⟩
  | inspects =>
    obtain rfl := Option.some.inj operated
    refine ⟨shared.board, ?_, nofun, fun _ => rfl⟩
    cases deed none event.op event.answer <;> rfl

omit [DriverHeader] in
/-- What selects a register leaves the buffers and their users. -/
theorem SharedBoard.pointed_rest (shared : SharedBoard) (user : User) (deed : Deed) :
    (shared.pointed user deed).buffers = shared.buffers ∧
      (shared.pointed user deed).sendUser = shared.sendUser ∧
      (shared.pointed user deed).returnUser = shared.returnUser := by
  cases deed <;> exact ⟨rfl, rfl, rfl⟩

/-- An answered access fills and hands over the buffers, next to what it amounts to. -/
theorem SharedBoard.exec_cases (executed : shared.exec user op answer = some after) :
    holds shared.buffers op answer = true ∧ ∃ middle, after = middle.accessed user op answer ∧
      (transferred shared.buffers op answer = none ∧ middle = shared ∨
        ∃ event, transferred shared.buffers op answer = some event ∧
          shared.operated user event = some middle) := by
  simp only [SharedBoard.exec, Option.ite_none_right_eq_some] at executed
  obtain ⟨held, executed⟩ := executed
  refine ⟨held, ?_⟩
  split at executed
  · rename_i event amounts
    obtain ⟨middle, operated, rfl⟩ := Option.map_eq_some_iff.mp executed
    exact ⟨middle, rfl, .inr ⟨event, amounts, operated⟩⟩
  · rename_i nothing
    exact ⟨shared, (Option.some.inj executed).symm, .inl ⟨nothing, rfl⟩⟩

/-- Where a thread reads from does not move the others. -/
theorem SharedBoard.aimed_here (shared : SharedBoard) (op : Op) {bystander : Thread}
    (apart : bystander ≠ thread) : (shared.aimed thread op).here bystander =
      shared.board.here bystander := by
  unfold aimed
  split_ifs
  · cases thread <;> cases bystander <;> first | rfl | exact absurd rfl apart
  · rfl

/-- What others do on the platform does not disturb a thread. -/
theorem Sees.operated {event : Event Ans} (sees : Sees shared thread view)
    (apart : user ≠ .runs thread) (operated : shared.operated user event = some after) :
    Sees after thread view := by
  obtain ⟨board, rfl, runs, inspects⟩ := SharedBoard.operated_cases operated
  obtain ⟨buffers, sendUser, returnUser⟩ :=
    shared.pointed_rest user (deed none event.op event.answer)
  have here : board.here thread = shared.board.here thread := by
    cases user with
    | runs other =>
      have differs : thread ≠ other := fun same => apart (congrArg User.runs same.symm)
      exact (Board.exec_here (runs other rfl) differs).trans (shared.aimed_here _ differs)
    | inspects => rw [inspects rfl]
  refine ⟨fun own => ?_, fun own => ?_, fun core own => ?_⟩
  · exact (sees.send (sendUser.symm.trans own)).trans (congrArg Buffers.sendBuf buffers).symm
  · exact (sees.reply (returnUser.symm.trans own)).trans (congrArg Buffers.returnBuf buffers).symm
  · change _ = (board.here thread).selected
    rw [here]
    cases moved : deed none event.op event.answer <;> rw [moved] at own
    case select reg => exact absurd (Option.some.inj own) apart
    case command src => cases own
    all_goals exact sees.pointer core own

omit [DriverHeader] in
/-- What others do with the buffers takes them from a thread at most. -/
theorem Sees.accessed (sees : Sees shared thread view) (apart : user ≠ .runs thread)
    (op : DriverOp) (answer : DriverAns op) : Sees (shared.accessed user op answer) thread
        view := by
  obtain ⟨send, reply, pointer⟩ := sees
  refine ⟨fun own => ?_, fun own => ?_, pointer⟩
  · cases op with
    | clearSendBuf => exact absurd (Option.some.inj own) apart
    | setSend index value => exact absurd own (stored_apart apart)
    | readReturnBuf len =>
      refine (send own).trans ?_
      simp only [SharedBoard.accessed, Buffers.after]
      split_ifs <;> rfl
    | _ => exact send own
  · cases op with
    | clearReturnBuf => exact absurd (Option.some.inj own) apart
    | readReturnBuf len => exact absurd own (stored_apart apart)
    | _ => exact reply own

/-- An inspection leaves the board as it is. -/
theorem SharedBoard.exec_inspects (executed : shared.exec .inspects op answer = some after) :
    after.board = shared.board := by
  obtain ⟨_, middle, rfl, ⟨_, rfl⟩ | ⟨event, _, operated⟩⟩ := SharedBoard.exec_cases executed
  · rfl
  · obtain ⟨board, rfl, _, inspects⟩ := SharedBoard.operated_cases operated
    exact inspects rfl

/-- What others do disturbs what a thread has for itself at most by taking it away. -/
theorem Sees.bystander (sees : Sees shared thread view) (apart : user ≠ .runs thread)
    (executed : shared.exec user op answer = some after) : Sees after thread view := by
  obtain ⟨_, middle, rfl, ⟨_, rfl⟩ | ⟨event, _, operated⟩⟩ := SharedBoard.exec_cases executed
  · exact sees.accessed apart op answer
  · exact (sees.operated apart operated).accessed apart op answer

omit [DriverHeader] in
/-- What a thread does with the buffers that it has for itself it does to its view of them. -/
theorem Sees.own_accessed (sees : Sees shared thread view) (op : DriverOp) (answer : DriverAns op) :
    Sees (shared.accessed (.runs thread) op answer) thread (view.after op answer) := by
  obtain ⟨send, reply, pointer⟩ := sees
  refine ⟨fun own => ?_, fun own => ?_, pointer⟩
  · cases op with
    | clearSendBuf => rfl
    | setSend index value =>
      exact congrArg (fun buf : Vector UInt8 33 => buf.setIfInBounds index.val value)
        (send (stored_own own))
    | readReturnBuf len =>
      simp only [SharedBoard.accessed, Buffers.after]
      split_ifs <;> exact send own
    | _ => exact send own
  · cases op with
    | clearReturnBuf => rfl
    | readReturnBuf len =>
      simp only [SharedBoard.accessed, Buffers.after, reply (stored_own own)]
      split_ifs
      · rfl
      · exact reply (stored_own own)
    | _ => exact reply own

/-- An undisturbed thread reads from the register that it selected, so it performs the operation
on the board as it is, and its view stays right. -/
theorem Sees.own_operated {event : Event Ans} (sees : Sees shared thread view)
    (undisturbed : readsChip event.op = true → shared.pointerUser = some (.runs thread))
    (operated : shared.operated (.runs thread) event = some after) :
    shared.board.exec thread event.op event.answer = some after.board ∧ Sees after thread view := by
  obtain ⟨board, rfl, runs, _⟩ := SharedBoard.operated_cases operated
  have aimed : shared.aimed thread event.op = shared.board := by
    unfold SharedBoard.aimed
    split_ifs with reads
    · by_cases core : thread = .interrupt
      · subst core; rfl
      · rw [sees.pointer core (undisturbed reads)]
        exact shared.board.moved_here thread
    · rfl
  have executed := runs thread rfl
  rw [aimed] at executed
  obtain ⟨buffers, sendUser, returnUser⟩ :=
    shared.pointed_rest (.runs thread) (deed none event.op event.answer)
  refine ⟨executed, fun own => ?_, fun own => ?_, fun core own => ?_⟩
  · exact (sees.send (sendUser.symm.trans own)).trans (congrArg Buffers.sendBuf buffers).symm
  · exact (sees.reply (returnUser.symm.trans own)).trans (congrArg Buffers.returnBuf buffers).symm
  · have moved : board.here thread = (shared.board.here thread).next event.op event.answer := by
      have own := discipline.own executed
      cases thread with
      | core0 => exact own
      | interrupt => exact absurd rfl core
      | core1 => exact own
    change _ = (board.here thread).selected
    rw [moved]
    obtain follows | ⟨before, kept, same⟩ := pointed_own (shared.board.here thread) _ _ own
    · exact follows
    · exact kept.trans ((sees.pointer core before).trans same.symm)

/-- An undisturbed access of a thread is nothing, or one operation, of its program alone. -/
theorem Sees.own (sees : Sees shared thread view) (resume : DriverAns op → Sharing Unit)
    (undisturbed : Undisturbed shared (.runs thread) op)
    (executed : shared.exec (.runs thread) op answer = some after) :
    Sees after thread (view.after op answer) ∧
      (after.board = shared.board ∧ transferred shared.buffers op answer = none ∧
          alone (.perform op resume) view = alone (resume answer) (view.after op answer) ∨
        ∃ event, transferred shared.buffers op answer = some event ∧
          shared.board.exec thread event.op event.answer = some after.board ∧
          ∃ next, alone (.perform op resume) view = .perform event.op next ∧
            next event.answer = alone (resume answer) (view.after op answer)) := by
  obtain ⟨uses, replies, points⟩ := undisturbed
  obtain ⟨held, middle, rfl, ⟨nothing, rfl⟩ | ⟨event, amounts, operated⟩⟩ :=
    SharedBoard.exec_cases executed
  · refine ⟨sees.own_accessed op answer, .inl ⟨rfl, nothing, ?_⟩⟩
    cases op with
    | sendByte index =>
      have byte : answer = view.sendBuf.get index := by
        rw [sees.send (uses rfl)]
        exact of_decide_eq_true held
      rw [byte]
      rfl
    | returnByte index =>
      have byte : answer = view.returnBuf.get index := by
        rw [sees.reply (replies rfl)]
        exact of_decide_eq_true held
      rw [byte]
      rfl
    | platform op => cases nothing
    | writeSendBuf len nostop => cases nothing
    | readReturnBuf len => cases nothing
    | _ => rfl
  · have reads : readsChip event.op = true → usesPointer op = true := by
      cases op with
      | platform op => cases amounts; exact id
      | readReturnBuf len => exact fun _ => rfl
      | writeSendBuf len nostop => cases amounts; nofun
      | _ => cases amounts
    obtain ⟨performed, seen⟩ := sees.own_operated (fun read => points (reads read)) operated
    refine ⟨seen.own_accessed op answer, .inr ⟨event, amounts, performed, ?_⟩⟩
    cases op with
    | platform op => cases amounts; exact ⟨_, rfl, rfl⟩
    | writeSendBuf len nostop =>
      cases amounts
      refine ⟨fun result => alone (resume result) view, ?_, rfl⟩
      rw [← sees.send (uses rfl)]
      rfl
    | readReturnBuf len => cases amounts; exact ⟨_, rfl, rfl⟩
    | _ => cases amounts

end Seeing

/-! ## Undisturbed runs are runs with buffers of one's own -/

section Projection

variable [DriverHeader] {meets : Board → Thread → Deed → Prop} {views : Thread → Buffers}
  {config next : sharing.Config} {own : pipeline.Config} {action : sharing.Action}

/-- What a program of the pipeline does, without its buffers in the end. -/
def discard (program : Firmware (Unit × Buffers)) : Firmware Unit := program >>= fun _ => .done ()

/-- What is left of a program, with a view of the buffers that nobody else has. -/
def remains (program : Sharing Unit) (view : Buffers) : Firmware Unit :=
  discard (alone program view)

/-- Nothing is left of a program that has returned. -/
theorem remains_isDone {program : Sharing Unit} (idle : program.isDone = true) (view : Buffers) :
    (remains program view).isDone = true := by
  cases program with
  | done value => rfl
  | perform op resume => cases idle

/-- The pipeline does the same with a view of the buffers for each thread. -/
structure Projects (config : sharing.Config) (views : Thread → Buffers) (own : pipeline.Config) :
    Prop where
  /-- The board is the same. -/
  board : own.shared = config.shared.board
  /-- Every view is right where it matters. -/
  sees : ∀ thread, Sees config.shared thread (views thread)
  /-- What is left of each program is the same. -/
  programs : ∀ thread, own.programs thread =
    remains (config.programs (User.runs thread)) (views thread)

/-- A thread that waits for nobody there waits for nobody here. -/
theorem Projects.free (projects : Projects config views own) {thread : Thread}
    (free : config.Free (User.runs thread)) : own.Free thread := by
  rintro other ⟨rfl, rfl⟩
  exact (congrArg Program.isDone (projects.programs .interrupt)).trans
    (remains_isDone (free (User.runs .interrupt) trivial) _)

/-- A thread that is idle there is idle here. -/
theorem Projects.idle (projects : Projects config views own) {thread : Thread}
    (idle : config.programs (User.runs thread) = .done ()) : own.programs thread = .done () :=
  (projects.programs thread).trans (congrArg (remains · (views thread)) idle)

/-- A step of somebody else than the threads of the pipeline leaves it where it is. -/
theorem Projects.aside {shared : SharedBoard} {program : Sharing Unit}
    (projects : Projects config views own) (board : shared.board = config.shared.board)
    (sees : ∀ thread, Sees shared thread (views thread)) :
    Projects ⟨shared, Function.update config.programs User.inspects program⟩ views own where
  board := projects.board.trans board.symm
  sees := sees
  programs thread := by
    have apart : User.runs thread ≠ .inspects := nofun
    exact (projects.programs thread).trans
      (congrArg (remains · (views thread))
        (Function.update_of_ne apart program config.programs).symm)

/-- A thread of the pipeline has gone on, with its view of the buffers. -/
theorem Projects.advanced {shared : SharedBoard} {thread : Thread} {program : Sharing Unit}
    {view : Buffers} {left : Firmware Unit} (projects : Projects config views own)
    (own_sees : Sees shared thread view)
    (sees : ∀ bystander, bystander ≠ thread → Sees shared bystander (views bystander))
    (same : left = remains program view) :
    Projects ⟨shared, Function.update config.programs (User.runs thread) program⟩
      (Function.update views thread view)
      ⟨shared.board, Function.update own.programs thread left⟩ where
  board := rfl
  sees bystander := by
    by_cases apart : bystander = thread
    · subst apart
      exact (congrArg (Sees shared bystander) (Function.update_self ..)).mpr own_sees
    · exact (congrArg (Sees shared bystander) (Function.update_of_ne apart ..)).mpr
        (sees bystander apart)
  programs bystander := by
    by_cases apart : bystander = thread
    · subst apart
      exact (Function.update_self bystander left own.programs).trans (same.trans (congrArg₂ remains
        (Function.update_self (User.runs bystander) program config.programs).symm
        (Function.update_self bystander view views).symm))
    · have differs : User.runs bystander ≠ .runs thread := fun equal =>
        apart (User.runs.inj equal)
      exact (Function.update_of_ne apart left own.programs).trans
        ((projects.programs bystander).trans (congrArg₂ remains
          (Function.update_of_ne differs program config.programs).symm
          (Function.update_of_ne apart view views).symm))

/-- A launch of a thread of the pipeline. -/
theorem Projects.launched {shared : SharedBoard} {thread : Thread} {program : Sharing Unit}
    (projects : Projects config views own)
    (launched : SharedBoard.launch (.runs thread) config.shared program shared) :
    Board.launch thread config.shared.board
        (remains program (views thread)) shared.board ∧
      ∀ bystander, Sees shared bystander (views bystander) := by
  have lifted (function : Firmware Unit) :
      remains (liftM function : Sharing Unit) (views thread) = function := by
    rw [remains, alone_lift]
    exact (bind_assoc function _ _).trans (bind_pure function)
  cases thread with
  | core0 =>
    obtain ⟨rfl, function, launched, rfl⟩ := launched
    exact ⟨(lifted function).symm ▸ launched, projects.sees⟩
  | interrupt =>
    obtain ⟨rfl, function, launched, rfl⟩ := launched
    exact ⟨(lifted function).symm ▸ launched, projects.sees⟩
  | core1 =>
    obtain ⟨running, entry, rest, queued, rfl, rfl⟩ := launched
    refine ⟨⟨running, entry, rest, views .core1, queued, rfl, ?_⟩, fun bystander => ?_⟩
    · rw [remains, discard, alone_bind_run, ← QueueEntry.alone_callShared entry (views .core1),
        bind_assoc, bind_assoc]
      rfl
    · obtain ⟨send, reply, pointer⟩ := projects.sees bystander
      refine ⟨send, reply, fun core own => (pointer core own).trans ?_⟩
      unfold Board.dequeue
      split_ifs <;> cases bystander <;> rfl

/-- An undisturbed step is a step of the pipeline, or none. -/
theorem Projects.step (projects : Projects config views own)
    (met : Undisturbedly meets config.shared action) (taken : System.Step config action next) :
    ∃ views own', Projects next views own' ∧
      (own' = own ∨ ∃ action, During meets own.shared action ∧ System.Step own action own') := by
  cases taken with
  | perform free running answered =>
    rename_i user op resume answer shared
    cases user with
    | inspects =>
      exact ⟨views, own, projects.aside (SharedBoard.exec_inspects answered)
        (fun thread => (projects.sees thread).bystander
          (fun same : User.inspects = .runs thread => User.noConfusion same) answered), .inl rfl⟩
    | runs thread =>
      obtain ⟨undisturbed, meets⟩ := met
      have bystanders (bystander : Thread) (apart : bystander ≠ thread) :
          Sees shared bystander (views bystander) :=
        (projects.sees bystander).bystander (fun same => apart (User.runs.inj same).symm) answered
      have stands : own.programs thread = remains (.perform op resume) (views thread) :=
        (projects.programs thread).trans (congrArg (remains · (views thread)) running)
      obtain ⟨seen, ⟨board, _, same⟩ | ⟨event, amounts, performed, next, same, resumed⟩⟩ :=
        (projects.sees thread).own resume undisturbed answered
      · refine ⟨_, _, projects.advanced seen bystanders rfl, .inl ?_⟩
        have stays : own.programs thread =
            remains (resume answer) ((views thread).after op answer) :=
          stands.trans (congrArg discard same)
        exact congr (congrArg System.Config.mk (board.trans projects.board.symm))
          ((congrArg (Function.update own.programs thread) stays.symm).trans
            (Function.update_eq_self thread own.programs))
      · refine ⟨_, _, projects.advanced seen bystanders
          (congrArg discard resumed : discard (next event.answer) = _), .inr
              ⟨.perform thread event.op event.answer,
            ?_, .perform (projects.free free)
              (stands.trans (congrArg discard same)) ?_⟩⟩
        · exact projects.board ▸ meets thread rfl event amounts
        · exact projects.board ▸ performed
  | launch free idle launched =>
    rename_i user program shared
    cases user with
    | inspects =>
      obtain ⟨rfl, _⟩ := launched
      exact ⟨views, own, projects.aside rfl projects.sees, .inl rfl⟩
    | runs thread =>
      obtain ⟨launched, sees⟩ := projects.launched launched
      refine ⟨_, _, projects.advanced (sees thread) (fun bystander _ => sees bystander) rfl,
        .inr ⟨_, trivial, .launch (projects.free free) (projects.idle idle) ?_⟩⟩
      exact projects.board ▸ launched
  | drift drifted =>
    obtain ⟨board, drifted, rfl⟩ := drifted
    have here (thread : Thread) :
        board.here thread = config.shared.board.here thread := by
      cases drifted <;> cases thread <;> rfl
    refine ⟨views, ⟨board, own.programs⟩, ⟨rfl, fun thread => ?_, projects.programs⟩,
      .inr ⟨.drift, trivial, .drift (projects.board ▸ drifted)⟩⟩
    obtain ⟨send, reply, pointer⟩ := projects.sees thread
    exact ⟨send, reply, fun core own => (pointer core own).trans
      (congrArg Local.selected (here thread)).symm⟩

/-- Every undisturbed run is one of the pipeline with buffers of one's own. -/
theorem projects_of_reaches {buffers : Buffers} {callQueue : List QueueEntry} {pdStatus0 : UInt8}
    (reached : System.Reaches (Undisturbedly meets)
      (sharingStarted buffers callQueue pdStatus0) config) :
    ∃ views own, Projects config views own ∧
      System.Reaches (During meets) (started buffers callQueue pdStatus0) own := by
  induction reached with
  | refl =>
    refine ⟨fun _ => buffers, _, ⟨rfl, fun thread => ⟨nofun, nofun, nofun⟩, fun thread => ?_⟩,
      .refl⟩
    cases thread with
    | core0 => exact congrArg discard (congrFun alone_initDevice buffers).symm
    | interrupt => rfl
    | core1 => rfl
  | step _ met taken ih =>
    obtain ⟨views, own, projects, reached⟩ := ih
    obtain ⟨views, own', projects, same | ⟨action, met, taken⟩⟩ := projects.step met taken
    · exact ⟨views, own', projects, same ▸ reached⟩
    · exact ⟨views, own', projects, reached.step met taken⟩

/-- A property of the board holds throughout every undisturbed run when turns under the condition,
core 1 taking an entry, and moves of the chip preserve it. -/
theorem throughout_undisturbed (Inv : Board → Prop)
    (turns : ∀ {board after : Board} {thread : Thread} {deed : Deed}, Inv board →
      meets board thread deed → Turn board thread deed after → Inv after)
    (takes : ∀ {board : Board} {entry : QueueEntry} {rest : List QueueEntry}, Inv board →
      board.core1.duty = .free → board.callQueue = entry :: rest → Inv (board.dequeue entry rest))
    (drifts : ∀ {board after : Board}, Inv board → board.Drift after → Inv after)
    {buffers : Buffers} {callQueue : List QueueEntry} {pdStatus0 : UInt8}
    (initially : Inv (.start callQueue pdStatus0))
    (reached : System.Reaches (Undisturbedly meets)
      (sharingStarted buffers callQueue pdStatus0) config) :
    Inv config.shared.board := by
  obtain ⟨views, own, projects, reached⟩ := projects_of_reaches reached
  exact projects.board ▸ throughout Inv turns takes drifts initially reached

end Projection

end TypeC

end RobotFirmware
