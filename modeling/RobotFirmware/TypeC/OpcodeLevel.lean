import RobotFirmware.TypeC.Playback
import RobotFirmware.TypeC.Threads

/-!
# The level of the opcode queue

Every function that adds a command to the opcode queue pops it afterwards, apart from
`max77958_init`, which adds two more. A pop that finds the call queue full has taken its
command out of the opcode queue as well. So the level exceeds the number of threads between an
addition and its pop by at most two, and the queue is never full.
-/

namespace RobotFirmware

open Interaction Max77958

namespace TypeC

/-! ## What a thread owes -/

/-- How far a thread is with the commands that it adds. -/
structure Ledger where
  /-- The additions that it may still make without a pop of their own. -/
  left : Nat
  /-- Whether it added a command that it has not popped. -/
  owes : Bool

/-- An addition, which a thread that owes a pop takes from those left. -/
def Ledger.add (here : Ledger) (added : Bool) : Ledger :=
  if added then
    if here.owes then { here with left := here.left - 1 } else { here with owes := true }
  else here

/-- A pop. -/
def Ledger.pop (here : Ledger) : Ledger := { here with owes := false }

/-- The operations that take nothing from the opcode queue and add nothing to it. -/
def Aside : Op → Prop
  | .opcodeQueueTryAdd _ => False
  | .opcodeQueueTryRemove => False
  | _ => True

/-- Whether a thread may perform an operation. -/
def Ledger.Allows (here : Ledger) : Op → Prop
  | .opcodeQueueTryAdd _ => here.owes = true → 0 < here.left
  | _ => True

/-- A thread after an operation. -/
def Ledger.next (here : Ledger) : (op : Op) → Ans op → Ledger
  | .opcodeQueueTryAdd _, added => here.add added
  | .opcodeQueueTryRemove, _ => here.pop
  | _, _ => here

/-- Watch the additions and the pops of a thread. -/
abbrev ledger : Monitor Ans where
  State := Ledger
  allows := Ledger.Allows
  next := Ledger.next

/-- A thread owes nothing. -/
def Ledger.Square (here : Ledger) : Prop := here.owes = false

/-- An allowed addition is paid for by an addition that was left or by a pop that is owed. -/
theorem Ledger.add_pays {here : Ledger} (allowed : here.owes = true → 0 < here.left)
    (added : Bool) : (here.add added).left ≤ here.left ∧
      added.toNat + (here.add added).left + here.owes.toNat ≤
        here.left + (here.add added).owes.toNat := by
  obtain ⟨left, owes⟩ := here
  cases added <;> cases owes <;> simp [Ledger.add] at allowed ⊢ <;> omega

/-- The ledger does not see operations aside. -/
theorem ignores_aside : ledger.Ignores Aside := by
  intro here op aside
  cases op <;> first | exact ⟨trivial, fun _ => rfl⟩ | exact aside.elim

/-- The other devices are aside. -/
theorem aside_peripheral {op : Op} (peripheral : op.Peripheral) : Aside op := by
  cases op <;> first | exact trivial | exact peripheral.elim

/-- A function that pops whatever it adds. -/
abbrev Squares {α : Type} (program : Firmware α) : Prop := ledger.Keeps Ledger.Square program

/-- A function of the driver that does. -/
abbrev DriverSquares {α : Type} (function : Driver α) : Prop :=
  ledger.StatefulKeeps Ledger.Square function

/-- So is a message. -/
theorem aside_log (format : String) (args : List LogArg) :
    (rp2040Log format args).Within Aside := ⟨trivial, fun _ => trivial⟩

/-- It leaves nothing owed. -/
theorem squares_log (format : String) (args : List LogArg) : Squares (rp2040Log format args) :=
  .of_within ignores_aside (aside_log format args)

/-- An addition that is allowed goes on only when it succeeded. -/
theorem guards_add {here : Ledger} {opcodeFunc : EntryFunc} {opcodeData : Int32}
    {post : Ledger → Unit → Prop} (allowed : here.owes = true → 0 < here.left)
    (added : post (here.add true) ()) :
    ledger.Guards here (opcodeQueueAdd opcodeFunc opcodeData) post := by
  refine ⟨trivial, fun _ => ⟨allowed, fun (success : Bool) => ?_⟩⟩
  cases success with
  | false => exact ⟨trivial, fun _ => ⟨trivial, fun impossible => nomatch impossible⟩⟩
  | true => exact ⟨trivial, fun _ => ⟨trivial, fun _ => added⟩⟩

/-- A pop settles the account, whatever it finds. -/
theorem guards_pop {here : Ledger} {post : Ledger → Bool → Prop}
    (popped : ∀ moved, post here.pop moved) : ledger.Guards here opcodeQueuePop post := by
  refine ⟨trivial, fun (removed : Option QueueEntry) => ?_⟩
  cases removed with
  | none => exact ⟨trivial, fun _ => popped false⟩
  | some entry =>
    refine ⟨trivial, fun _ => ⟨trivial, fun _ => ⟨trivial, fun (added : Bool) => ?_⟩⟩⟩
    cases added with
    | false => exact ⟨trivial, fun _ => popped false⟩
    | true => exact ⟨trivial, fun _ => popped true⟩

/-- An addition and its pop. -/
theorem squares_addAndPop (opcodeFunc : EntryFunc) (opcodeData : Int32) :
    Squares (do
      opcodeQueueAdd opcodeFunc opcodeData
      let _ ← opcodeQueuePop) := by
  intro here square
  have none : here.owes = true → 0 < here.left := fun owes =>
    Bool.noConfusion (owes.symm.trans square)
  exact Monitor.guards_bind.mpr (guards_add none
    (Monitor.guards_bind.mpr (guards_pop fun _ => rfl)))

/-- So does a message of the driver. -/
theorem driverSquares_log (format : String) (args : List LogArg) :
    DriverSquares (rp2040Log format args : Driver Unit) := .lift (squares_log format args)

/-- Acting on the state of the CC pins pops what it adds. -/
theorem actOnCcStat_squares (ccStat : UInt8) : Squares (actOnCcStat ccStat) :=
  .ite ((squares_log _ _).bind fun _ => squares_addAndPop _ _)
    (.ite ((squares_log _ _).bind fun _ => squares_addAndPop _ _)
      (.ite (squares_log _ _) (squares_log _ _)))

/-- A fault is only logged. -/
theorem logFault_squares (ccStatus1 bit : UInt8) (message : String) :
    Squares (logFault ccStatus1 bit message) :=
  .ite (squares_log _ _) fun _ square => square

/-- A mark adds nothing. -/
theorem enter_squares (call : Call) : DriverSquares (perform (.enter call) : Driver Unit) :=
  .lift (.of_within ignores_aside (.act trivial))

/-! ## The functions of the driver -/

section Driver

variable [DriverHeader]

/-- Transfers are aside. -/
theorem transfers_aside : Transfers Aside where
  routine op routine := by cases op <;> first | exact trivial | exact routine.elim
  write _ _ := trivial
  read _ := trivial
  load _ := trivial

/-- Reading registers of the chip adds nothing. -/
theorem readRegisters_squares (reg : UInt8) (len : Nat) : DriverSquares (readRegisters reg len) :=
  .of_within ignores_aside (readRegisters_within transfers_aside.reads reg len)

/-- `on_ccstat_change` pops the command that it adds. -/
theorem onCcstatChange_squares : DriverSquares onCcstatChange := by
  refine (enter_squares _).bind fun _ => (driverSquares_log _ _).bind fun _ =>
    (readRegisters_squares _ _).bind fun _ => .bind .get fun _ => .bind .get fun _ => ?_
  iterate 4 refine (driverSquares_log _ _).bind fun _ => ?_
  refine Monitor.StatefulKeeps.bind (.lift (actOnCcStat_squares _)) fun _ => ?_
  iterate 4 refine Monitor.StatefulKeeps.bind (.lift (logFault_squares _ _ _)) fun _ => ?_
  exact .lift (logFault_squares _ _ _)

/-- A response moves the next command without adding one. -/
theorem onOpcodeCmdResponse_squares : DriverSquares onOpcodeCmdResponse := by
  have read : StatefulWithin Aside (opcodeRead : Driver Unit) :=
    .bind (.modify _) fun _ => .bind (.modify _) fun _ =>
      .bind (writeSendBuf_within transfers_aside _ _) fun _ =>
      .bind (.lift (i2cReadErrorHandling_within trivial transfers_aside.routine)) fun _ =>
      .bind (.lift (.act trivial)) fun _ => .lift (aside_log _ _)
  have pops : Squares opcodeQueuePop := fun _ _ => guards_pop fun _ => rfl
  have finish : DriverSquares (store .opcodesFinished true : Driver Unit) :=
    .lift (.of_within ignores_aside (.act trivial))
  exact (enter_squares _).bind fun _ =>
    Monitor.StatefulKeeps.bind (.of_within ignores_aside read) fun _ =>
      Monitor.StatefulKeeps.bind (.lift pops) fun _ => .ite finish (.pure _)

omit [DriverHeader] in
/-- A handler that is square is square when its bit is set or not. -/
theorem dispatch_squares {handler : Driver Unit} (squares : DriverSquares handler) (reg : Fin 33)
    (mask : UInt8) (bit returnVal : UInt16) :
    DriverSquares (dispatch reg mask handler bit returnVal) :=
  .bind .get fun _ => .ite (squares.bind fun _ => .pure _) (.pure _)

/-- The interrupt function of core 1 pops whatever it adds. -/
theorem parseInterruptVals_squares : DriverSquares parseInterruptVals := by
  have marked (call : Call) (format : String) : DriverSquares (do
      perform (.enter call)
      rp2040Log format [] : Driver Unit) := (enter_squares call).bind fun _ => driverSquares_log _ _
  have message : DriverSquares onPdMsgReceived :=
    (enter_squares _).bind fun _ => (driverSquares_log _ _).bind fun _ =>
      .lift (.of_within ignores_aside (callQueueTryAdd_allowed transfers_aside.routine trivial))
  have charger : DriverSquares onChgtypeChange :=
    (enter_squares _).bind fun _ => (driverSquares_log _ _).bind fun _ =>
      (readRegisters_squares _ _).bind fun _ => .bind .get fun _ => driverSquares_log _ _
  have none : DriverSquares (store .testMax77958InterruptBool true : Driver Unit) :=
    .lift (.of_within ignores_aside (.act trivial))
  refine (readRegisters_squares _ _).bind fun _ =>
    (dispatch_squares onOpcodeCmdResponse_squares _ _ _ _).bind fun _ =>
    (dispatch_squares (driverSquares_log _ _) _ _ _ _).bind fun _ =>
    (dispatch_squares message _ _ _ _).bind fun _ =>
    (dispatch_squares charger _ _ _ _).bind fun _ =>
    (dispatch_squares onCcstatChange_squares _ _ _ _).bind fun _ =>
    (dispatch_squares (marked .onCcvcnstatChange _) _ _ _ _).bind fun _ =>
    (dispatch_squares (marked .onCcistatChange _) _ _ _ _).bind fun _ =>
    (dispatch_squares (marked .onCcpinstatChange _) _ _ _ _).bind fun _ => ?_
  exact .ite (none.bind fun _ => .pure _) (.pure _)

/-- A PD message pops the command that it adds. -/
theorem pdMsgResponse_squares : DriverSquares pdMsgResponse := by
  have log (format : String) : Squares (rp2040Log format []) := squares_log format []
  have req : Squares logVdmReq := log _
  have ack : Squares logVdmAck := (log _).bind fun _ => req
  have busy : Squares logVdmBusy := (log _).bind fun _ => ack
  have nak : Squares logVdmNak := (log _).bind fun _ => busy
  have act (pdStatus0 : UInt8) : Squares (actOnPdStatus pdStatus0) :=
    .ite (log _) (.ite ((log _).bind fun _ => squares_addAndPop _ _) (.ite (log _)
      (.ite ((log _).bind fun _ => squares_addAndPop _ _) (.ite nak (.ite busy (.ite ack
        (.ite req (log _))))))))
  exact (readRegisters_squares _ _).bind fun _ => .bind .get fun _ =>
    (driverSquares_log _ _).bind fun _ =>
      Monitor.StatefulKeeps.bind (.lift (act _)) fun _ => .pure _

/-- Whatever core 1 takes from the call queue pops what it adds. -/
theorem call_squares (entry : QueueEntry) (buffers : Buffers) :
    Squares (entry.call buffers >>= fun _ => .done ()) := by
  have returned {program : Firmware Int32} (squares : Squares program) :
      Squares (program >>= fun _ => .done ()) := squares.bind fun _ _ square => square
  have driven {function : Driver Int32} (squares : DriverSquares function) :
      Squares (callDriver buffers function >>= fun _ => .done ()) :=
    returned ((squares buffers).bind fun _ _ square => square)
  have command {function : Driver Int32} (inside : StatefulWithin Aside function) :
      Squares (callDriver buffers function >>= fun _ => .done ()) :=
    driven (.of_within ignores_aside inside)
  have aside {program : Firmware Int32}
      (inside : program.Within fun op => op.Peripheral ∨ op = .strayStore 3) :
      Squares (program >>= fun _ => .done ()) := by
    refine returned (.of_within ignores_aside (inside.mono fun op peripheral => ?_))
    obtain peripheral | rfl := peripheral
    · exact aside_peripheral peripheral
    · exact trivial
  have plain (opcode : UInt8) :
      Squares (callDriver buffers (plainOpcode opcode) >>= fun _ => .done ()) :=
    command (plainOpcode_within transfers_aside opcode)
  obtain ⟨func, data⟩ := entry
  cases func with
  | parseInterruptVals => exact driven parseInterruptVals_squares
  | pdMsgResponse => exact driven pdMsgResponse_squares
  | gpioSet => exact command (gpioSet_within transfers_aside data)
  | customerConfigWrite => exact command (customerConfigWrite_within transfers_aside)
  | bcCtrl1Read => exact plain _
  | bcCtrl2Read => exact plain _
  | control1Read => exact plain _
  | ccCtrl1Read => exact plain _
  | ccCtrl4Read => exact plain _
  | gpioControlRead => exact plain _
  | gpio0Gpio1AdcRead => exact plain _
  | snkPdoRequest => exact command (snkPdoRequest_within transfers_aside)
  | customerConfigRead => exact plain _
  | _ => exact aside (QueueEntry.call_apart buffers _ rfl)

omit [DriverHeader] in
/-- The opcode tests and `max77958_shutdown` pop the command that they add. -/
theorem runOpcode_squares (opcodeFunc : EntryFunc) (opcodeData : Int32) :
    Squares (runOpcode opcodeFunc opcodeData) := by
  have waits : Squares (perform (.await .opcodesFinished)) :=
    .of_within ignores_aside (.act trivial)
  intro here square
  have none : here.owes = true → 0 < here.left := fun owes =>
    Bool.noConfusion (owes.symm.trans square)
  exact Monitor.guards_bind.mpr (guards_add none
    (Monitor.guards_bind.mpr (guards_pop fun _ => waits _ rfl)))

/-- `max77958_init` adds two commands that it does not pop. -/
theorem guards_init (buffers : Buffers) :
    ledger.Guards ⟨2, false⟩ ((initDevice : Driver Unit).run buffers) fun final _ =>
      final.Square := by
  have aside {α β : Type} {here : Ledger} {function : Driver α} {next : α → Driver β}
      {memory : Buffers} {post : Ledger → β × Buffers → Prop}
      (inside : StatefulWithin Aside function)
      (guards : ∀ value reached, ledger.Guards here ((next value).run reached) post) :
      ledger.Guards here ((function >>= next).run memory) post := by
    rw [StateT.run_bind]
    exact Monitor.guards_bind.mpr (ignores_aside.guards (inside memory) fun _ => guards _ _)
  have log (format : String) (args : List LogArg) :
      StatefulWithin Aside (rp2040Log format args : Driver Unit) := .lift (aside_log format args)
  have act (op : Op) (inside : Aside op) : StatefulWithin Aside (perform op : Driver (Ans op)) :=
    .lift (.act inside)
  refine aside (testGetId_within transfers_aside.inspects) fun _ _ =>
    aside (setInterruptMasks_within transfers_aside.inspects) fun _ _ => ?_
  iterate 4 refine aside (act _ trivial) fun _ _ => ?_
  refine aside (.lift (.act trivial)) fun _ _ =>
    aside (readRegisters_within transfers_aside.reads _ _) fun _ _ => ?_
  simp only [StateT.run_bind, StateT.run_monadLift, monadLift_self, Monitor.guards_bind,
    Program.pure_def, Monitor.guards_done]
  refine guards_add (fun owes => Bool.noConfusion owes) ?_
  refine guards_add (fun _ => Nat.zero_lt_two) (guards_add (fun _ => Nat.one_pos) ?_)
  exact guards_pop fun _ => ⟨trivial, fun _ => onCcstatChange_squares _ _ rfl⟩

/-- Every program that a thread is launched on pops what it adds. -/
theorem launched_squares {thread : Thread} {board after : Board} {program : Firmware Unit}
    (launched : Board.launch thread board program after) : Squares program := by
  cases thread with
  | core0 =>
    obtain ⟨_, rfl | ⟨func, _, rfl⟩⟩ := launched
    · exact runOpcode_squares _ _
    · exact runOpcode_squares _ _
  | interrupt =>
    obtain ⟨_, gpio, eventMask, rfl⟩ := launched
    refine .of_within ignores_aside ((robotInterruptHandler_within gpio eventMask).mono ?_)
    rintro op (peripheral | ⟨entry, rfl, _⟩)
    · exact aside_peripheral peripheral
    · exact trivial
  | core1 =>
    obtain ⟨_, entry, rest, buffers, _, _, rfl⟩ := launched
    exact call_squares entry buffers

/-! ## The level -/

/-- A deed that adds nothing does not raise the level. -/
theorem act_level {board after : Board} {duty : Duty} {deed : Deed}
    (apart : ∀ entry added, deed ≠ .addOpcode entry added)
    (acted : board.act duty deed = some after) :
    after.opcodeQueue.length ≤ board.opcodeQueue.length := by
  cases deed with
  | command src =>
    cases duty <;> (obtain rfl := Option.some.inj acted; exact Nat.le_refl _)
  | queue entry added =>
    simp only [Board.act, Option.ite_none_right_eq_some, Option.some.injEq] at acted
    obtain ⟨_, rfl⟩ := acted
    split <;> exact Nat.le_refl _
  | addOpcode entry added => exact absurd rfl (apart entry added)
  | removeOpcode removed =>
    simp only [Board.act, Option.ite_none_right_eq_some, Option.some.injEq] at acted
    obtain ⟨_, rfl⟩ := acted
    exact Nat.le_trans (Nat.le_of_eq List.length_tail) (Nat.sub_le _ _)
  | readInterrupts | readResponse | readPdStatus | seeFinished =>
    simp only [Board.act, Option.ite_none_right_eq_some, Option.some.injEq] at acted
    obtain ⟨_, rfl⟩ := acted
    exact Nat.le_refl _
  | resetQueue =>
    obtain rfl := Option.some.inj acted
    exact Nat.zero_le _
  | _ =>
    obtain rfl := Option.some.inj acted
    exact Nat.le_refl _

/-- Only an addition means one. -/
theorem deed_aside {op : Op} (aside : Aside op) (selected : Option UInt8) (answer : Ans op)
    (entry : QueueEntry) (added : Bool) : deed selected op answer ≠ .addOpcode entry added := by
  intro adds
  unfold deed reading at adds
  split at adds <;> (try split_ifs at adds) <;> first | exact aside | cases adds

/-- Sum up a quantity of the threads. -/
def tally (quantity : Ledger → Nat) (ledgers : Thread → Ledger) : Nat :=
  quantity (ledgers .core0) + quantity (ledgers .interrupt) + quantity (ledgers .core1)

omit [DriverHeader] in
/-- A thread that moves changes the sum by the difference of its own quantities. -/
theorem tally_update (quantity : Ledger → Nat) (ledgers : Thread → Ledger) (thread : Thread)
    (here : Ledger) :
    tally quantity (Function.update ledgers thread here) + quantity (ledgers thread) =
      tally quantity ledgers + quantity here := by
  cases thread <;> simp [tally, Function.update] <;> omega

/-- The level of the opcode queue is covered by the pops that are owed and two more, which are
there for the additions left. -/
structure Covered (board : Board) (ledgers : Thread → Ledger) : Prop where
  /-- Every entry, and every addition left, has a pop that is owed, but for two. -/
  level : board.opcodeQueue.length + tally Ledger.left ledgers ≤
    2 + tally (fun here => here.owes.toNat) ledgers
  /-- At most two additions are left. -/
  left : tally Ledger.left ledgers ≤ 2

omit [DriverHeader] in
/-- A covered queue is far from full. -/
theorem Covered.room {board : Board} {ledgers : Thread → Ledger} (covered : Covered board ledgers) :
    board.opcodeQueue.length < opcodeQueueCapacity := by
  have owing : tally (fun here => here.owes.toNat) ledgers ≤ 1 + 1 + 1 :=
    Nat.add_le_add (Nat.add_le_add (Bool.toNat_le _) (Bool.toNat_le _)) (Bool.toNat_le _)
  have level := covered.level
  change _ < 16
  omega

omit [DriverHeader] in
/-- The queue stays covered when its thread pays for every entry added, and when the queue is empty
afterwards. -/
theorem Covered.moved {thread : Thread} {board after : Board} {ledgers : Thread → Ledger}
    {here : Ledger} (covered : Covered board ledgers) (fewer : here.left ≤ (ledgers thread).left)
    (pays : after.opcodeQueue.length = 0 ∨
      after.opcodeQueue.length + here.left + (ledgers thread).owes.toNat ≤
        board.opcodeQueue.length + (ledgers thread).left + here.owes.toNat) :
    Covered after (Function.update ledgers thread here) := by
  have left := tally_update Ledger.left ledgers thread here
  have owed := tally_update (fun here => here.owes.toNat) ledgers thread here
  have level := covered.level
  have few := covered.left
  exact ⟨by omega, by omega⟩

/-- Every allowed operation keeps the queue covered. -/
theorem covered_exec {thread : Thread} {board after : Board} {op : Op} {answer : Ans op}
    {ledgers : Thread → Ledger} (covered : Covered board ledgers)
    (allowed : (ledgers thread).Allows op) (executed : board.exec thread op answer = some after) :
    Covered after (Function.update ledgers thread ((ledgers thread).next op answer)) := by
  obtain ⟨acted, found, rfl⟩ := Board.exec_cases executed
  by_cases aside : Aside op
  · have same : (ledgers thread).next op answer = ledgers thread :=
      (ignores_aside _ op aside).2 answer
    have level : acted.opcodeQueue.length ≤ board.opcodeQueue.length :=
      act_level (deed_aside aside _ _) found
    refine covered.moved (Nat.le_of_eq (congrArg Ledger.left same)) (.inr ?_)
    rw [same]
    exact Nat.add_le_add_right (Nat.add_le_add_right level _) _
  · cases op with
    | opcodeQueueTryAdd entry =>
      obtain ⟨fewer, pays⟩ := Ledger.add_pays allowed answer
      refine covered.moved fewer (.inr ?_)
      have raised : acted.opcodeQueue.length = board.opcodeQueue.length + Bool.toNat answer := by
        simp only [deed, Board.act, Option.ite_none_right_eq_some, Option.some.injEq] at found
        obtain ⟨_, rfl⟩ := found
        split_ifs with added
        · rw [show answer = true from added]
          exact List.length_append
        · rw [show answer = false from Bool.eq_false_iff.mpr added]
          rfl
      change acted.opcodeQueue.length + ((ledgers thread).add answer).left + _ ≤
        _ + ((ledgers thread).add answer).owes.toNat
      omega
    | opcodeQueueTryRemove =>
      refine covered.moved (Nat.le_refl _) ?_
      have lowered : acted.opcodeQueue.length = board.opcodeQueue.length - 1 := by
        simp only [deed, Board.act, Option.ite_none_right_eq_some, Option.some.injEq] at found
        obtain ⟨_, rfl⟩ := found
        exact List.length_tail
      have owed : (ledgers thread).owes.toNat ≤ 1 := Bool.toNat_le _
      change acted.opcodeQueue.length = 0 ∨ acted.opcodeQueue.length + (ledgers thread).left + _ ≤
        board.opcodeQueue.length + (ledgers thread).left + 0
      omega
    | _ => exact absurd trivial aside

omit [DriverHeader] in
/-- Whatever leaves the queue as it is leaves it covered. -/
theorem Covered.same {board after : Board} {ledgers : Thread → Ledger}
    (covered : Covered board ledgers) (same : after.opcodeQueue = board.opcodeQueue) :
    Covered after ledgers := ⟨same ▸ covered.level, covered.left⟩

/-- A launch does not touch the opcode queue. -/
theorem launch_opcodeQueue {thread : Thread} {board after : Board} {program : Firmware Unit}
    (launched : Board.launch thread board program after) :
    after.opcodeQueue = board.opcodeQueue := by
  cases thread with
  | core0 => exact congrArg Board.opcodeQueue launched.1
  | interrupt => exact congrArg Board.opcodeQueue launched.1
  | core1 =>
    obtain ⟨_, entry, rest, buffers, _, rfl, _⟩ := launched
    unfold Board.dequeue
    split_ifs <;> rfl

/-- The queue is covered in every run. -/
theorem covered_of_reaches {buffers : Buffers} {callQueue : List QueueEntry} {pdStatus0 : UInt8}
    {condition : pipeline.Shared → pipeline.Action → Prop} {config : pipeline.Config}
    (reached : System.Reaches condition (started buffers callQueue pdStatus0) config) :
    ∃ ledgers, Covered config.shared ledgers := by
  let ledgers (thread : Thread) : Ledger := if thread = .core0 then ⟨2, false⟩ else ⟨0, false⟩
  have guarded (thread : Thread) : ledger.Guards (ledgers thread)
      ((started buffers callQueue pdStatus0).programs thread) fun final _ => final.Square := by
    cases thread with
    | core0 => exact Monitor.guards_bind.mpr (guards_init buffers)
    | interrupt => exact rfl
    | core1 => exact rfl
  have initially : Covered (Board.start callQueue pdStatus0) ledgers :=
    ⟨Nat.le_refl _, Nat.le_refl _⟩
  obtain ⟨final, covered, _⟩ := System.supervised Covered launched_squares covered_exec
    (fun covered launched => covered.same (launch_opcodeQueue launched))
    (fun covered drifted => covered.same (by cases drifted <;> rfl)) guarded initially reached
  exact ⟨final, covered⟩

/-- In every run the opcode queue holds fewer entries than its capacity, so every addition
succeeds. -/
theorem opcode_queue_has_room {buffers : Buffers} {callQueue : List QueueEntry} {pdStatus0 : UInt8}
    {config : pipeline.Config} (reached : System.Reaches (fun _ _ => True)
      (started buffers callQueue pdStatus0) config) :
    (Board.opcodeQueue config.shared).length < opcodeQueueCapacity ∧
      ∀ (thread : Thread) (entry : QueueEntry) (added : Bool) (next : pipeline.Config),
        System.Step config (.perform thread (.opcodeQueueTryAdd entry) added) next →
          added = true := by
  obtain ⟨ledgers, covered⟩ := covered_of_reaches reached
  refine ⟨covered.room, fun thread entry added next taken => ?_⟩
  cases taken with
  | perform free running answered =>
    obtain ⟨acted, found, _⟩ := Board.exec_cases answered
    simp only [deed, Board.act, Option.ite_none_right_eq_some] at found
    exact found.1.trans (decide_eq_true covered.room)

end Driver

/-- When `max77958_init` has returned, two of its commands wait in the opcode queue. -/
theorem opcode_queue_has_room_initialised :
    let _ := sampleHeader
    ∃ config : pipeline.Config, System.Reaches (fun _ _ => True) (started .zero [] 0) config ∧
      (Board.opcodeQueue config.shared).length = 2 ∧
        (Board.opcodeQueue config.shared).length < opcodeQueueCapacity := by
  intro header
  obtain ⟨board, played, level⟩ := Option.map_eq_some_iff.mp (show (boardAfter (fun _ _ _ => True)
      (core0 .calm) (sharingStarted .zero [] 0)).map (fun board => board.opcodeQueue.length) =
        some 2 by decide +kernel)
  obtain ⟨config, rfl, reached⟩ := boardAfter_reaches played
  obtain ⟨_, own, projects, reached⟩ := projects_of_reaches reached
  have reached : pipeline.Reaches (fun _ _ => True) _ own := reached.mono fun _ _ _ => trivial
  exact ⟨own, reached, projects.board ▸ level, (opcode_queue_has_room reached).1⟩

end TypeC

end RobotFirmware
