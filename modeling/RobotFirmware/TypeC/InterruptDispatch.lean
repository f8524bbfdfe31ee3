import RobotFirmware.Footprint

/-!
# The dispatch of MAX77958 interrupts

`parse_interrupt_vals` reads the interrupt registers into `return_buf` and tests them there,
while the handlers of charger type and CC state refill the same buffer. The handlers that run
are therefore those of the bytes that the buffer holds at each test, which are the bytes read
at the start only under a condition on the registers.
-/

namespace RobotFirmware

open Interaction

namespace Max77958

/-! ## What the interrupt registers ask for -/

/-- The outcomes of the tests of `parse_interrupt_vals`. -/
structure Raised where
  /-- The response to a command is pending. -/
  apCmdResI : Bool
  /-- The power source is ready. -/
  psrdyi : Bool
  /-- A PD message arrived. -/
  pdMsgI : Bool
  /-- The charger type changed. -/
  chgType : Bool
  /-- The CC state changed. -/
  ccStat : Bool
  /-- VCONN changed. -/
  ccVcnStatI : Bool
  /-- The CC current changed. -/
  ccIStatI : Bool
  /-- The CC pin changed. -/
  ccPinStatI : Bool
  deriving DecidableEq

/-- A bit of a register is set. -/
def raises (register mask : UInt8) : Bool := register &&& mask ≠ 0

/-- The outcomes for the bytes tested, of which the CC byte may change once its first bit has
been tested. -/
def raisedBy (uic pd ccFirst ccLater : UInt8) : Raised where
  apCmdResI := raises uic apCmdResIMask
  psrdyi := raises pd psrdyiMask
  pdMsgI := raises pd pdMsgIMask
  chgType := raises uic chgTypeMask
  ccStat := raises ccFirst ccStatMask
  ccVcnStatI := raises ccLater ccVcnStatIMask
  ccIStatI := raises ccLater ccIStatIMask
  ccPinStatI := raises ccLater ccPinStatIMask

/-- What the interrupt registers ask for. -/
def snapshot (interrupts : Vector UInt8 4) : Raised :=
  raisedBy interrupts[0] interrupts[2] interrupts[1] interrupts[1]

namespace Raised

/-- The call of a handler if its bit is set. -/
def callIf (raised : Bool) (call : Call) : List Call := if raised then [call] else []

/-- The handlers to run, in the order of the tests. -/
def calls (raised : Raised) : List Call :=
  callIf raised.apCmdResI .onOpcodeCmdResponse ++ callIf raised.pdMsgI .onPdMsgReceived ++
    callIf raised.chgType .onChgtypeChange ++ callIf raised.ccStat .onCcstatChange ++
    callIf raised.ccVcnStatI .onCcvcnstatChange ++ callIf raised.ccIStatI .onCcistatChange ++
    callIf raised.ccPinStatI .onCcpinstatChange

/-- A bit of the result, if it is to be set. -/
def bitIf (raised : Bool) (bit returnVal : UInt16) : UInt16 :=
  if raised then returnVal ||| bit else returnVal

/-- The result with the bits of all tests. -/
def returnVal (raised : Raised) : UInt16 :=
  bitIf raised.ccPinStatI ((1 : UInt16) <<< 7) <| bitIf raised.ccIStatI ((1 : UInt16) <<< 6) <|
    bitIf raised.ccVcnStatI ((1 : UInt16) <<< 5) <| bitIf raised.ccStat ((1 : UInt16) <<< 4) <|
    bitIf raised.chgType ((1 : UInt16) <<< 3) <| bitIf raised.pdMsgI ((1 : UInt16) <<< 2) <|
    bitIf raised.psrdyi ((1 : UInt16) <<< 1) <| bitIf raised.apCmdResI ((1 : UInt16) <<< 0) 0

/-- The result as it is returned. -/
def result (raised : Raised) : Int32 := raised.returnVal.toUInt32.toInt32

/-- The outcomes whose handlers are in a list. -/
def ofCalls (psrdyi : Bool) (calls : List Call) : Raised where
  apCmdResI := .onOpcodeCmdResponse ∈ calls
  psrdyi := psrdyi
  pdMsgI := .onPdMsgReceived ∈ calls
  chgType := .onChgtypeChange ∈ calls
  ccStat := .onCcstatChange ∈ calls
  ccVcnStatI := .onCcvcnstatChange ∈ calls
  ccIStatI := .onCcistatChange ∈ calls
  ccPinStatI := .onCcpinstatChange ∈ calls

/-- The handlers that run tell the outcomes. -/
theorem ofCalls_calls (raised : Raised) : ofCalls raised.psrdyi raised.calls = raised := by
  simp [ofCalls, calls, callIf]

/-- Outcomes with the same handlers are the same, but for the one without a handler. -/
theorem eq_of_calls {first second : Raised} (power : first.psrdyi = second.psrdyi)
    (same : first.calls = second.calls) : first = second := by
  rw [← ofCalls_calls first, ← ofCalls_calls second, power, same]

end Raised

/-! ## What the dispatch sees -/

/-- The CC byte at its first test: reading `BC_STATUS` cleared it. -/
def ccAtFirstTest (interrupts : Vector UInt8 4) : UInt8 :=
  if raises interrupts[0] chgTypeMask then 0 else interrupts[1]

/-- The CC byte at the later tests: `on_ccstat_change` left `CC_STATUS1` in its place. -/
def ccAtLaterTests (interrupts : Vector UInt8 4) (ccStatus1 : UInt8) : UInt8 :=
  if raises (ccAtFirstTest interrupts) ccStatMask then ccStatus1 else ccAtFirstTest interrupts

/-- The outcomes of the tests as they are made. -/
def seen (interrupts : Vector UInt8 4) (ccStatus1 : UInt8) : Raised :=
  raisedBy interrupts[0] interrupts[2] (ccAtFirstTest interrupts)
    (ccAtLaterTests interrupts ccStatus1)

/-- The registers under which refilling the buffer does no harm: when the charger type changed,
no CC bit is set, and when the CC state changed, `CC_STATUS1` happens to repeat the CC bits. -/
structure Undisturbed (interrupts : Vector UInt8 4) (ccStatus1 : UInt8) : Prop where
  /-- After a change of the charger type nothing of the CC byte is left. -/
  charger : raises interrupts[0] chgTypeMask = true →
    ∀ mask ∈ [ccStatMask, ccVcnStatIMask, ccIStatIMask, ccPinStatIMask],
      raises interrupts[1] mask = false
  /-- After a change of the CC state `CC_STATUS1` is tested instead of the CC byte. -/
  state : raises interrupts[0] chgTypeMask = false → raises interrupts[1] ccStatMask = true →
    ∀ mask ∈ [ccVcnStatIMask, ccIStatIMask, ccPinStatIMask],
      raises ccStatus1 mask = raises interrupts[1] mask

/-- A byte of zeros raises nothing. -/
theorem raises_zero (mask : UInt8) : raises 0 mask = false := by simp [raises]

/-- The dispatch sees the snapshot exactly under undisturbed registers. -/
theorem seen_eq_snapshot_iff (interrupts : Vector UInt8 4) (ccStatus1 : UInt8) :
    seen interrupts ccStatus1 = snapshot interrupts ↔ Undisturbed interrupts ccStatus1 := by
  constructor
  · intro same
    simp only [seen, snapshot, raisedBy, Raised.mk.injEq, true_and] at same
    obtain ⟨first, vconn, current, pin⟩ := same
    constructor
    · intro charger
      simp only [ccAtLaterTests, ccAtFirstTest, charger, if_true, raises_zero, Bool.false_eq_true,
        if_false] at first vconn current pin
      simp [← first, ← vconn, ← current, ← pin]
    · intro charger state
      simp only [ccAtLaterTests, ccAtFirstTest, charger, state, Bool.false_eq_true, if_false,
        if_true] at vconn current pin
      simp [vconn, current, pin]
  · rintro ⟨charger, state⟩
    simp only [seen, snapshot, raisedBy, Raised.mk.injEq, true_and]
    by_cases changed : raises interrupts[0] chgTypeMask = true
    · have clear := charger changed
      simp only [List.forall_mem_cons, List.not_mem_nil, false_implies, implies_true,
        and_true] at clear
      simp [ccAtLaterTests, ccAtFirstTest, changed, raises_zero, clear]
    · have kept : ccAtFirstTest interrupts = interrupts[1] := if_neg changed
      by_cases moved : raises interrupts[1] ccStatMask = true
      · have repeated := state (by simpa using changed) moved
        simp only [List.forall_mem_cons, List.not_mem_nil, false_implies, implies_true,
          and_true] at repeated
        simp [ccAtLaterTests, kept, moved, repeated]
      · simp [ccAtLaterTests, kept, moved]

/-! ## What a trace shows -/

/-- What the registers held when they were read, and which handlers ran. -/
structure Record where
  /-- The register that the next read starts from. -/
  selected : Option UInt8
  /-- The interrupt registers. -/
  interrupts : Option (Vector UInt8 4)
  /-- `CC_STATUS0` and `CC_STATUS1`. -/
  ccStatus : Option (Vector UInt8 2)
  /-- The handlers in the order of their calls. -/
  calls : List Call

namespace Record

/-- Nothing has been read or called. -/
def start : Record := ⟨none, none, none, []⟩

/-- `CC_STATUS1`, if it was read. -/
def ccStatus1 (record : Record) : UInt8 := (record.ccStatus.map fun bytes => bytes.get
    ⟨1, Nat.one_lt_two⟩).getD 0

/-- Bytes were read from the selected register on. -/
def read (record : Record) : {len : Nat} → Vector UInt8 len → Record
  | 4, bytes =>
    if record.selected = some regUicInt then { record with interrupts := some bytes } else record
  | 2, bytes =>
    if record.selected = some regCcStatus0 then { record with ccStatus := some bytes } else record
  | _, _ => record

/-- What an answered operation adds. -/
def next (record : Record) : (op : Op) → Ans op → Record
  | .i2cWriteTimeoutUs _ _ src _, result =>
    if 0 ≤ result then { record with selected := src.head? } else record
  | .i2cReadTimeoutUs .., (result, bytes) => if 0 ≤ result then record.read bytes else record
  | .enter call, _ => { record with calls := record.calls ++ [call] }
  | _, _ => record

end Record

/-- Records a run and allows everything. -/
abbrev recorder : Monitor Ans := ⟨Record, fun _ _ => True, Record.next⟩

/-- The record of a trace. -/
def recordOf (trace : List (Event Ans)) : Record := recorder.after Record.start trace

/-- The recorder does not see routine operations. -/
theorem recorder_ignores_routine : recorder.Ignores Op.Routine := by
  intro record op routine
  cases op <;> first | exact ⟨trivial, fun _ => rfl⟩ | exact routine.elim

/-- The recorder does not see the queues. -/
theorem recorder_ignores_queueing : recorder.Ignores Op.Queueing := by
  intro record op queueing
  cases op <;> first | exact ⟨trivial, fun _ => rfl⟩ | exact queueing.elim

variable {record : Record} {buffers : Buffers}

/-- Logging and queueing are not recorded. -/
theorem guards_queueing {program : Firmware Unit} {post : Record → Unit → Prop}
    (inside : program.Within Op.Queueing) (holds : post record ()) :
    recorder.Guards record program post :=
  recorder_ignores_queueing.guards inside fun _ => holds

/-- Neither the CC status was read nor the buffer changed. -/
def Kept (before : Record) (buffers : Buffers) (_ : Bool) (after : Record)
    (left : Buffers) : Prop :=
  after.ccStatus = before.ccStatus ∧ left.returnBuf = buffers.returnBuf

/-- The CC byte is zero behind the byte of `BC_STATUS`. -/
def Cleared (before : Record) (buffers : Buffers) (raised : Bool) (after : Record)
    (left : Buffers) : Prop :=
  after.ccStatus = before.ccStatus ∧
    left.returnBuf.get ccInt = (if raised then 0 else buffers.returnBuf.get ccInt : UInt8)

/-- `CC_STATUS1` stands in the place of the CC byte. -/
def Replaced (buffers : Buffers) (raised : Bool) (after : Record) (left : Buffers) : Prop :=
  left.returnBuf.get ccInt = if raised then after.ccStatus1 else buffers.returnBuf.get ccInt

/-- A handler ran: its call is recorded, and the interrupt registers were not read again. -/
structure Handled (handlers : List Call) (before after : Record) : Prop where
  /-- The interrupt registers were not read. -/
  interrupts : after.interrupts = before.interrupts
  /-- The calls are recorded. -/
  calls : after.calls = before.calls ++ handlers

/-- A handler that only logs. -/
theorem guards_marked (call : Call) (message : String) :
    recorder.Guards record
      (StateT.run (do perform (.enter call); rp2040Log message [] : Driver Unit) buffers)
      fun final value => Handled [call] record final ∧ Kept record buffers true final value.2 :=
  ⟨trivial, fun _ => ⟨trivial, fun _ => ⟨⟨rfl, rfl⟩, rfl, rfl⟩⟩⟩

/-- A PD message is only queued. -/
theorem guards_onPdMsgReceived :
    recorder.Guards record ((onPdMsgReceived : Driver Unit).run buffers) fun final value =>
      Handled [.onPdMsgReceived] record final ∧ Kept record buffers true final value.2 := by
  simp only [onPdMsgReceived, StateT.run_bind, StateT.run_monadLift, monadLift_self,
    Monitor.guards_bind, Monitor.guards_act, true_and, Program.pure_def, Monitor.guards_done]
  exact fun _ _ => guards_queueing (callQueueTryAdd_within _ _) ⟨⟨rfl, rfl⟩, rfl, rfl⟩

/-- Nothing is called when the power source is ready. -/
theorem guards_powerReady :
    recorder.Guards record
      (StateT.run (rp2040Log "Power source ready\n" [] : Driver Unit) buffers) fun final value =>
      Handled [] record final ∧ Kept record buffers true final value.2 :=
  ⟨trivial, fun _ => ⟨⟨rfl, (List.append_nil _).symm⟩, rfl, rfl⟩⟩

/-- A test of the byte that the buffer holds at this point, with what its handler does. -/
theorem guards_dispatch {reg : Fin 33} {mask : UInt8} {handler : Driver Unit} {calls : List Call}
    {effect : Bool → Record → Buffers → Prop} {bit returnVal : UInt16}
    {post : Record → UInt16 × Buffers → Prop}
    (handled : recorder.Guards record (handler.run buffers) fun final value =>
      Handled calls record final ∧ effect true final value.2)
    (skipped : effect false record buffers)
    (holds : ∀ (raised : Bool) (final : Record) (after : Buffers),
      raised = raises (buffers.returnBuf.get reg) mask →
      Handled (if raised then calls else []) record final → effect raised final after →
      post final (Raised.bitIf raised bit returnVal, after)) :
    recorder.Guards record ((dispatch reg mask handler bit returnVal : Driver UInt16).run buffers)
      post := by
  simp only [dispatch, StateT.run_bind, run_returnByte, Monitor.guards_bind, Monitor.guards_done,
    Monitor.guards_run_ite]
  split_ifs with set
  · refine handled.mono fun final value ended => ?_
    exact holds true final value.2 (decide_eq_true set).symm ended.1 ended.2
  · exact holds false record buffers (decide_eq_false set).symm
      ⟨rfl, (List.append_nil _).symm⟩ skipped

section Driver

variable [DriverHeader]

/-- A write selects its first byte. -/
theorem guards_writeSendBuf {len : Nat} {nostop : Bool} {post : Record → Unit × Buffers → Prop}
    (holds : post { record with selected := (buffers.sendBuf.toList.take len).head? }
      ((), buffers)) :
    recorder.Guards record ((writeSendBuf len nostop : Driver Unit).run buffers) post := by
  simp only [writeSendBuf, StateT.run_bind, StateT.run_get, StateT.run_monadLift, monadLift_self,
    Monitor.guards_bind, Program.pure_def, Monitor.guards_done]
  refine guards_i2cWriteErrorHandling recorder_ignores_routine trivial ?_ ?_
  · exact fun result failed => if_neg (Int.not_le.mpr failed)
  · intro result written
    simpa [Record.next, written] using holds

/-- A read returns what the record notes. -/
theorem guards_read {len : Nat} {post : Record → Vector UInt8 len → Prop}
    (holds : ∀ bytes, post (record.read bytes) bytes) :
    recorder.Guards record (i2cReadErrorHandling .i2c0 DriverHeader.slaveP1 len false) post := by
  refine guards_i2cReadErrorHandling recorder_ignores_routine trivial ?_ ?_
  · exact fun result bytes failed => if_neg (Int.not_le.mpr failed)
  · intro result bytes obtained
    simpa only [Record.next, obtained, if_true] using holds bytes

/-- Registers are read into a cleared buffer. -/
theorem guards_readRegisters {reg : UInt8} {len : Nat} {post : Record → Unit × Buffers → Prop}
    (holds : ∀ (bytes : Vector UInt8 len) (final : Buffers),
      final.returnBuf = overwrite (.replicate 33 0) bytes →
      post (Record.read { record with selected := some reg } bytes) ((), final)) :
    recorder.Guards record ((readRegisters reg len : Driver Unit).run buffers) post := by
  simp only [readRegisters, clearSendBuf, clearReturnBuf, setSend, StateT.run_bind, pure_bind,
    StateT.run_modify, Monitor.guards_bind]
  refine guards_writeSendBuf ?_
  simp only [readReturnBuf, StateT.run_bind, StateT.run_monadLift, StateT.run_modify,
    monadLift_self, Monitor.guards_bind, Program.pure_def, Monitor.guards_done]
  exact guards_read fun bytes => holds bytes _ rfl

/-- The response to a command is read into a buffer of its own. -/
theorem guards_onOpcodeCmdResponse :
    recorder.Guards record ((onOpcodeCmdResponse : Driver Unit).run buffers) fun final value =>
      Handled [.onOpcodeCmdResponse] record final ∧ Kept record buffers true final value.2 := by
  simp only [onOpcodeCmdResponse, opcodeRead, clearSendBuf, setSend, StateT.run_bind,
    StateT.run_monadLift, StateT.run_modify, monadLift_self, bind_assoc, Monitor.guards_bind,
    Monitor.guards_act, true_and, Program.pure_def, Monitor.guards_done]
  refine fun _ => guards_writeSendBuf (guards_read fun bytes => fun _ _ => ?_)
  refine recorder_ignores_queueing.guards opcodeQueuePop_within fun popped => ?_
  cases popped with
  | true => exact ⟨⟨rfl, rfl⟩, rfl, rfl⟩
  | false => exact ⟨trivial, fun _ => ⟨⟨rfl, rfl⟩, rfl, rfl⟩⟩

/-- A change of the charger type leaves zeros behind the byte of `BC_STATUS`. -/
theorem guards_onChgtypeChange :
    recorder.Guards record ((onChgtypeChange : Driver Unit).run buffers) fun final value =>
      Handled [.onChgtypeChange] record final ∧ Cleared record buffers true final value.2 := by
  simp only [onChgtypeChange, StateT.run_bind, StateT.run_monadLift, monadLift_self, run_returnByte,
    Monitor.guards_bind, Monitor.guards_act, true_and, Program.pure_def, Monitor.guards_done]
  refine fun _ _ => guards_readRegisters fun bytes final filled => fun _ => ?_
  have zero : final.returnBuf[1] = 0 := by simp [filled, overwrite]
  exact ⟨⟨rfl, rfl⟩, rfl, zero⟩

/-- A change of the CC state leaves `CC_STATUS1` in the place of the CC byte. -/
theorem guards_onCcstatChange :
    recorder.Guards record ((onCcstatChange : Driver Unit).run buffers) fun final value =>
      Handled [.onCcstatChange] record final ∧ Replaced buffers true final value.2 := by
  simp only [onCcstatChange, StateT.run_bind, StateT.run_monadLift, monadLift_self, run_returnByte,
    Monitor.guards_bind, Monitor.guards_act, true_and, Program.pure_def, Monitor.guards_done]
  refine fun _ _ => guards_readRegisters fun bytes final filled => fun _ _ _ _ => ?_
  have second : final.returnBuf[1] = bytes[1] := by simp [filled, overwrite]
  refine guards_queueing (actOnCcStat_within _) ?_
  iterate 5 refine guards_queueing (logFault_within _ _ _) ?_
  exact ⟨⟨rfl, rfl⟩, second⟩

/-- The dispatch runs the handlers that it sees raised and returns their bits. -/
theorem guards_parseInterruptVals :
    recorder.Guards Record.start ((parseInterruptVals : Driver Int32).run buffers) fun final
      value =>
      ∃ interrupts, final.interrupts = some interrupts ∧
        final.calls = (seen interrupts final.ccStatus1).calls ∧
        value.1 = (seen interrupts final.ccStatus1).result := by
  simp only [parseInterruptVals, getInterruptVals, StateT.run_bind, Monitor.guards_bind]
  refine guards_readRegisters fun interrupts buf read => ?_
  refine guards_dispatch guards_onOpcodeCmdResponse ⟨rfl, rfl⟩
    fun response record1 buf1 tested1 handled1 kept1 => ?_
  refine guards_dispatch guards_powerReady ⟨rfl, rfl⟩
    fun power record2 buf2 tested2 handled2 kept2 => ?_
  refine guards_dispatch guards_onPdMsgReceived ⟨rfl, rfl⟩
    fun message record3 buf3 tested3 handled3 kept3 => ?_
  refine guards_dispatch guards_onChgtypeChange ⟨rfl, rfl⟩
    fun charger record4 buf4 tested4 handled4 kept4 => ?_
  refine guards_dispatch guards_onCcstatChange rfl
    fun state record5 buf5 tested5 handled5 kept5 => ?_
  refine guards_dispatch (guards_marked _ _) ⟨rfl, rfl⟩
    fun vconn record6 buf6 tested6 handled6 kept6 => ?_
  refine guards_dispatch (guards_marked _ _) ⟨rfl, rfl⟩
    fun current record7 buf7 tested7 handled7 kept7 => ?_
  refine guards_dispatch (guards_marked _ _) ⟨rfl, rfl⟩
    fun pin record8 buf8 tested8 handled8 kept8 => ?_
  dsimp only at *
  generalize noted : Record.read _ interrupts = record0 at handled1 kept1
  have uncalled : record0.calls = [] := by rw [← noted]; rfl
  have interrupted : record0.interrupts = some interrupts := by rw [← noted]; rfl
  let raised : Raised := ⟨response, power, message, charger, state, vconn, current, pin⟩
  have byte (reg : Fin 33) (inside : reg.val < 4) : buf.returnBuf.get reg =
      interrupts[reg.val] := by
    simp [Vector.get, read, overwrite, inside]
  have uic : buf.returnBuf.get uicInt = interrupts[0] := byte 0 (by decide)
  have cc : buf.returnBuf.get ccInt = interrupts[1] := byte 1 (by decide)
  have pd : buf.returnBuf.get pdInt = interrupts[2] := byte 2 (by decide)
  -- the buffer is untouched up to the charger handler
  have before : buf3.returnBuf = buf.returnBuf := kept3.2.trans (kept2.2.trans kept1.2)
  have first : buf4.returnBuf.get ccInt = ccAtFirstTest interrupts := by
    have charged : charger = raises interrupts[0] chgTypeMask := by rw [tested4, before, uic]
    rw [ccAtFirstTest, ← charged, ← cc, ← before]
    exact kept4.2
  have later : buf5.returnBuf.get ccInt = ccAtLaterTests interrupts record8.ccStatus1 := by
    have status : record8.ccStatus1 = record5.ccStatus1 := by
      simp only [Record.ccStatus1, kept8.1, kept7.1, kept6.1]
    rw [ccAtLaterTests, ← first, ← tested5, status]
    exact kept5
  have saw : raised = seen interrupts record8.ccStatus1 := by
    simp only [raised, seen, raisedBy, Raised.mk.injEq]
    refine ⟨by rw [tested1, uic], by rw [tested2, kept1.2, pd],
      by rw [tested3, kept2.2, kept1.2, pd], by rw [tested4, before, uic],
      by rw [tested5, first], by rw [tested6, later],
      by rw [tested7, kept6.2, later], by rw [tested8, kept7.2, kept6.2, later]⟩
  have calls : record8.calls = raised.calls := by
    simp only [handled8.calls, handled7.calls, handled6.calls, handled5.calls, handled4.calls,
      handled3.calls, handled2.calls, handled1.calls, uncalled, ite_self, List.append_nil,
      List.nil_append]
    rfl
  have unread : record8.interrupts = record0.interrupts := by
    rw [handled8.interrupts, handled7.interrupts, handled6.interrupts, handled5.interrupts,
      handled4.interrupts, handled3.interrupts, handled2.interrupts, handled1.interrupts]
  have ends : ∃ bytes, record8.interrupts = some bytes ∧
      record8.calls = (seen bytes record8.ccStatus1).calls ∧
      raised.result = (seen bytes record8.ccStatus1).result :=
    ⟨interrupts, unread.trans interrupted, by rw [calls, saw], by rw [saw]⟩
  refine Monitor.guards_run_ite.mpr ?_
  split_ifs
  · exact ⟨trivial, fun _ => ends⟩
  · exact ends

/-- The handlers that run and the returned bits are those of the bytes read at the start exactly
when refilling the buffer did no harm. -/
theorem dispatch_exact_iff {trace : List (Event Ans)} {result : Int32} {left : Buffers}
    (run : ((parseInterruptVals : Driver Int32).run buffers).Runs trace (.done (result, left))) :
    ∃ interrupts, (recordOf trace).interrupts = some interrupts ∧
      ((recordOf trace).calls = (snapshot interrupts).calls ∧
          result = (snapshot interrupts).result ↔
        Undisturbed interrupts (recordOf trace).ccStatus1) := by
  obtain ⟨interrupts, read, calls, returned⟩ := guards_parseInterruptVals.ends run
  refine ⟨interrupts, read, ?_⟩
  change (recordOf trace).calls = _ at calls
  change result = (seen interrupts (recordOf trace).ccStatus1).result at returned
  rw [calls, returned, ← seen_eq_snapshot_iff]
  constructor
  · exact fun same => Raised.eq_of_calls rfl same.1
  · exact fun same => ⟨congrArg _ same, congrArg _ same⟩

end Driver

/-! ## Runs -/

/-- A chip with the given interrupt and CC status registers, whose other registers are zero. -/
def chip (interrupts : Vector UInt8 4) (ccStatus : Vector UInt8 2) (_ : Unit) :
    (op : Op) → Option (Ans op × Unit)
  | .i2cWriteTimeoutUs _ _ src _ => some (src.length, ())
  | .i2cReadTimeoutUs _ _ 4 _ => some ((4, interrupts), ())
  | .i2cReadTimeoutUs _ _ 2 _ => some ((2, ccStatus), ())
  | .i2cReadTimeoutUs _ _ len _ => some ((len, .replicate len 0), ())
  | .callQueueTryAdd _ => some (true, ())
  | .opcodeQueueTryAdd _ => some (true, ())
  | .opcodeQueueTryRemove => some (none, ())
  | .opcodeQueueGetLevel => some (0, ())
  | .rp2040Log .. => some ((), ())
  | .enter _ => some ((), ())
  | .store .. => some ((), ())
  | .cexceptionTry => some ((), ())
  | .storeOpCodeReturnBuf _ => some ((), ())
  | _ => none

/-- A run of `parse_interrupt_vals` on a chip. -/
def parsed (interrupts : Vector UInt8 4) (ccStatus : Vector UInt8 2) :
    List (Event Ans) × Firmware (Int32 × Buffers) × Unit :=
  let _ := sampleHeader
  ((parseInterruptVals : Driver Int32).run .zero).drive (chip interrupts ccStatus) ()

/-- A response and a VCONN change together are dispatched as they were read. -/
theorem dispatch_exact_iff_vconn :
    let found := recordOf (parsed #v[0x80, 0x02, 0, 0] #v[0, 0]).1
    found.calls = [.onOpcodeCmdResponse, .onCcvcnstatChange] ∧
      ∃ interrupts, found.interrupts = some interrupts ∧
        (found.calls = (snapshot interrupts).calls ∧ 33 = (snapshot interrupts).result ↔
          Undisturbed interrupts found.ccStatus1) := by
  let _ := sampleHeader
  refine ⟨by decide, ?_⟩
  obtain ⟨left, ended⟩ : ∃ left, (parsed #v[0x80, 0x02, 0, 0] #v[0, 0]).2.1 = .done (33, left) :=
    ⟨_, rfl⟩
  have run := Program.drive_runs (chip #v[0x80, 0x02, 0, 0] #v[0, 0]) ()
    ((parseInterruptVals : Driver Int32).run .zero)
  exact dispatch_exact_iff (ended ▸ run)

/-- When the charger type and the CC state change together, the handler of the CC state does not
run. -/
theorem dispatch_disturbed :
    ¬ ∀ [DriverHeader] (buffers left : Buffers) (trace : List (Event Ans)) (result : Int32)
        (interrupts : Vector UInt8 4),
      ((parseInterruptVals : Driver Int32).run buffers).Runs trace (.done (result, left)) →
      (recordOf trace).interrupts = some interrupts →
      (recordOf trace).calls = (snapshot interrupts).calls ∧
        result = (snapshot interrupts).result := by
  intro dispatches
  let _ := sampleHeader
  obtain ⟨left, ended⟩ : ∃ left, (parsed #v[0x02, 0x01, 0, 0] #v[0, 0]).2.1 = .done (8, left) :=
    ⟨_, rfl⟩
  have run := Program.drive_runs (chip #v[0x02, 0x01, 0, 0] #v[0, 0]) ()
    ((parseInterruptVals : Driver Int32).run .zero)
  have dispatched := dispatches .zero left _ 8 #v[0x02, 0x01, 0, 0] (ended ▸ run) rfl
  exact absurd dispatched.2 (by decide)

end Max77958

end RobotFirmware
