import RobotFirmware.Readout
import RobotFirmware.Serial.Replies

/-!
# Calls of `get_block` that complete

A call of `get_block` stops at an assertion when an exchange fails in all its attempts, or when a
motor driver shows its fault bit after the command to clear it. A monitor follows the buses and
allows an assertion only then, and only while a packet is being handled. Every call that can go no
further has therefore returned, or its buses hindered it.
-/

namespace RobotFirmware

open Interaction
open Drv8830 (Motor)

/-! ## What the buses answer -/

/-- What the buses have answered. -/
structure Buses where
  /-- The transfers that have failed since the last one that succeeded. -/
  failures : Nat
  /-- The motor driver that has been told to clear its fault register, until it is read. -/
  cleared : Option UInt8
  /-- A fault bit has been read as set after it had been cleared. -/
  persists : Bool
  deriving DecidableEq

namespace Buses

/-- Nothing has been transferred. -/
def quiet : Buses := ⟨0, none, false⟩

/-- Whether a write tells a motor driver to clear its fault register. -/
def clears (i2c : I2c) (addr : UInt8) (src : List UInt8) : Bool :=
  decide (i2c = .i2c0 ∧ (addr = Drv8830.motorLeftAddress ∨ addr = Drv8830.motorRightAddress) ∧
    src = [Drv8830.regFault, Drv8830.clearBit])

/-- The buses after a write. -/
def wrote (buses : Buses) (i2c : I2c) (addr : UInt8) (src : List UInt8) (result : Int) : Buses :=
  if 0 ≤ result then
    { buses with
      failures := 0
      cleared := if clears i2c addr src then some addr else buses.cleared }
  else { buses with failures := buses.failures + 1 }

/-- The buses after a read. -/
def got (buses : Buses) (i2c : I2c) (addr : UInt8) (result : Int) (bytes : List UInt8) : Buses :=
  if 0 ≤ result then
    if i2c = .i2c0 ∧ buses.cleared = some addr then
      ⟨0, none, buses.persists || decide (bytes.headD 0 &&& 1 ≠ 0)⟩
    else { buses with failures := 0 }
  else { buses with failures := buses.failures + 1 }

/-- The buses after an answered operation. -/
def next (buses : Buses) : (op : Op) → Ans op → Buses
  | .i2cWriteTimeoutUs i2c addr src _, (result : Int) => buses.wrote i2c addr src result
  | .i2cReadTimeoutUs i2c addr _ _, answer => buses.got i2c addr answer.1 answer.2.toList
  | _, _ => buses

/-- The buses after a trace. -/
def after (buses : Buses) (trace : List (Event Ans)) : Buses :=
  trace.foldl (fun buses event => buses.next event.op event.answer) buses

/-- An exchange has failed in all its attempts, or a fault persists. -/
def Hinder (buses : Buses) : Prop := maxRetries ≤ buses.failures ∨ buses.persists = true

instance (buses : Buses) : Decidable buses.Hinder := inferInstanceAs (Decidable (_ ∨ _))

end Buses

/-- In a trace no exchange fails in all its attempts, and no motor driver shows its fault bit
after the command to clear it. -/
def Unhindered (trace : List (Event Ans)) : Prop := ¬ (Buses.quiet.after trace).Hinder

/-! ## The monitor -/

/-- How far a call has come. -/
structure Passage where
  /-- The outcomes that have been produced. -/
  handed : List Outcome
  /-- An event has been read since. -/
  pending : Bool
  /-- What the buses have answered. -/
  buses : Buses

namespace Passage

/-- A call begins. -/
def start : Passage := ⟨[], false, .quiet⟩

/-- The passage after an answered operation. -/
def next (passage : Passage) (op : Op) (answer : Ans op) : Passage where
  handed := passage.handed ++ op.outcome?.toList
  pending := (op.input? answer).isSome || (passage.pending && op.outcome?.isNone)
  buses := passage.buses.next op answer

/-- An assertion fails only when the buses hinder a single outcome. -/
def allows (passage : Passage) : Op → Prop
  | .assertFalse =>
    passage.buses.Hinder ∧ passage.pending = false ∧ ∃ outcome, passage.handed = [outcome]
  | _ => True

/-- The monitor of completion. -/
abbrev monitor : Monitor Ans := ⟨Passage, allows, next⟩

/-- The passage shows what the trace does. -/
theorem after_eq (passage : Passage) (trace : List (Event Ans)) :
    (monitor.after passage trace).handed = passage.handed ++ handovers trace ∧
      (monitor.after passage trace).buses = passage.buses.after trace := by
  induction trace generalizing passage with
  | nil => exact ⟨(List.append_nil _).symm, rfl⟩
  | cons event trace ih =>
    obtain ⟨handed, buses⟩ := ih (passage.next event.op event.answer)
    refine ⟨handed.trans ?_, buses⟩
    rw [handovers, handovers, Reception.filterMap_cons_toList, ← List.append_assoc]
    rfl

/-- When nothing has been read since the last outcome, reception has none due. -/
theorem produced_after {passage : Passage} {reception : Reception} (trace : List (Event Ans))
    (before : passage.pending = false → reception.due = none)
    (settled : (monitor.after passage trace).pending = false) :
    (Reception.monitor.after reception trace).due = none := by
  induction trace generalizing passage reception with
  | nil => exact before settled
  | cons event trace ih =>
    obtain ⟨op, answer⟩ := event
    refine @ih (passage.next op answer) (reception.next op answer) (fun fresh => ?_) settled
    have earlier (reads : op.input? answer = none) (hands : op.outcome? = none) :
        reception.due = none :=
      before (by simpa [next, reads, hands] using fresh)
    have written : (if op.controlWrite?.isSome then
        { reception with levels := reception.levels.tail } else reception).due = reception.due := by
      split_ifs <;> rfl
    cases op with
    | getcharTimeoutUs => exact Bool.noConfusion fresh
    | enter call =>
      cases call with
      | handlePacket => rfl
      | resetPacketAndSendNack => rfl
      | getBlock => exact earlier rfl rfl
      | _ => exact written.trans (earlier rfl rfl)
    | _ => exact written.trans (earlier rfl rfl)

/-! ## Handling a packet -/

/-- Operations that neither read nor hand over, and move no bus. -/
def Aside : Op → Prop
  | .getcharTimeoutUs _ => False
  | .enter _ => False
  | .i2cWriteTimeoutUs .. => False
  | .i2cReadTimeoutUs .. => False
  | .assertFalse => False
  | _ => True

/-- Other operations do not change the passage. -/
theorem ignores_aside : monitor.Ignores Aside := by
  intro (passage : Passage) op aside
  change passage.allows op ∧ ∀ answer, passage.next op answer = passage
  cases op <;>
    first
    | exact aside.elim
    | exact ⟨trivial, fun _ => by simp [next, Op.outcome?, Op.input?, Buses.next]⟩

variable {outcome : Outcome} {cleared : Option UInt8} {α : Type}

/-- An outcome is being handled, and an exchange has failed in some attempts. -/
def trying (outcome : Outcome) (cleared : Option UInt8) (made : Nat) : Passage :=
  ⟨[outcome], false, made, cleared, false⟩

/-- An outcome is being handled, and no exchange is under way. -/
abbrev handling (outcome : Outcome) (cleared : Option UInt8) : Passage := trying outcome cleared 0

/-- An exchange stops only after its last attempt. -/
theorem guards_exchange {attempt : Firmware (Int × α)} {post : Passage → α → Prop}
    (message : String) (attempted : ∀ made, made < maxRetries →
      monitor.Guards (trying outcome cleared made) attempt fun final reached =>
        if 0 ≤ reached.1 then post final reached.2 else final = trying outcome cleared (made + 1)) :
    monitor.Guards (handling outcome cleared) (i2cErrorHandling message attempt) post := by
  have goes (op : Op) (aside : Aside op) {program : Ans op → Firmware α} {passage : Passage}
      (later : ∀ answer, monitor.Guards passage (program answer) post) :
      monitor.Guards passage (perform op >>= program) post := by
    obtain ⟨allowed, unchanged⟩ := ignores_aside passage op aside
    exact ⟨allowed, fun answer => by rw [unchanged]; exact later answer⟩
  refine @guards_errorHandling monitor α attempt (handling outcome cleared)
    (fun made passage => passage = trying outcome cleared made) post message
    (ignores_aside _ .cexceptionTry trivial) ?_ ?_ ?_
  · rintro made passage room rfl
    exact attempted made room
  · rintro made passage rfl
    exact ignores_aside _ (.sleepMs retryDelay) trivial
  · rintro result passage rfl
    refine goes (.cexceptionThrow result) trivial fun _ => goes .cexceptionCatch trivial fun _ =>
      goes (.rp2040Log message _) trivial fun _ => ⟨?_, fun impossible => Empty.elim impossible⟩
    exact ⟨.inl (Nat.le_refl maxRetries), rfl, outcome, rfl⟩

/-- A write moves the buses. -/
theorem next_write (passage : Passage) (i2c : I2c) (addr : UInt8) (src : List UInt8)
    (nostop : Bool) (result : Int) :
    passage.next (.i2cWriteTimeoutUs i2c addr src nostop) result =
      { passage with buses := passage.buses.wrote i2c addr src result } := by
  simp [next, Op.outcome?, Op.input?, Buses.next]

/-- A read moves the buses. -/
theorem next_read (passage : Passage) (i2c : I2c) (addr : UInt8) {len : Nat} (nostop : Bool)
    (result : Int) (bytes : Vector UInt8 len) :
    passage.next (.i2cReadTimeoutUs i2c addr len nostop) (result, bytes) =
      { passage with buses := passage.buses.got i2c addr result bytes.toList } := by
  simp [next, Op.outcome?, Op.input?, Buses.next]

/-- A write that succeeds may have cleared a fault register. -/
theorem guards_write (i2c : I2c) (addr : UInt8) (src : List UInt8) (nostop : Bool) :
    monitor.Guards (handling outcome cleared) (i2cWriteErrorHandling i2c addr src nostop)
      fun final _ => final =
        handling outcome (if Buses.clears i2c addr src then some addr else cleared) := by
  refine guards_exchange _ fun made _ => ⟨trivial, fun (result : Int) => ?_⟩
  have moved := next_write (trying outcome cleared made) i2c addr src nostop result
  change if 0 ≤ result then Passage.next _ _ _ = _ else Passage.next _ _ _ = _
  by_cases success : 0 ≤ result
  · rw [if_pos success, moved, Buses.wrote, if_pos success]
    rfl
  · rw [if_neg success, moved, Buses.wrote, if_neg success]
    rfl

/-- A read that succeeds may show a fault that persists. -/
theorem guards_read (i2c : I2c) (addr : UInt8) (len : Nat) (nostop : Bool) :
    monitor.Guards (handling outcome cleared) (i2cReadErrorHandling i2c addr len nostop)
      fun final bytes => final =
        ⟨[outcome], false, (Buses.mk 0 cleared false).got i2c addr 0 bytes.toList⟩ := by
  refine guards_exchange _ fun made _ => ⟨trivial, fun answer => ?_⟩
  obtain ⟨result, bytes⟩ : Int × Vector UInt8 len := answer
  have moved := next_read (trying outcome cleared made) i2c addr nostop result bytes
  change if 0 ≤ result then Passage.next _ _ _ = _ else Passage.next _ _ _ = _
  split_ifs with success
  · rw [moved, Buses.got, Buses.got, if_pos success, if_pos (Int.le_refl 0)]
    rfl
  · rw [moved, Buses.got, if_neg success]
    rfl

/-- While a packet is handled the program stops only when the buses hinder it, and leaves no fault
register cleared but not read. -/
def Proceeds (program : Firmware α) : Prop :=
  ∀ outcome, monitor.Guards (handling outcome none) program fun final _ =>
    final = handling outcome none

/-- Programs that do nothing to the buses proceed. -/
theorem proceeds_of_aside {program : Firmware α} (aside : program.Within Aside) :
    Proceeds program :=
  fun _ => ignores_aside.guards aside fun _ => rfl

/-- Reading the telemetry proceeds, but for the clearing of the motors' faults. -/
theorem composes_proceeds : Composes Proceeds where
  done _ _ := rfl
  bind first second outcome := Monitor.guards_bind.mpr ((first outcome).mono
    fun final value same => by rw [same]; exact second value outcome)
  plain op plain := proceeds_of_aside (.act (by cases op <;> first | exact plain.elim | trivial))
  select i2c addr reg nostop outcome := (guards_write i2c addr [reg] nostop).mono
    fun final _ same => by
      have keeps : Buses.clears i2c addr [reg] = false := by simp [Buses.clears]
      rw [same, keeps]
      rfl
  read i2c addr len nostop outcome := (guards_read i2c addr len nostop).mono
    fun final bytes same => by
      rw [same, Buses.got, if_pos (Int.le_refl 0), if_neg (by simp)]
      rfl

/-- Clearing a fault register proceeds, unless the fault persists. -/
theorem clearFault_proceeds (i : Nat) (motor : Motor) :
    Proceeds (Drv8830.clearFault i motor.address) := by
  intro outcome
  have clears : Buses.clears .i2c0 motor.address [Drv8830.regFault, Drv8830.clearBit] = true := by
    cases motor <;> decide
  have selects : Buses.clears .i2c0 motor.address [Drv8830.regFault] = false := by
    simp [Buses.clears]
  refine Monitor.guards_bind.mpr ((guards_write _ _ _ _).mono fun final _ cleared => ?_)
  rw [cleared, clears, if_pos rfl, Drv8830.readFault]
  refine Monitor.guards_bind.mpr (Monitor.guards_bind.mpr ((guards_write _ _ _ _).mono
    fun final _ selected => ?_))
  rw [selected, selects, if_neg Bool.false_ne_true]
  refine Monitor.guards_bind.mpr ((guards_read _ _ _ _).mono fun final bytes seen => ?_)
  have first : bytes.toList.headD 0 = bytes[0] := by
    rw [List.headD_eq_head?_getD, List.head?_eq_getElem?]
    simp
  have buses : (Buses.mk 0 (some motor.address) false).got .i2c0 motor.address 0 bytes.toList =
      ⟨0, none, decide (bytes[0] &&& 1 ≠ 0)⟩ := by
    rw [Buses.got, if_pos (Int.le_refl 0), if_pos ⟨rfl, rfl⟩, first]
    rfl
  rw [seen, buses]
  change monitor.Guards ⟨[outcome], false, _⟩ (if bytes[0] &&& 1 ≠ 0 then _ else _) _
  split_ifs with persists
  · have logged := ignores_aside (⟨[outcome], false, 0, none, decide (bytes[0] &&& 1 ≠ 0)⟩ :
    Passage)
      (.rp2040Log "ERROR: Motor %d cannot clear faults. Exiting.\n" [.int i]) trivial
    refine ⟨logged.1, fun answer => ?_⟩
    rw [logged.2]
    exact ⟨⟨.inr (decide_eq_true persists), rfl, outcome, rfl⟩, fun impossible =>
      Empty.elim impossible⟩
  · rw [decide_eq_false persists]
    rfl

/-- Reading and clearing the motors' faults proceeds. -/
theorem getFaults_proceeds : Proceeds Drv8830.getFaults :=
  composes_proceeds.bind (composes_proceeds.readFault _) fun _ =>
    composes_proceeds.bind (composes_proceeds.readFault _) fun _ =>
      composes_proceeds.bind (composes_proceeds.bind (clearFault_proceeds 0 .left) fun _ =>
        clearFault_proceeds 1 .right) fun _ => composes_proceeds.done _

/-- Gathering the state proceeds. -/
theorem getState_proceeds (state : Rp2040State) : Proceeds (getState state) :=
  composes_proceeds.bind (composes_proceeds.getEncoderCounts _) fun _ =>
    composes_proceeds.bind (composes_proceeds.bind getFaults_proceeds fun _ =>
      composes_proceeds.done _) fun _ =>
    composes_proceeds.bind (composes_proceeds.getChargerState _) fun _ =>
      composes_proceeds.getBatteryState _

/-! ## `get_block` -/

/-- Sending bytes moves no bus. -/
theorem putBytes_aside (bytes : List UInt8) : (putBytes bytes).Within Aside := by
  induction bytes with
  | nil => trivial
  | cons c bytes ih => exact ⟨trivial, fun _ => ih⟩

/-- What proceeds does so in the serial protocol. -/
theorem lift_proceeds {program : Firmware α} (proceeds : Proceeds program) (state : SerialState) :
    Proceeds ((liftM program : Serial α).run state) :=
  composes_proceeds.bind proceeds fun _ => composes_proceeds.done _

/-- Sending the state proceeds. -/
theorem sendState_proceeds (state : SerialState) : Proceeds (sendState.run state) := by
  exact composes_proceeds.bind (composes_proceeds.done _) fun _ =>
    composes_proceeds.bind (lift_proceeds (getState_proceeds _) _) fun _ =>
    proceeds_of_aside ((putBytes_aside _).bind fun _ => trivial)

/-- Setting the motor levels moves no bus that is watched. -/
theorem setMotorLevels_aside (state : Rp2040State) : (setMotorLevels state).Within Aside :=
  ⟨trivial, fun _ => ⟨trivial, fun _ => trivial⟩⟩

/-- Sending the log moves no bus. -/
theorem handleGetLog_aside (packet : IncomingPacketFromAndroid) (state : SerialState) :
    ((handleGetLog packet).run state).Within Aside :=
  ⟨trivial, fun _ => ⟨trivial, fun _ => ⟨trivial, fun _ => ⟨trivial, fun _ => ⟨trivial, fun _ =>
    ⟨trivial, fun _ => ⟨trivial, fun _ => ⟨trivial, fun _ => ⟨trivial, fun _ => trivial⟩⟩⟩⟩⟩⟩⟩⟩⟩

/-- An event has been read, and nothing has been handed over. -/
def reading : Passage := ⟨[], true, .quiet⟩

variable {packet : IncomingPacketFromAndroid} {state : SerialState}

/-- A packet is handled while the buses do not hinder it. -/
theorem guards_handlePacket :
    monitor.Guards reading ((handlePacket packet).run state) fun final _ =>
      final = handling (.packet packet.packetType packet.data) none := by
  have handled : Proceeds (StateT.run (if packet.packetType = getLog then handleGetLog packet
      else if packet.packetType = setMotorLevel then handleSetMotorLevel packet
      else if packet.packetType = getStateType then handleGetState packet
      else if packet.packetType = resetState then return ()
      else modify fun state =>
        { state with outgoing := { state.outgoing with packetType := nack } }) state) := by
    split_ifs
    · exact proceeds_of_aside (handleGetLog_aside _ _)
    · exact composes_proceeds.bind (composes_proceeds.done _) fun _ =>
        composes_proceeds.bind (composes_proceeds.done _) fun _ =>
        composes_proceeds.bind (lift_proceeds (proceeds_of_aside (setMotorLevels_aside _)) _)
          fun _ => sendState_proceeds _
    · exact sendState_proceeds _
    · exact composes_proceeds.done _
    · exact composes_proceeds.done _
  exact ⟨trivial, fun _ => handled _⟩

/-- A NACK moves no bus. -/
theorem guards_resetPacketAndSendNack :
    monitor.Guards reading (resetPacketAndSendNack.run state) fun final _ =>
      final = handling .nack none :=
  ⟨trivial, fun _ => proceeds_of_aside ((putBytes_aside _).bind fun _ => .done _) .nack⟩

/-- A message and then a NACK move no bus. -/
theorem guards_nackLogged (text : String) :
    monitor.Guards reading (StateT.run (do
      rp2040Log text []
      resetPacketAndSendNack : Serial Unit) state) fun final _ => final = handling .nack none :=
  ⟨trivial, fun _ => guards_resetPacketAndSendNack⟩

/-- After the loop a packet is handled or a NACK is sent. -/
theorem guards_finishBlock :
    monitor.Guards reading (finishBlock.run state) fun final _ => final.buses = .quiet := by
  have handled {final : Passage} {outcome : Outcome} (same : final = handling outcome none) :
      final.buses = .quiet := congrArg Passage.buses same
  refine ⟨trivial, fun c => ?_⟩
  change monitor.Guards reading (StateT.run (if c = some endMarker then _ else _) state) _
  split_ifs
  · change monitor.Guards reading (StateT.run (if _ then _ else _) state) _
    split_ifs
    · exact Monitor.guards_bind.mpr (guards_handlePacket.mono fun _ _ same => handled same)
    · exact (guards_nackLogged _).mono fun _ _ same => handled same
  · exact (guards_nackLogged _).mono fun _ _ same => handled same

/-- In the loop bytes are stored, until a timeout makes it send a NACK. -/
theorem guards_readLoop (fuel : Nat) (bufferIndex : UInt16) (i : UInt8) :
    monitor.Guards reading ((readLoop fuel bufferIndex i).run state) fun final value =>
      final = reading ∨ value.1 = .returned ∧ final = handling .nack none := by
  induction fuel generalizing bufferIndex i state with
  | zero => exact .inl rfl
  | succ fuel ih =>
    have stored (c : UInt8) : ((storeByte bufferIndex c).run state).Within Aside := by
      unfold storeByte
      dsimp only
      split_ifs
      · trivial
      · trivial
      · exact ⟨trivial, fun _ => trivial⟩
    have keeps (c : Option UInt8) : reading.next (.getcharTimeoutUs 100) c = reading := rfl
    rw [readLoop]
    split_ifs
    · simp only [StateT.run_bind, StateT.run_monadLift, monadLift_self, Monitor.guards_bind,
        Monitor.guards_act, Program.pure_def, Monitor.guards_done, keeps]
      refine ⟨trivial, fun c => ?_⟩
      cases c with
      | some c =>
        simp only [StateT.run_bind, Monitor.guards_bind]
        exact ignores_aside.guards (stored c) fun _ => ih _ _
      | none =>
        simp only [StateT.run_bind, StateT.run_monadLift, monadLift_self, Monitor.guards_bind,
          Program.pure_def]
        refine ⟨trivial, fun _ => guards_resetPacketAndSendNack.mono fun final _ same => ?_⟩
        exact .inr ⟨rfl, same⟩
    · exact .inl rfl

/-- A call of `get_block` stops only when its buses hinder it. -/
theorem guards_getBlock :
    monitor.Guards start (getBlock.run state) fun final _ => final.buses = .quiet := by
  simp only [getBlock, StateT.run_bind, StateT.run_modify, StateT.run_monadLift, monadLift_self,
    Monitor.guards_bind, Monitor.guards_act, Program.pure_def, Monitor.guards_done,
    Monitor.guards_run_ite]
  refine ⟨trivial, fun _ => ⟨trivial, fun c => ?_⟩⟩
  split_ifs
  · refine (guards_readLoop readFuel 0 0).mono ?_
    rintro final ⟨loopEnd, later⟩ (rfl | ⟨rfl, rfl⟩)
    · cases loopEnd with
      | left => exact guards_finishBlock
      | returned => rfl
      | exhausted => rfl
    · rfl
  · rfl

end Passage

/-- Only a failed assertion has no answer. -/
theorem Op.eq_assertFalse {op : Op} (empty : Ans op → False) : op = .assertFalse := by
  cases op <;> first | rfl | exact (empty (by dsimp only [Ans]; exact default)).elim

/-- A call of `get_block` that finds a start marker has one outcome of the reference scanner. When
it can go no further, it has returned and sent exactly one complete frame of the right kind if and
only if the outcome is a NACK or a packet of a supported type and the buses have not hindered it. -/
theorem attempt_answered_iff {rp2040State : Rp2040State} {rounds : Nat}
    {prior trace : List (Event Ans)} {state : SerialState} {rest : Firmware (Unit × SerialState)}
    (reached : (receiver rp2040State rounds).Runs prior (.done state))
    (run : (getBlock.run state).Runs trace rest) (halted : rest.Halted)
    (attempt : (inputs trace).head? = some (some startMarker)) :
    ∃ outcome, Scanner.idle.outcomes (inputs trace) = [outcome] ∧
      (rest.isDone = true ∧
          outcome.Answered (sentBytes trace) (counts trace) (prints trace) ↔
        outcome.Supported ∧ Unhindered trace) := by
  obtain ⟨handed, buses⟩ := Passage.after_eq .start trace
  cases rest with
  | done value =>
    obtain ⟨outcome, produced, answered⟩ := answered_iff_supported reached run attempt
    have quiet : (Buses.quiet.after trace) = .quiet :=
      buses.symm.trans (Passage.guards_getBlock.ends run)
    have free : Unhindered trace := by
      rw [Unhindered, quiet]
      decide
    exact ⟨outcome, produced, (and_iff_right rfl).trans (answered.trans (and_iff_left free).symm)⟩
  | perform op resume =>
    obtain rfl := Op.eq_assertFalse halted
    obtain ⟨hinder, settled, outcome, one⟩ := Passage.guards_getBlock.allows_next run rfl
    have between : Reception.start.Between state :=
      ⟨⟨rfl, rfl, rfl⟩, (Reply.serve_steady ⟨init_marked rp2040State .static, rfl⟩ reached).fresh⟩
    obtain ⟨accepted, _⟩ := (Reception.guards_getBlock between).run run
    have produced := (Reception.accounts accepted).2.1
    have nothing : (Reception.monitor.after Reception.start trace).due = none :=
      Passage.produced_after trace (fun _ => rfl) settled
    rw [nothing, Option.toList_none, List.append_nil] at produced
    refine ⟨outcome, produced.symm.trans (handed.symm.trans one), ⟨?_, ?_⟩⟩
    · rintro ⟨returned, _⟩
      cases returned
    · rintro ⟨_, free⟩
      exact absurd (buses ▸ hinder) free

/-- A request to set the motor levels is answered with the state. -/
theorem attempt_answered_iff_setMotorLevel :
    ∃ data, sentBytes (callAfter 0 [] [some 0xFE, some 1, some 7, some 9, some 0xFF]).1 =
      stateFrame setMotorLevel data := by
  let received : List (Option UInt8) := [some 0xFE, some 1, some 7, some 9, some 0xFF]
  have returned : (callAfter 0 [] received).2.1.isDone = true := by decide +kernel
  have halted : (callAfter 0 [] received).2.1.Halted := by
    rw [Program.eq_done_valueD returned ((), .static)]
    trivial
  obtain ⟨prior, state, reached, run⟩ := callAfter_runs 0 [] received rfl
  have read : inputs (callAfter 0 [] received).1 = received := by decide +kernel
  obtain ⟨outcome, produced, answered⟩ := attempt_answered_iff reached run halted
      (by rw [read]; rfl)
  have packet : outcome = .packet setMotorLevel #v[7, 9] := by
    rw [read] at produced
    exact (List.singleton_inj.mp produced).symm
  subst packet
  have free : Unhindered (callAfter 0 [] received).1 := by
    unfold Unhindered
    decide +kernel
  exact (answered.mpr ⟨List.mem_of_elem_eq_true rfl, free⟩).2

/-- Not every attempt is answered: a packet of an unknown type gets no reply. -/
theorem attempt_unanswered :
    ¬ ∀ (rp2040State : Rp2040State) (rounds : Nat) (prior trace : List (Event Ans))
        (state final : SerialState),
      (receiver rp2040State rounds).Runs prior (.done state) →
      (getBlock.run state).Runs trace (.done ((), final)) →
      (inputs trace).head? = some (some startMarker) →
      ∃ outcome, Scanner.idle.outcomes (inputs trace) = [outcome] ∧
        outcome.Answered (sentBytes trace) (counts trace) (prints trace) := by
  intro answered
  let received : List (Option UInt8) := [some 0xFE, some 5, some 0, some 0, some 0xFF]
  obtain ⟨final, ended⟩ : ∃ final, (callAfter 0 [] received).2.1 = .done ((), final) := ⟨_, rfl⟩
  obtain ⟨prior, state, reached, run⟩ := callAfter_runs 0 [] received rfl
  obtain ⟨outcome, _, replied⟩ := answered _ _ _ _ _ final reached (ended ▸ run) rfl
  have unsent : sentBytes (callAfter 0 [] received).1 = [] := by decide
  exact outcome.not_answered_nil (unsent ▸ replied)

end RobotFirmware
