import RobotFirmware.Footprint
import RobotFirmware.Serial.Scanner
import Mathlib.Tactic.SplitIfs

/-!
# Reception

`get_block` is watched by a monitor that runs the reference scanner on every event that is
read. Each outcome of the scanner has to be produced before the next event is read, and each
accepted motor packet has to be written to the two control registers, left before right,
before anything else is accepted.
-/

namespace RobotFirmware

open Interaction
open Drv8830 (Motor)

/-! ## What a trace shows -/

/-- The motor driver at a bus address. -/
def motorAt? (addr : UInt8) : Option Motor :=
  if addr = Drv8830.motorLeftAddress then some .left
  else if addr = Drv8830.motorRightAddress then some .right
  else none

/-- The value that a transfer to a motor driver stores in its control register. -/
def controlValue? (addr : UInt8) : List UInt8 → Option (Motor × UInt8)
  | reg :: value :: _ =>
    if reg = Drv8830.regControl then (motorAt? addr).map fun motor => (motor, value) else none
  | _ => none

/-- A write to a motor control register. -/
def Op.controlWrite? : Op → Option (Motor × UInt8)
  | .i2cWriteTimeoutUs .i2c0 addr src _ => controlValue? addr src
  | .i2cWriteBlocking .i2c0 addr src _ => controlValue? addr src
  | _ => none

/-- The event that `get_block` reads: a byte or a timeout. -/
def Op.input? : (op : Op) → Ans op → Option (Option UInt8)
  | .getcharTimeoutUs _, c => some c
  | _, _ => none

/-- What is done with a reception. -/
def Op.outcome? : Op → Option Outcome
  | .enter (.handlePacket packetType data) => some (.packet packetType data)
  | .enter .resetPacketAndSendNack => some .nack
  | _ => none

/-- The events read in a trace. -/
def inputs (trace : List (Event Ans)) : List (Option UInt8) :=
  trace.filterMap fun event => event.op.input? event.answer

/-- The calls of `handle_packet` and the NACKs in a trace. -/
def handovers (trace : List (Event Ans)) : List Outcome :=
  trace.filterMap fun event => event.op.outcome?

/-- The writes to the motor control registers in a trace. -/
def controlWrites (trace : List (Event Ans)) : List (Motor × UInt8) :=
  trace.filterMap fun event => event.op.controlWrite?

/-- The motor levels that an outcome asks for. -/
def Outcome.levels : Outcome → List (Motor × UInt8)
  | .packet packetType data =>
    if packetType = setMotorLevel then
      [(.left, getElem data 0 Nat.zero_lt_two), (.right, getElem data 1 Nat.one_lt_two)]
    else []
  | .nack => []

/-! ## The monitor -/

/-- Where reception stands. -/
structure Reception where
  /-- The reference scanner. -/
  scanner : Scanner
  /-- The outcome that has not been produced yet. -/
  due : Option Outcome
  /-- The motor levels that have not been written yet. -/
  levels : List (Motor × UInt8)
  /-- The events read in the current call. -/
  taken : Nat

namespace Reception

/-- The most events that a call of `get_block` reads. -/
def maxTaken : Nat := 5

/-- What an operation does to reception. -/
def next (reception : Reception) : (op : Op) → Ans op → Reception
  | .getcharTimeoutUs _, c =>
    { reception with
      scanner := reception.scanner.next c
      due := reception.scanner.outcome? c
      taken := reception.taken + 1 }
  | .enter .getBlock, _ => { reception with taken := 0 }
  | .enter (.handlePacket packetType data), _ =>
    { reception with due := none, levels := Outcome.levels (.packet packetType data) }
  | .enter .resetPacketAndSendNack, _ => { reception with due := none }
  | op, _ =>
    if op.controlWrite?.isSome then { reception with levels := reception.levels.tail }
    else reception

/-- The operations allowed at a point of reception. -/
def allows (reception : Reception) : Op → Prop
  | .getcharTimeoutUs _ =>
    reception.due = none ∧ reception.levels = [] ∧ reception.taken < maxTaken
  | .enter .getBlock => reception.due = none ∧ reception.levels = []
  | .enter (.handlePacket packetType data) =>
    reception.due = some (.packet packetType data) ∧ reception.levels = []
  | .enter .resetPacketAndSendNack => reception.due = some .nack
  | .strayStore _ => False
  | op => ∀ level ∈ op.controlWrite?, reception.levels.head? = some level

/-- The monitor of reception. -/
abbrev monitor : Monitor Ans := ⟨Reception, allows, next⟩

/-- Between two calls of `get_block`. -/
structure Resting (reception : Reception) : Prop where
  /-- No frame has begun. -/
  idle : reception.scanner = .idle
  /-- Every outcome has been produced. -/
  produced : reception.due = none
  /-- Every motor level has been written. -/
  written : reception.levels = []

/-- Operations that reception does not depend on. -/
def Quiet : Op → Prop
  | .getcharTimeoutUs _ => False
  | .enter _ => False
  | .strayStore _ => False
  | op => op.controlWrite? = none

/-- A quiet operation writes no control register. -/
theorem Quiet.controlWrite? {op : Op} (quiet : Quiet op) : op.controlWrite? = none := by
  cases op <;> first | exact quiet | exact quiet.elim

/-- A quiet operation leaves reception where it stands. -/
theorem ignores_quiet : monitor.Ignores Quiet := by
  intro (reception : Reception) op quiet
  change reception.allows op ∧ ∀ answer, reception.next op answer = reception
  cases op <;>
    first
    | exact quiet.elim
    | simp [allows, next, show Op.controlWrite? _ = none from quiet]

/-- The driver of a motor is found at its address. -/
@[simp] theorem motorAt?_address (motor : Motor) : motorAt? motor.address = some motor := by
  cases motor <;> rfl

/-- A transfer that does not start at the control register stores no control value. -/
theorem controlValue?_apart {addr : UInt8} {src : List UInt8}
    (apart : motorAt? addr = none ∨ src.head? ≠ some Drv8830.regControl) :
    controlValue? addr src = none := by
  unfold controlValue?
  split
  · rename_i reg value rest
    obtain elsewhere | other := apart
    · simp [elsewhere]
    · rw [if_neg fun same => other (congrArg some same)]
  · rfl

/-- The other devices are used without writing a control register. -/
theorem Quiet.of_peripheral {op : Op} (peripheral : op.Peripheral) : Quiet op := by
  cases op with
  | i2cWriteTimeoutUs i2c addr src nostop =>
    cases i2c with
    | i2c0 =>
      refine controlValue?_apart ?_
      obtain rfl | ⟨_, fault⟩ := peripheral
      · exact .inl rfl
      · exact .inr (by rw [fault]; decide)
    | i2c1 => rfl
  | _ => first | rfl | exact peripheral.elim

/-! ## `get_block` under the monitor -/

/-- Sending bytes is quiet. -/
theorem putBytes_quiet (bytes : List UInt8) : (putBytes bytes).Within Quiet := by
  induction bytes with
  | nil => exact trivial
  | cons c bytes ih => exact ⟨rfl, fun _ => ih⟩

variable {reception : Reception} {state : SerialState} {packet : IncomingPacketFromAndroid}
  {post : Reception → Unit × SerialState → Prop}

/-- Sending the state leaves reception and the indices as they are. -/
theorem guards_sendState
    (holds : ∀ final : SerialState, final.endIdx = state.endIdx → post reception ((), final)) :
    monitor.Guards reception (sendState.run state) post := by
  have quiet {data : Rp2040State} : (getState data).Within Quiet :=
    (reporting_peripheral.getState_allowed data).mono fun _ => Quiet.of_peripheral
  simp [sendState]
  refine ignores_quiet.guards quiet fun _ => ?_
  exact ignores_quiet.guards (putBytes_quiet _) fun _ => holds _ rfl

/-- Sending the log leaves reception and the indices as they are. -/
theorem guards_handleGetLog
    (holds : ∀ final : SerialState, final.endIdx = state.endIdx → post reception ((), final)) :
    monitor.Guards reception ((handleGetLog packet).run state) post := by
  simp [handleGetLog, allows, next, Op.controlWrite?, holds]

/-- Setting a motor's level writes the level that is due. -/
theorem guards_setMotorControl {motor : Motor} {value : UInt8} {later : List (Motor × UInt8)}
    {post : Reception → Unit → Prop} (due : reception.levels = (motor, value) :: later)
    (holds : post { reception with levels := later } ()) :
    monitor.Guards reception (Drv8830.setMotorControl motor value) post := by
  have level : Op.controlWrite? (.i2cWriteBlocking .i2c0 motor.address
      [Drv8830.regControl, value] false) = some (motor, value) := by
    simp [Op.controlWrite?, controlValue?]
  simpa [Drv8830.setMotorControl, allows, next, level, due] using holds

/-- `handle_packet` produces the outcome that is due, and writes the levels it asks for. -/
theorem guards_handlePacket
    (due : reception.due = some (.packet packet.packetType packet.data))
    (written : reception.levels = [])
    (holds : ∀ final : SerialState, final.endIdx = state.endIdx →
      post { reception with due := none } ((), final)) :
    monitor.Guards reception ((handlePacket packet).run state) post := by
  have none_due (other : packet.packetType ≠ setMotorLevel) :
      Outcome.levels (.packet packet.packetType packet.data) = reception.levels := by
    rw [written, Outcome.levels, if_neg other]
  simp [handlePacket, allows, next, due, written]
  split_ifs with log motor telemetry reset
  · rw [none_due (by rw [log]; decide)]
    exact guards_handleGetLog fun final => holds final
  · have both : Outcome.levels (.packet packet.packetType packet.data) =
        [(.left, packet.data[0]), (.right, packet.data[1])] := by
      rw [Outcome.levels, if_pos motor]
    simp [handleSetMotorLevel, setMotorLevels, both]
    refine guards_setMotorControl rfl (guards_setMotorControl rfl ?_)
    refine guards_sendState fun final same => ?_
    rw [← written]
    exact holds final same
  · rw [none_due motor]
    simp [handleGetState]
    exact guards_sendState fun final => holds final
  · rw [none_due motor]
    exact holds _ rfl
  · rw [none_due motor]
    exact holds _ rfl

/-- A NACK is produced when it is due. -/
theorem guards_resetPacketAndSendNack (due : reception.due = some .nack)
    (holds : ∀ final : SerialState, final.endIdx = -1 →
      post { reception with due := none } ((), final)) :
    monitor.Guards reception (resetPacketAndSendNack.run state) post := by
  simp [resetPacketAndSendNack, allows, next, due]
  exact ignores_quiet.guards (putBytes_quiet _) fun _ => holds _ rfl

/-- Where the scanner stands when the loop of `get_block` has stored some bytes. -/
def stored (incoming : IncomingPacketFromAndroid) : Nat → Scanner
  | 0 => .type
  | 1 => .first incoming.packetType
  | 2 => .second incoming.packetType (getElem incoming.data 0 Nat.zero_lt_two)
  | _ => .last incoming.packetType (getElem incoming.data 0 Nat.zero_lt_two)
      (getElem incoming.data 1 Nat.one_lt_two)

/-- A byte goes to its place in the packet, and never beyond `data[1]`. -/
theorem storeByte_run {count : Nat} (room : count < 3) (state : SerialState) :
    ∃ incoming : UInt8 → IncomingPacketFromAndroid, ∀ c,
      stored (incoming c) (count + 1) = (stored state.incoming count).next (some c) ∧
        (storeByte (UInt16.ofNat count) c).run state =
          .done ((), { state with incoming := incoming c }) := by
  match count with
  | 0 => exact ⟨fun c => { state.incoming with packetType := c }, fun c => ⟨rfl, rfl⟩⟩
  | 1 =>
    exact ⟨fun c => { state.incoming with data := state.incoming.data.set 0 c }, fun c =>
      ⟨by simp [stored, Scanner.next], rfl⟩⟩
  | 2 =>
    exact ⟨fun c => { state.incoming with data := state.incoming.data.set 1 c }, fun c =>
      ⟨by simp [stored, Scanner.next], rfl⟩⟩

/-- The loop of `get_block` ends when three bytes have been stored. -/
theorem readLoop_full (fuel : Nat) (state : SerialState) :
    (readLoop (fuel + 1) (UInt16.ofNat 3) (UInt8.ofNat 3)).run state = .done (.left, state) := by
  rw [readLoop, if_neg (by decide)]
  rfl

/-- Before that it stores the next byte, or sends a NACK at a timeout. -/
theorem readLoop_run {count : Nat} (room : count < 3) (fuel : Nat) (state : SerialState) :
    ∃ incoming : UInt8 → IncomingPacketFromAndroid,
      (∀ c, stored (incoming c) (count + 1) = (stored state.incoming count).next (some c)) ∧
      (readLoop (fuel + 1) (UInt16.ofNat count) (UInt8.ofNat count)).run state =
        .perform (.getcharTimeoutUs 100) fun (received : Option UInt8) =>
          match received with
          | some c =>
            (readLoop fuel (UInt16.ofNat (count + 1)) (UInt8.ofNat (count + 1))).run
              { state with incoming := incoming c }
          | none =>
            .perform (.rp2040Log "Timeout while reading packet. Resetting state.\n" []) fun _ =>
              resetPacketAndSendNack.run state >>= fun ended => .done (.returned, ended.2) := by
  have guard : (UInt16.ofNat count).toNat < androidBufferLengthIn + 1 := by
    rw [UInt16.toNat_ofNat_of_lt' (by simp only [UInt16.size]; omega)]
    exact room
  obtain ⟨incoming, stores⟩ := storeByte_run room state
  refine ⟨incoming, fun c => (stores c).1, ?_⟩
  rw [readLoop, if_pos (.inl guard), StateT.run_bind, StateT.run_monadLift, UInt16.ofNat_add,
    UInt8.ofNat_add]
  refine congrArg (Program.perform _) (funext fun (received : Option UInt8) => ?_)
  cases received with
  | some c => exact congrArg (Program.bind · _) (stores c).2
  | none => rfl

/-- Once `start_idx` is set and `end_idx` is -1, the length of a packet passes. -/
theorem finishBlock_run {state : SerialState} (started : state.startIdx = 0)
    (fresh : state.endIdx = -1) :
    finishBlock.run state = .perform (.getcharTimeoutUs 100) fun (c : Option UInt8) =>
      if c = some endMarker then
        (handlePacket state.incoming).run state >>= fun ended =>
          .done ((), { ended.2 with startIdx := -1, endIdx := -1, incoming := .zero })
      else
        .perform (.rp2040Log "Received packet with no end marker. Resetting state.\n" []) fun _ =>
          resetPacketAndSendNack.run state := by
  have passes : IncomingPacketFromAndroid.size ≤
      (UInt16.ofInt (state.endIdx.toInt - state.startIdx.toInt)).toNat := by
    rw [started, fresh]
    decide
  refine congrArg (Program.perform _) (funext fun (received : Option UInt8) => ?_)
  by_cases found : received = some endMarker
  · subst found
    change (if IncomingPacketFromAndroid.size ≤ _ then _ else _ : Serial Unit) state = _
    rw [if_pos passes]
    rfl
  · change (if received = some endMarker then _ else _ : Serial Unit) state = if _ then _ else _
    rw [if_neg found, if_neg found]
    rfl

/-- The loop of `get_block` has stored some bytes since the start marker. -/
structure Loading (count : Nat) (reception : Reception) (state : SerialState) : Prop where
  /-- The stored bytes are those that the scanner has seen. -/
  scanner : reception.scanner = stored state.incoming count
  /-- Every outcome has been produced. -/
  produced : reception.due = none
  /-- Every motor level has been written. -/
  written : reception.levels = []
  /-- The start marker and the stored bytes have been read. -/
  taken : reception.taken = count + 1
  /-- The index of the start marker. -/
  started : state.startIdx = 0
  /-- No end marker has been seen. -/
  fresh : state.endIdx = -1

/-- Between two calls of `get_block` the scanner rests and `end_idx` is -1. -/
structure Between (reception : Reception) (state : SerialState) : Prop where
  /-- The scanner rests. -/
  resting : reception.Resting
  /-- No end marker has been seen. -/
  fresh : state.endIdx = -1

/-- After the loop of `get_block`, the packet read is handed over exactly when an end marker
follows: the static `end_idx` is -1, so that the length always passes. -/
theorem guards_finishBlock (loading : Loading 3 reception state) :
    monitor.Guards reception (finishBlock.run state) fun final value => final.Between value.2 := by
  obtain ⟨scanner, produced, written, taken, started, fresh⟩ := loading
  have whole : #v[state.incoming.data[0], state.incoming.data[1]] = state.incoming.data := by
    ext i inside
    match i with
    | 0 => rfl
    | 1 => rfl
  rw [finishBlock_run started fresh]
  have room : reception.taken < maxTaken := by
    rw [taken]
    decide
  refine ⟨⟨produced, written, room⟩, fun (received : Option UInt8) => ?_⟩
  refine Monitor.guards_ite.mpr ?_
  split_ifs with found
  · refine Monitor.guards_bind.mpr (guards_handlePacket ?_ written fun _ same =>
      ⟨⟨?_, rfl, written⟩, rfl⟩)
    · simp [next, found, scanner, stored, Scanner.outcome?, whole]
    · simp [next, found, scanner, stored, Scanner.next]
  · simp [allows, next, Op.controlWrite?]
    refine guards_resetPacketAndSendNack ?_ fun _ same => ⟨⟨?_, rfl, written⟩, same⟩
    · simp [found, scanner, stored, Scanner.outcome?]
    · simp [scanner, stored, Scanner.next]

/-- Until the packet is full, a byte is only stored and a timeout asks for a NACK. -/
theorem stored_outcome? {count : Nat} (room : count < 3) (incoming : IncomingPacketFromAndroid) :
    (stored incoming count).outcome? none = some .nack ∧
      ∀ c, (stored incoming count).outcome? (some c) = none := by
  match count with
  | 0 => exact ⟨rfl, fun _ => rfl⟩
  | 1 => exact ⟨rfl, fun _ => rfl⟩
  | 2 => exact ⟨rfl, fun _ => rfl⟩

/-- A timeout brings the scanner back to idle. -/
theorem stored_timeout {count : Nat} (room : count < 3) (incoming : IncomingPacketFromAndroid) :
    (stored incoming count).next none = .idle := by
  match count with
  | 0 => rfl
  | 1 => rfl
  | 2 => rfl

/-- The loop stores three bytes, or sends a NACK at the first timeout. -/
theorem guards_readLoop {fuel count : Nat} (enough : 4 ≤ fuel + count) (few : count ≤ 3)
    (loading : Loading count reception state) :
    monitor.Guards reception
      ((readLoop fuel (UInt16.ofNat count) (UInt8.ofNat count)).run state) fun final value =>
        value.1 = .left ∧ Loading 3 final value.2 ∨ value.1 = .returned ∧
          final.Between value.2 := by
  induction fuel generalizing count reception state with
  | zero => omega
  | succ fuel ih =>
    by_cases full : count = 3
    · subst full
      rw [readLoop_full]
      exact .inl ⟨rfl, loading⟩
    · have room : count < 3 := by omega
      obtain ⟨scanner, produced, written, taken, started, fresh⟩ := loading
      obtain ⟨timeout, byte⟩ := stored_outcome? room state.incoming
      obtain ⟨incoming, follows, same⟩ := readLoop_run room fuel state
      have more : reception.taken < maxTaken := by
        rw [taken, maxTaken]
        omega
      rw [same]
      refine ⟨⟨produced, written, more⟩, fun (received : Option UInt8) => ?_⟩
      cases received with
      | none =>
        simp [allows, next, Op.controlWrite?]
        refine guards_resetPacketAndSendNack (scanner ▸ timeout) fun final same =>
          ⟨⟨?_, rfl, written⟩, same⟩
        exact scanner ▸ stored_timeout room state.incoming
      | some c =>
        have later : Loading (count + 1) (reception.next (.getcharTimeoutUs 100) (some c))
            { state with incoming := incoming c } :=
          ⟨by rw [follows, ← scanner]; rfl,
            (congrArg (·.outcome? (some c)) scanner).trans (byte c), written,
            congrArg (· + 1) taken, started, fresh⟩
        exact ih (by omega) (by omega) later

/-- A call of `get_block` keeps up with the scanner and comes back to rest. -/
theorem guards_getBlock (between : reception.Between state) :
    monitor.Guards reception (getBlock.run state) fun final value => final.Between value.2 := by
  obtain ⟨⟨idle, produced, written⟩, fresh⟩ := between
  simp [getBlock, allows, next, idle, produced, written, maxTaken]
  intro c
  split_ifs with start
  · subst start
    have loading : Loading 0
        ⟨Scanner.idle.next (some startMarker), Scanner.idle.outcome? (some startMarker), [], 1⟩
        { state with startIdx := 0 } := ⟨rfl, rfl, rfl, rfl, rfl, fresh⟩
    refine (guards_readLoop (by decide) (by decide) loading).mono fun final value ended => ?_
    obtain ⟨loopEnd, later⟩ := value
    obtain ⟨left, loaded⟩ | ⟨returned, between⟩ := ended
    · obtain rfl : loopEnd = .left := left
      exact guards_finishBlock loaded
    · obtain rfl : loopEnd = .returned := returned
      exact between
  · exact ⟨⟨by simp [Scanner.next, start], rfl, rfl⟩, fresh⟩

/-- Any number of calls keeps up with the scanner. -/
theorem guards_serve (rounds : Nat) (between : reception.Between state) :
    monitor.Guards reception (serve rounds state) Between := by
  refine Monitor.guards_iterate (m := monitor) Between (fun reception state between => ?_) rounds
    between
  simp [mainRound]
  refine (guards_getBlock between).mono fun final value between => ?_
  simpa [allows, next, Op.controlWrite?] using between

/-- Reception when `main` enters its loop. -/
def start : Reception := ⟨.idle, none, [], 0⟩

/-- At start-up no frame has begun. -/
theorem start_between (rp2040State : Rp2040State) :
    start.Between (serialCommManagerInit rp2040State .static) := ⟨⟨rfl, rfl, rfl⟩, rfl⟩

/-! ## The accounts of a trace -/

/-- A list filtered by an optional result, element by element. -/
theorem filterMap_cons_toList {α β : Type} (f : α → Option β) (first : α) (later : List α) :
    (first :: later).filterMap f = (f first).toList ++ later.filterMap f := by
  rw [List.filterMap_cons]
  cases f first <;> rfl

/-- What one event does to the accounts of reception. -/
theorem account_step {op : Op} (allowed : reception.allows op) (answer : Ans op) :
    (reception.next op answer).scanner = reception.scanner.after (op.input? answer).toList ∧
    op.outcome?.toList ++ (reception.next op answer).due.toList =
      reception.due.toList ++ reception.scanner.outcomes (op.input? answer).toList ∧
    op.controlWrite?.toList ++ (reception.next op answer).levels =
      reception.levels ++ op.outcome?.toList.flatMap Outcome.levels := by
  have written (level : Option (Motor × UInt8))
      (expected : ∀ found ∈ level, reception.levels.head? = some found) :
      level.toList ++ (if level.isSome then reception.levels.tail else reception.levels) =
        reception.levels := by
    cases level with
    | none => rfl
    | some found =>
      obtain ⟨later, found⟩ := List.head?_eq_some_iff.mp (expected found rfl)
      simp [found]
  cases op with
  | getcharTimeoutUs us =>
    obtain ⟨produced, written, _⟩ := allowed
    simp [next, Op.input?, Op.outcome?, Op.controlWrite?, produced, written]
  | enter call =>
    cases call with
    | handlePacket packetType data =>
      obtain ⟨due, written⟩ := allowed
      simp [next, Op.input?, Op.outcome?, Op.controlWrite?, due, written]
    | resetPacketAndSendNack =>
      have due : reception.due = some .nack := allowed
      simp [next, Op.input?, Op.outcome?, Op.controlWrite?, due, Outcome.levels]
    | _ => simp [next, Op.input?, Op.outcome?, Op.controlWrite?]
  | i2cWriteTimeoutUs i2c addr src nostop =>
    have := written _ allowed
    simp only [next, apply_ite Reception.levels, apply_ite Reception.scanner,
      apply_ite Reception.due, this]
    simp [Op.input?, Op.outcome?]
  | i2cWriteBlocking i2c addr src nostop =>
    have := written _ allowed
    simp only [next, apply_ite Reception.levels, apply_ite Reception.scanner,
      apply_ite Reception.due, this]
    simp [Op.input?, Op.outcome?]
  | _ => simp [next, Op.input?, Op.outcome?, Op.controlWrite?]

/-- The accounts balance along every accepted trace: the outcomes and motor levels produced,
and those still owed, are the ones that the reference scanner asks for. -/
theorem accounts {trace : List (Event Ans)} (accepted : monitor.Accepts reception trace) :
    (monitor.after reception trace).scanner = reception.scanner.after (inputs trace) ∧
    handovers trace ++ (monitor.after reception trace).due.toList =
      reception.due.toList ++ reception.scanner.outcomes (inputs trace) ∧
    controlWrites trace ++ (monitor.after reception trace).levels =
      reception.levels ++ (handovers trace).flatMap Outcome.levels := by
  induction trace generalizing reception with
  | nil => simp [inputs, handovers, controlWrites]
  | cons event trace ih =>
    obtain ⟨allowed, later⟩ := accepted
    obtain ⟨scanner, outcomes, levels⟩ := account_step allowed event.answer
    obtain ⟨scannerLater, outcomesLater, levelsLater⟩ := ih later
    have inputs_cons : inputs (event :: trace) =
        (event.op.input? event.answer).toList ++ inputs trace := filterMap_cons_toList _ _ _
    have handovers_cons : handovers (event :: trace) =
        event.op.outcome?.toList ++ handovers trace := filterMap_cons_toList _ _ _
    have controlWrites_cons : controlWrites (event :: trace) =
        event.op.controlWrite?.toList ++ controlWrites trace := filterMap_cons_toList _ _ _
    rw [Monitor.after_cons, inputs_cons, handovers_cons, controlWrites_cons]
    refine ⟨?_, ?_, ?_⟩
    · rw [scannerLater, Scanner.after_append, scanner]
    · rw [List.append_assoc, outcomesLater, ← List.append_assoc, outcomes, List.append_assoc,
        Scanner.outcomes_append, scanner]
    · rw [List.append_assoc, levelsLater, ← List.append_assoc, levels, List.append_assoc,
        List.flatMap_append]

/-- The control writes of a trace from start-up, and those owed, are the levels that the
outcomes of the reference scanner ask for. -/
theorem controlWrites_balance {trace : List (Event Ans)} (accepted : monitor.Accepts start trace) :
    controlWrites trace ++ ((monitor.after start trace).levels ++
        (monitor.after start trace).due.toList.flatMap Outcome.levels) =
      (Scanner.idle.outcomes (inputs trace)).flatMap Outcome.levels := by
  obtain ⟨_, outcomes, levels⟩ := accounts accepted
  have asked : Scanner.idle.outcomes (inputs trace) =
      handovers trace ++ (monitor.after start trace).due.toList := outcomes.symm
  rw [asked, List.flatMap_append, ← List.append_assoc, levels]
  rfl

end Reception

end RobotFirmware
