import RobotFirmware.Serial.Telemetry
import Mathlib.Algebra.Order.Floor.Ring
import Mathlib.Data.Rat.Floor
import Mathlib.Tactic.Linarith

/-!
# Decoding state frames

The host reads the packed state at fixed offsets of a frame. It recovers what the firmware put
into the outgoing packet, and can compare it with what it asked for and with what the fuel
gauge holds.
-/

namespace RobotFirmware

open Interaction
open LittleEndian (byteAt word16At word32At)

/-! ## The decoder of the host -/

/-- Where the state starts in a frame: after the marker, the type and the size. -/
def stateOffset : Nat := 4

/-- The state in a frame, read at the packed offsets of its members. -/
def decodeState (frame : List UInt8) : Rp2040State where
  motorsState :=
    { controlValues := ⟨byteAt frame stateOffset, byteAt frame (stateOffset + 1)⟩
      faults := ⟨byteAt frame (stateOffset + 2), byteAt frame (stateOffset + 3)⟩
      encoderCounts := ⟨word32At frame (stateOffset + 4), word32At frame (stateOffset + 8)⟩ }
  batteryDetails :=
    { voltage := word16At frame (stateOffset + 12)
      safetyStatus := byteAt frame (stateOffset + 14)
      temperature := word16At frame (stateOffset + 15)
      stateOfHealth := byteAt frame (stateOffset + 17)
      flags := word16At frame (stateOffset + 18) }
  chargeSideUSB :=
    { max77976ChgDetails := word32At frame (stateOffset + 20)
      wirelessChargerAttached := byteAt frame (stateOffset + 24)
      usbChargerVoltage := word16At frame (stateOffset + 25)
      wirelessChargerVrect := word16At frame (stateOffset + 27) }

/-- A frame of 34 bytes with a type and a state. -/
structure StateFramed (packetType : UInt8) (data : Rp2040State) (frame : List UInt8) : Prop where
  /-- The length that the host waits for. -/
  length : frame.length = 34
  /-- The start marker. -/
  start : byteAt frame 0 = 0xFE
  /-- The type. -/
  type : byteAt frame 1 = packetType
  /-- The size of the state. -/
  size : word16At frame 2 = 29
  /-- The packed state. -/
  payload : (frame.drop 4).take 29 = data.bytes
  /-- The end marker. -/
  stop : byteAt frame 33 = 0xFF
  /-- Every member is recovered. -/
  decoded : decodeState frame = data

/-- A state frame is read back, whatever it holds. -/
theorem stateFrame_framed (packetType : UInt8) (data : Rp2040State) :
    StateFramed packetType data (stateFrame packetType data) := by
  have decoded : decodeState (stateFrame packetType data) = data := by
    simp [decodeState, stateFrame, Rp2040State.bytes, bytes16, bytes32, stateOffset, word16At,
      word32At, byteAt]
  have shape : stateFrame packetType data =
      startMarker :: packetType :: 29 :: 0 :: (data.bytes ++ [endMarker]) := rfl
  have bytes : data.bytes.length = 29 := data.bytes_length
  refine ⟨?_, rfl, rfl, LittleEndian.word16_split 29, ?_, ?_, decoded⟩
  · simp [shape, bytes]
  · rw [shape]
    exact List.take_left' bytes
  · simp [shape, byteAt, bytes, endMarker]

/-- The type of the state frame that answers an outcome. -/
def Outcome.frameType? : Outcome → Option UInt8
  | .nack => some RobotFirmware.nack
  | .packet packetType _ =>
    if packetType = setMotorLevel ∨ packetType = getStateType then some packetType else none

/-- What is sent for an outcome: a state frame of its type, a log frame, or nothing. -/
structure Outcome.Framed (outcome : Outcome) (data : Rp2040State) (sent : List UInt8) : Prop where
  /-- A state frame holds the state. -/
  framed : ∀ packetType ∈ outcome.frameType?, StateFramed packetType data sent
  /-- Any other frame is a log frame that was asked for. -/
  other : outcome.frameType? = none → sent = [] ∨
    ∃ request dataSize payload, outcome = .packet getLog request ∧
      sent = logFrame dataSize payload

section Calls

variable {rp2040State : Rp2040State} {rounds : Nat} {prior trace : List (Event Ans)}
  {state final : SerialState}

/-- What a call of `get_block` sends, from every reachable state, is nothing, a log frame that
was asked for, or a state frame of 34 bytes whose type fits the outcome and from which the
host recovers the state in the outgoing packet; and it would recover every other state. -/
theorem state_frames_decode (reached : (receiver rp2040State rounds).Runs prior (.done state))
    (returned : (getBlock.run state).Runs trace (.done ((), final))) :
    (handovers trace = [] ∧ sentBytes trace = [] ∨
      ∃ outcome, handovers trace = [outcome] ∧
        outcome.Framed final.outgoing.data (sentBytes trace)) ∧
    ∀ packetType data, StateFramed packetType data (stateFrame packetType data) := by
  refine ⟨?_, stateFrame_framed⟩
  obtain ⟨steady, nothing | ⟨outcome, handed, emits⟩⟩ :=
    Telemetry.call_answers reached returned (Telemetry.serves_none (.start 0) trace)
  · exact .inl nothing
  · refine .inr ⟨outcome, handed, ?_⟩
    have framed : StateFramed final.outgoing.packetType final.outgoing.data final.outgoing.bytes :=
      steady.marked.bytes_eq ▸ stateFrame_framed _ _
    generalize sentBytes trace = sent at emits
    cases emits with
    | nack marked =>
      refine ⟨?_, ?_⟩
      · rintro packetType ⟨⟩
        exact marked ▸ framed
      · rintro ⟨⟩
    | log data dataSize payload =>
      exact ⟨by rintro packetType ⟨⟩, fun _ => .inr ⟨data, dataSize, payload, rfl, rfl⟩⟩
    | state known echoed =>
      rw [echoed] at framed
      refine ⟨?_, ?_⟩
      · rw [Outcome.frameType?, if_pos known]
        rintro packetType ⟨⟩
        exact framed
      · rw [Outcome.frameType?, if_pos known]
        rintro ⟨⟩
    | silent unknown =>
      simp only [List.mem_cons, List.not_mem_nil, or_false, not_or] at unknown
      have none : ¬ (_ = setMotorLevel ∨ _ = getStateType) := not_or.mpr unknown.2
      refine ⟨?_, fun _ => .inl rfl⟩
      rw [Outcome.frameType?, if_neg none]
      rintro packetType ⟨⟩

end Calls

/-- A request for the state that follows a motor command is answered with 34 bytes that hold the
outgoing state. -/
theorem state_frames_decode_getState :
    ∃ call final, call = callAfter 1 [some 0xFE, some 1, some 7, some 9, some 0xFF]
        [some 0xFE, some 3, some 0, some 0, some 0xFF] ∧
      call.2.1 = .done ((), final) ∧ StateFramed 0x03 final.outgoing.data (sentBytes call.1) := by
  let earlier : List (Option UInt8) := [some 0xFE, some 1, some 7, some 9, some 0xFF]
  let received : List (Option UInt8) := [some 0xFE, some 3, some 0, some 0, some 0xFF]
  have returned : (callAfter 1 earlier received).2.1.isDone = true := by decide +kernel
  have handed : handovers (callAfter 1 earlier received).1 = [.packet 0x03 #v[0, 0]] := by
    decide +kernel
  obtain ⟨prior, state, reached, run⟩ := callAfter_runs 1 earlier received (by decide +kernel)
  obtain ⟨shown, same⟩ : ∃ shown, shown = callAfter 1 earlier received := ⟨_, rfl⟩
  rw [← same] at returned handed run
  have ended := Program.eq_done_valueD returned ((), .static)
  refine ⟨shown, _, same, ended, ?_⟩
  obtain ⟨⟨silent, _⟩ | ⟨outcome, produced, framed, _⟩, _⟩ :=
    state_frames_decode reached (ended ▸ run)
  · exact absurd (handed.symm.trans silent) (List.cons_ne_nil _ _)
  · obtain rfl : outcome = .packet 0x03 #v[0, 0] :=
      List.singleton_inj.mp (produced.symm.trans handed)
    exact framed 0x03 rfl

/-! ## Commanded and reported motor levels -/

/-- The levels that an outcome asks for, in place of the earlier ones. -/
def Outcome.command (levels : ControlValues) : Outcome → ControlValues
  | .nack => levels
  | .packet packetType data =>
    if packetType = setMotorLevel then ⟨data.get 0, data.get 1⟩ else levels

/-- The levels after some outcomes: the data of the last `SET_MOTOR_LEVEL`, zero before one. -/
def commanded (handed : List Outcome) : ControlValues := handed.foldl Outcome.command ⟨0, 0⟩

/-- The last outcome commands on top of the earlier ones. -/
theorem commanded_append (handed : List Outcome) (outcome : Outcome) :
    commanded (handed ++ [outcome]) = outcome.command (commanded handed) := by
  rw [commanded, List.foldl_append]
  rfl

section Levels

variable {rp2040State : Rp2040State} {rounds : Nat} {prior trace : List (Event Ans)}
  {state final : SerialState} {packetType : UInt8} {data : Vector UInt8 2}

/-- The reply to a request for the state echoes its type and holds what was gathered for it. -/
theorem state_reply {contents : Option (UInt8 → UInt8)} {selected : UInt8}
    (reached : (receiver rp2040State rounds).Runs prior (.done state))
    (returned : (getBlock.run state).Runs trace (.done ((), final)))
    (serves : (Telemetry.device contents).Serves (.start selected) trace)
    (request : handovers trace = [.packet packetType data])
    (known : packetType = setMotorLevel ∨ packetType = getStateType) :
    (decodeState (sentBytes trace)).motorsState.controlValues =
        (if packetType = setMotorLevel then ⟨data.get 0, data.get 1⟩ else ⟨0, 0⟩) ∧
      ∀ registers ∈ contents,
        (decodeState (sentBytes trace)).batteryDetails = Telemetry.batteryOf registers := by
  obtain ⟨steady, ⟨handed, _⟩ | ⟨outcome, handed, emits⟩⟩ :=
    Telemetry.call_answers reached returned serves
  · cases handed.symm.trans request
  · obtain rfl : outcome = .packet packetType data :=
      List.singleton_inj.mp (handed.symm.trans request)
    have framed : StateFramed final.outgoing.packetType final.outgoing.data final.outgoing.bytes :=
      steady.marked.bytes_eq ▸ stateFrame_framed _ _
    generalize sentBytes trace = sent at emits
    cases emits with
    | log data dataSize payload => exact absurd known (by decide)
    | state known echoed levels battery =>
      rw [framed.decoded]
      exact ⟨levels, battery⟩
    | silent unknown =>
      obtain rfl | rfl := known <;> simp at unknown

/-- In every run, the reply to a request for the state carries the levels commanded so far,
this request included, if and only if the request is itself a command or only zero levels
have been commanded before it. -/
theorem levels_reported_iff (reached : (receiver rp2040State rounds).Runs prior (.done state))
    (returned : (getBlock.run state).Runs trace (.done ((), final)))
    (request : handovers trace = [.packet packetType data])
    (known : packetType = setMotorLevel ∨ packetType = getStateType) :
    (decodeState (sentBytes trace)).motorsState.controlValues =
        commanded (handovers (prior ++ trace)) ↔
      packetType = setMotorLevel ∨ commanded (handovers prior) = ⟨0, 0⟩ := by
  have reply := state_reply reached returned (Telemetry.serves_none (.start 0) trace) request known
  have history : handovers (prior ++ trace) = handovers prior ++ [.packet packetType data] := by
    rw [handovers, List.filterMap_append]
    exact congrArg _ request
  rw [reply.1, history, commanded_append, Outcome.command]
  by_cases motor : packetType = setMotorLevel
  · rw [if_pos motor, if_pos motor]
    exact ⟨fun _ => .inl motor, fun _ => rfl⟩
  · rw [if_neg motor, if_neg motor, or_iff_right motor]
    exact eq_comm

end Levels

/-! ## Battery telemetry -/

/-- Truncation toward zero. -/
def truncate (value : ℚ) : ℤ := if 0 ≤ value then ⌊value⌋ else ⌈value⌉

/-- A temperature in tenths of a Kelvin as degrees Celsius. -/
def celsius (tenths : Nat) : ℚ := (tenths - 2731.5) / 10

/-- The little-endian word at a register. -/
def wordAt (registers : UInt8 → UInt8) (register : UInt8) : Nat :=
  (registers register).toNat + 256 * (registers (register + 1)).toNat

/-- The battery fields of a reply say what the registers of the fuel gauge hold. -/
structure BatteryDetails.Faithful (battery : BatteryDetails) (registers : UInt8 → UInt8) :
    Prop where
  /-- The voltage is the word at 0x08. -/
  voltage : battery.voltage.toNat = wordAt registers 0x08
  /-- The safety status is the low byte at 0x1A. -/
  safetyStatus : battery.safetyStatus = registers 0x1A
  /-- The temperature is the word at 0x06 in whole degrees Celsius. -/
  temperature : 2732 ≤ wordAt registers 0x06 →
    (battery.temperature.toNat : ℤ) = truncate (celsius (wordAt registers 0x06))
  /-- The state of health is the low byte at 0x2E. -/
  stateOfHealth : battery.stateOfHealth = registers 0x2E
  /-- The flags are the word at 0x0A. -/
  flags : battery.flags.toNat = wordAt registers 0x0A

/-- From 2732 tenths of a Kelvin on, the temperature in whole degrees is zero up to 2741. -/
theorem truncate_celsius_eq_zero {tenths : Nat} (positive : 2732 ≤ tenths) :
    truncate (celsius tenths) = 0 ↔ tenths ≤ 2741 := by
  have lower : (2732 : ℚ) ≤ tenths := by exact_mod_cast positive
  have nonneg : 0 ≤ celsius tenths := by
    rw [celsius]
    linarith
  rw [truncate, if_pos nonneg, Int.floor_eq_zero_iff, Set.mem_Ico, celsius]
  constructor
  · rintro ⟨_, below⟩
    have upper : (tenths : ℚ) < 2742 := by linarith
    exact Nat.lt_succ_iff.mp (by exact_mod_cast upper)
  · intro small
    have upper : (tenths : ℚ) ≤ 2741 := by exact_mod_cast small
    exact ⟨nonneg, by linarith⟩

/-- What is gathered from the registers is faithful when the temperature is: the getter returns
zero. -/
theorem batteryOf_faithful_iff (registers : UInt8 → UInt8) :
    (Telemetry.batteryOf registers).Faithful registers ↔ wordAt registers 0x06 ≤ 2741 := by
  constructor
  · intro faithful
    by_contra above
    have hot : 2732 ≤ wordAt registers 0x06 := by omega
    exact above ((truncate_celsius_eq_zero hot).mp (faithful.temperature hot).symm)
  · intro small
    exact ⟨LittleEndian.word16_toNat _ _, rfl,
      fun positive => ((truncate_celsius_eq_zero positive).mpr small).symm, rfl,
      LittleEndian.word16_toNat _ _⟩

section Battery

variable {rp2040State : Rp2040State} {rounds : Nat} {prior trace : List (Event Ans)}
  {state final : SerialState} {packetType : UInt8} {data : Vector UInt8 2}

/-- From every reachable state, and for all contents that the registers of the fuel gauge keep
during a request for the state, the battery fields of the reply are faithful if and only if
the temperature register holds at most 2741. -/
theorem battery_faithful_iff (reached : (receiver rp2040State rounds).Runs prior (.done state))
    (returned : (getBlock.run state).Runs trace (.done ((), final)))
    (registers : UInt8 → UInt8) (selected : UInt8)
    (constant : (Telemetry.device (some registers)).Serves (.start selected) trace)
    (request : handovers trace = [.packet packetType data])
    (known : packetType = setMotorLevel ∨ packetType = getStateType) :
    (decodeState (sentBytes trace)).batteryDetails.Faithful registers ↔
      wordAt registers 0x06 ≤ 2741 := by
  have reply := state_reply reached returned constant request known
  rw [reply.2 registers rfl]
  exact batteryOf_faithful_iff registers

end Battery

/-! ## Runs against a bench -/

/-- Answers from a list of inputs and a fuel gauge with fixed contents; the other devices
answer with zeros. -/
def benchAnswer (registers : UInt8 → UInt8) (received : List (Option UInt8))
    (telemetry : Telemetry) : (op : Op) → Option (Ans op × List (Option UInt8))
  | .getcharTimeoutUs _ => received.head?.map fun c => (c, received.tail)
  | .putchar _ => some ((), received)
  | .rp2040Log .. => some ((), received)
  | .sleepMs _ => some ((), received)
  | .cexceptionTry => some ((), received)
  | .enter _ => some ((), received)
  | .i2cWriteTimeoutUs _ _ src _ => some ((src.length : Int), received)
  | .i2cWriteBlocking _ _ src _ => some ((src.length : Int), received)
  | .i2cReadTimeoutUs i2c addr len _ =>
    some (((len : Int), .ofFn fun i =>
      if i2c = .i2c0 ∧ addr = Bq27742G1.addr then registers (telemetry.selected + UInt8.ofNat i)
      else 0), received)
  | .load _ => some (false, received)
  | .adcSelectInput _ => some ((), received)
  | .adcRead => some ((0 : UInt16), received)
  | .quadratureEncoderGetCount _ => some ((0 : Int32), received)
  | .strayRead _ => some ((0 : UInt8), received)
  | _ => none

/-- The bench, which also keeps what the host has seen. -/
def bench (registers : UInt8 → UInt8) (memory : List (Option UInt8) × Telemetry) (op : Op) :
    Option (Ans op × List (Option UInt8) × Telemetry) :=
  (benchAnswer registers memory.1 memory.2 op).map fun answered =>
    (answered.1, answered.2, memory.2.next op answered.1)

/-- The fuel gauge of the bench is honest. -/
theorem bench_serves {α : Type} (registers : UInt8 → UInt8) (program : Firmware α)
    (memory : List (Option UInt8) × Telemetry) :
    (Telemetry.device (some registers)).Serves memory.2
      (program.drive (bench registers) memory).1 := by
  refine Device.serves_drive (d := Telemetry.device (some registers)) ?_ program memory
  intro memory op answer later replied
  obtain ⟨answered, found, same⟩ := Option.map_eq_some_iff.mp replied
  obtain ⟨rfl, rfl⟩ := Prod.mk.inj same
  refine ⟨?_, rfl⟩
  cases op with
  | i2cReadTimeoutUs i2c addr len nostop =>
    cases i2c with
    | i2c0 =>
      obtain rfl := Option.some.inj found
      rintro rfl _ _ ⟨⟩ i
      have entry (f : Fin len → UInt8) : (Vector.ofFn f).get i = f i := Vector.getElem_ofFn i.isLt
      rw [entry, if_pos ⟨rfl, rfl⟩]
    | i2c1 => trivial
  | _ => trivial

/-- A call of `get_block` on the bench. -/
def benchCall (registers : UInt8 → UInt8) (state : SerialState) (frame : List UInt8) :
    List (Event Ans) × Firmware (Unit × SerialState) × List (Option UInt8) × Telemetry :=
  (getBlock.run state).drive (bench registers) (frame.map some, .start 0)

/-- The first round of `main` on the bench. -/
def benchRound (registers : UInt8 → UInt8) (frame : List UInt8) :
    List (Event Ans) × Firmware SerialState × List (Option UInt8) × Telemetry :=
  (receiver .zero 1).drive (bench registers) (frame.map some, .start 0)

/-- A call on the bench is served by its fuel gauge. -/
theorem benchCall_serves (registers : UInt8 → UInt8) (state : SerialState) (frame : List UInt8) :
    (Telemetry.device (some registers)).Serves (.start 0) (benchCall registers state frame).1 :=
  bench_serves registers (getBlock.run state) (frame.map some, .start 0)

/-- The bench after a call that returns. -/
theorem benchCall_runs {registers : UInt8 → UInt8} {state : SerialState} {frame : List UInt8}
    (returned : (benchCall registers state frame).2.1.isDone = true) :
    ∃ final, (getBlock.run state).Runs (benchCall registers state frame).1 (.done ((), final)) := by
  have ended := Program.eq_done_valueD returned ((), state)
  exact ⟨_, ended ▸ Program.drive_runs (bench registers) (frame.map some, .start 0)
    (getBlock.run state)⟩

/-- A fuel gauge at 26.85 degrees. -/
def warm (register : UInt8) : UInt8 :=
  if register = 0x06 then 0xB8 else if register = 0x07 then 0x0B else 0

/-- The statics after a command with two levels. -/
def afterLevels : SerialState := (benchRound warm [0xFE, 1, 7, 9, 0xFF]).2.1.valueD .static

/-- A request for the state right after that command. -/
@[irreducible] def stateRequest :
    List (Event Ans) × Firmware (Unit × SerialState) × List (Option UInt8) × Telemetry :=
  benchCall warm afterLevels [0xFE, 3, 0, 0, 0xFF]

/-- The receiver reaches these statics. -/
theorem afterLevels_reached :
    (receiver .zero 1).Runs (benchRound warm [0xFE, 1, 7, 9, 0xFF]).1 (.done afterLevels) := by
  have returned : (benchRound warm [0xFE, 1, 7, 9, 0xFF]).2.1.isDone = true := by decide +kernel
  exact Program.eq_done_valueD returned .static ▸
    Program.drive_runs (bench warm) ([0xFE, 1, 7, 9, 0xFF].map some, .start 0) (receiver .zero 1)

/-- The request hands over a packet without data. -/
theorem stateRequest_handed : handovers stateRequest.1 =
    [.packet getStateType (.replicate 2 0)] := by
  decide +kernel

/-- The call returns. -/
theorem stateRequest_returned :
    ∃ final, (getBlock.run afterLevels).Runs stateRequest.1 (.done ((), final)) := by
  have returned : (benchCall warm afterLevels [0xFE, 3, 0, 0, 0xFF]).2.1.isDone = true := by
    decide +kernel
  unfold stateRequest
  exact benchCall_runs returned

/-- The call is served by the warm fuel gauge. -/
theorem stateRequest_serves :
    (Telemetry.device (some warm)).Serves (.start 0) stateRequest.1 := by
  unfold stateRequest
  -- with the frame fixed, elaboration would run the whole call
  generalize ([0xFE, 3, 0, 0, 0xFF] : List UInt8) = frame
  exact benchCall_serves warm afterLevels frame

/-- The levels are reported or not, as the condition says. -/
theorem levels_reported_iff_stateRequest :
    (decodeState (sentBytes stateRequest.1)).motorsState.controlValues =
        commanded (handovers ((benchRound warm [0xFE, 1, 7, 9, 0xFF]).1 ++ stateRequest.1)) ↔
      getStateType = setMotorLevel ∨
        commanded (handovers (benchRound warm [0xFE, 1, 7, 9, 0xFF]).1) = ⟨0, 0⟩ := by
  obtain ⟨final, returned⟩ := stateRequest_returned
  exact levels_reported_iff afterLevels_reached returned stateRequest_handed (.inr rfl)

/-- Not every reply carries the levels commanded last: the reply to a request for the state
says zero. -/
theorem levels_unreported :
    ¬ ∀ (rp2040State : Rp2040State) (rounds : Nat) (prior trace : List (Event Ans))
        (state final : SerialState) (packetType : UInt8) (data : Vector UInt8 2),
      (receiver rp2040State rounds).Runs prior (.done state) →
      (getBlock.run state).Runs trace (.done ((), final)) →
      handovers trace = [.packet packetType data] →
      packetType = setMotorLevel ∨ packetType = getStateType →
      (decodeState (sentBytes trace)).motorsState.controlValues =
        commanded (handovers (prior ++ trace)) := by
  intro reported
  obtain ⟨final, returned⟩ := stateRequest_returned
  have same := reported _ _ _ _ _ _ _ _ afterLevels_reached returned stateRequest_handed (.inr rfl)
  exact absurd (congrArg ControlValues.left same) (by decide +kernel)

/-- The battery fields are faithful or not, as the condition says. -/
theorem battery_faithful_iff_warm :
    (decodeState (sentBytes stateRequest.1)).batteryDetails.Faithful warm ↔
      wordAt warm 0x06 ≤ 2741 := by
  obtain ⟨final, returned⟩ := stateRequest_returned
  exact battery_faithful_iff afterLevels_reached returned warm 0 stateRequest_serves
    stateRequest_handed (.inr rfl)

/-- Not every reply is faithful: 3000 tenths of a Kelvin are reported as zero degrees. -/
theorem battery_unfaithful :
    ¬ ∀ (rp2040State : Rp2040State) (rounds : Nat) (prior trace : List (Event Ans))
        (state final : SerialState) (packetType : UInt8) (data : Vector UInt8 2)
        (registers : UInt8 → UInt8) (selected : UInt8),
      (receiver rp2040State rounds).Runs prior (.done state) →
      (getBlock.run state).Runs trace (.done ((), final)) →
      (Telemetry.device (some registers)).Serves (.start selected) trace →
      handovers trace = [.packet packetType data] →
      packetType = setMotorLevel ∨ packetType = getStateType →
      (decodeState (sentBytes trace)).batteryDetails.Faithful registers := by
  intro faithful
  obtain ⟨final, returned⟩ := stateRequest_returned
  have same := faithful _ _ _ _ _ _ _ _ warm 0 afterLevels_reached returned stateRequest_serves
    stateRequest_handed (.inr rfl)
  have read : (decodeState (sentBytes stateRequest.1)).batteryDetails.temperature.toNat = 0 := by
    decide +kernel
  have warmth : wordAt warm 0x06 = 3000 := by decide
  have temperature := same.temperature (by rw [warmth]; decide)
  rw [read, warmth] at temperature
  exact absurd ((truncate_celsius_eq_zero (by decide)).mp temperature.symm) (by decide)

end RobotFirmware
