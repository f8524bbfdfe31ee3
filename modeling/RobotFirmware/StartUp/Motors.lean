import RobotFirmware.Interaction.Schedule
import RobotFirmware.Serial.MotorWrites
import RobotFirmware.StartUp.Order

/-!
# The motors from the start on

The start stops both motors, turns them for a moment to watch the encoders, and stops them again.
From then on they are driven by the frames of the phone. What the motor drivers are told is counted
from the moment that the board is switched on, with everything that interrupts it.
-/

namespace RobotFirmware

open Interaction
open TypeC (Thread)
open Drv8830 (Motor)
open Max77958 (DriverHeader Buffers Keeping)

/-- An operation that neither receives nor writes a motor control register. -/
def Op.Still (op : Op) : Prop := op.controlWrite? = none ∧ ∀ answer, op.input? answer = none

namespace StartUp

/-! ## What the motors are told -/

/-- A write to a motor control register. -/
def StartOp.controlWrite? : StartOp → Option (Motor × UInt8)
  | .platform op => op.controlWrite?
  | _ => none

/-- The event that `get_block` reads. -/
def StartOp.input? : (op : StartOp) → StartAns op → Option (Option UInt8)
  | .platform op, answer => op.input? answer
  | _, _ => none

/-- The writes to the motor control registers in a trace. -/
def controlWrites (trace : List (Event StartAns)) : List (Motor × UInt8) :=
  trace.filterMap fun event => event.op.controlWrite?

/-- The events read in a trace. -/
def inputs (trace : List (Event StartAns)) : List (Option UInt8) :=
  trace.filterMap fun event => event.op.input? event.answer

/-- What `drv8830_init` writes. -/
def stopLevels : List (Motor × UInt8) := [(.left, 0), (.right, 0)]

/-- What the start writes: `drv8830_init` stops the motors, and then they turn until the encoders
have been counted. -/
def startLevels : List (Motor × UInt8) :=
  stopLevels ++ [(.left, 0x7A), (.right, 0x7A)] ++ stopLevels

/-- The level that was last written for a motor. -/
def commanded (levels : List (Motor × UInt8)) (motor : Motor) : Option UInt8 :=
  ((levels.filter fun level => level.1 = motor).getLast?).map Prod.snd

/-- No motor was last told to turn. -/
def Stopped (levels : List (Motor × UInt8)) : Prop :=
  ∀ motor, ∀ level ∈ commanded levels motor, level = 0

/-- A motor that has been told nothing does not turn. -/
theorem stopped_nil : Stopped [] := fun _ _ written => nomatch written

/-- The first writes stop both. -/
theorem stopped_stopLevels : Stopped stopLevels := by
  intro motor level written
  cases motor <;> exact (Option.some.inj written).symm

/-- So do the last ones of the start. -/
theorem stopped_startLevels : Stopped startLevels := by
  intro motor level written
  cases motor <;> exact (Option.some.inj written).symm

/-- 2.5 V forwards. -/
theorem controlByte_turn : Drv8830.controlByte 2.5 = 0x7A := by decide +kernel

/-- No voltage. -/
theorem controlByte_stop : Drv8830.controlByte 0 = 0 := by decide +kernel

/-! ## The monitor of the start -/

/-- The writes of the start. -/
abbrev turning : Schedule StartAns (Motor × UInt8) where
  plan := startLevels
  attempts := StartOp.controlWrite?
  performs op _ := op.controlWrite?
  attempted _ _ _ performed := performed

/-- Watch the writes of the start. Nothing is received, and nothing fails unless the motors are
stopped. -/
abbrev driving : Monitor StartAns :=
  turning.monitor fun done op =>
    (∀ answer, op.input? answer = none) ∧ (op = .platform .assertFalse → Stopped done)

/-- Nothing is read in a trace that is accepted. -/
theorem driving_inputs {done : List (Motor × UInt8)} {trace : List (Event StartAns)}
    (accepted : driving.Accepts done trace) : inputs trace = [] :=
  List.filterMap_eq_nil_iff.mpr fun event member => by
    obtain ⟨_, _, silent, _⟩ := accepted.allowed member
    exact silent event.answer

/-- The operation is still, on the way of the start. -/
def StartOp.Still (op : StartOp) : Prop :=
  op.controlWrite? = none ∧ ∀ answer, op.input? answer = none

/-- A still operation is allowed and changes nothing, unless it is a failure while a motor turns. -/
theorem driving_still {levels : List (Motor × UInt8)} (op : StartOp) (still : op.Still)
    (fails : op = .platform .assertFalse → Stopped levels) (state : driving.State)
    (same : state = levels) :
    driving.allows state op ∧ ∀ answer, driving.next state op answer = levels := by
  subst same
  exact Schedule.idle still.1 ⟨still.2, fails⟩

/-- What was written before and after a program. -/
abbrev Drives {α : Type} (before after : List (Motor × UInt8)) (program : Starting α) : Prop :=
  driving.Leads (· = before) (· = after) program

/-- The same for a function of the rest of the firmware. -/
abbrev Turns {α : Type} (before after : List (Motor × UInt8)) (program : Firmware α) : Prop :=
  (driving.along StartOp.platform).Leads (· = before) (· = after) program

section Phases

variable {α β : Type} {levels before middle after : List (Motor × UInt8)}

namespace Turns

/-- One program after another. -/
theorem bind {program : Firmware α} {next : α → Firmware β} (first : Turns before middle program)
    (second : ∀ value, Turns middle after (next value)) : Turns before after (program >>= next) :=
  Monitor.Leads.bind first second

/-- Still operations, while the motors are stopped. -/
theorem still (stopped : Stopped levels) {program : Firmware α} (inside : program.Within Op.Still) :
    Turns levels levels program :=
  Monitor.Keeps.of_kind (fun state _ still => driving_still _ still (fun _ => stopped) state) inside

/-- Still operations that do not fail. -/
theorem calm {program : Firmware α}
    (inside : program.Within fun op => op.Still ∧ op ≠ .assertFalse) :
    Turns levels levels program :=
  Monitor.Keeps.of_kind (fun state _ inside => driving_still _ inside.1
    (fun fails => absurd (StartOp.platform.inj fails) inside.2) state) inside

/-- A write that is due. -/
theorem setMotorControl {motor : Motor} {value : UInt8}
    (due : levels ++ [(motor, value)] <+: startLevels) :
    Turns levels (levels ++ [(motor, value)]) (Drv8830.setMotorControl motor value) := by
  have level : StartOp.controlWrite? (.platform (.i2cWriteBlocking .i2c0 motor.address
      [Drv8830.regControl, value] false)) = some (motor, value) := by
    simp [StartOp.controlWrite?, Op.controlWrite?, controlValue?]
  rintro state rfl
  simp [Drv8830.setMotorControl, level, due, StartOp.input?, Op.input?]

end Turns

namespace Drives

/-- One program after another. -/
theorem bind {program : Starting α} {next : α → Starting β} (first : Drives before middle program)
    (second : ∀ value, Drives middle after (next value)) : Drives before after (program >>= next) :=
  Monitor.Leads.bind first second

/-- A function of the rest of the firmware. -/
theorem platform {function : Firmware α} (turns : Turns before after function) :
    Drives before after (StartUp.platform function) :=
  fun state holds => Monitor.guards_embed.mpr (turns state holds)

/-- Still operations, while the motors are stopped. -/
theorem still (stopped : Stopped levels) {program : Starting α}
    (inside : program.Within StartOp.Still) : Drives levels levels program :=
  Monitor.Keeps.of_kind (fun state _ still => driving_still _ still (fun _ => stopped) state) inside

/-- And those of a function of the rest of the firmware. -/
theorem inside (stopped : Stopped levels) {function : Firmware α}
    (inside : function.Within Op.Still) : Drives levels levels (StartUp.platform function) :=
  platform (.still stopped inside)

end Drives

end Phases

/-! ## What is still -/

/-- Routine operations are still. -/
theorem routine_still (op : Op) (routine : op.Routine) : op.Still := by
  cases op <;> first | exact routine.elim | exact ⟨rfl, fun _ => rfl⟩

/-- A transfer that does not start at the control register of a motor driver is still. -/
theorem write_still {addr : UInt8} {src : List UInt8} {nostop : Bool}
    (apart : motorAt? addr = none ∨ src.head? ≠ some Drv8830.regControl) :
    Op.Still (.i2cWriteTimeoutUs .i2c0 addr src nostop) :=
  ⟨Reception.controlValue?_apart apart, fun _ => rfl⟩

/-- The fuel gauge is no motor driver. -/
theorem gauge_still : Bq27742G1.Exchanges Op.Still where
  routine := routine_still
  write _ _ := write_still (.inl rfl)
  read _ _ := ⟨rfl, fun _ => rfl⟩

/-- Nor is the charger. -/
theorem charger_still : Max77976.Exchanges Op.Still where
  routine := routine_still
  select _ _ := ⟨rfl, fun _ => rfl⟩
  mask _ := ⟨rfl, fun _ => rfl⟩
  read _ _ := ⟨rfl, fun _ => rfl⟩

/-- The fault registers are no control registers. -/
theorem motors_still : Drv8830.Exchanges Op.Still where
  routine := routine_still
  write _ _ _ := write_still (.inr fun same => absurd (Option.some.inj same) (by decide))
  read _ _ _ := ⟨rfl, fun _ => rfl⟩

/-- Nor do the interrupt tests write one. -/
theorem testing_still : Testing Op.Still where
  routine := routine_still
  get _ _ := ⟨rfl, fun _ => rfl⟩
  setDir _ _ _ := ⟨rfl, fun _ => rfl⟩
  pullUp _ _ := ⟨rfl, fun _ => rfl⟩
  load _ := ⟨rfl, fun _ => rfl⟩
  store _ _ := ⟨rfl, fun _ => rfl⟩
  await _ := ⟨rfl, fun _ => rfl⟩

/-- The driver of the MAX77958 leaves the motors alone. -/
theorem keeping_still [DriverHeader] {levels : List (Motor × UInt8)} (stopped : Stopped levels) :
    Keeping (driving.along StartOp.platform) (· = levels) Op.Still where
  keeps state op still := driving_still (.platform op) still (fun _ => stopped) state
  transfers := ⟨routine_still, fun _ _ => write_still (.inl MotorWrites.motorAt?_slaveP1),
    fun _ => ⟨rfl, fun _ => rfl⟩, fun _ => ⟨rfl, fun _ => rfl⟩⟩
  store _ _ := ⟨rfl, fun _ => rfl⟩
  await _ := ⟨rfl, fun _ => rfl⟩
  storeReply _ := ⟨rfl, fun _ => rfl⟩
  loadReply := ⟨rfl, fun _ => rfl⟩
  stray _ _ _ := ⟨rfl, fun _ => rfl⟩
  enter _ := ⟨rfl, fun _ => rfl⟩
  message := ⟨rfl, fun _ => rfl⟩
  add _ _ := ⟨rfl, fun _ => rfl⟩
  level := ⟨rfl, fun _ => rfl⟩
  pop := Turns.still stopped (Max77958.opcodeQueuePop_within.mono fun op queueing => by
    cases op <;> first | exact queueing.elim | exact ⟨rfl, fun _ => rfl⟩)

/-! ## The phases of the start -/

/-- Setting up leaves the motors alone. -/
theorem setsUp_still (op : StartOp) (setsUp : op.SetsUp) : op.Still := by
  cases op with
  | platform op => cases op <;> first | exact setsUp.elim | exact ⟨rfl, fun _ => rfl⟩
  | _ => first | exact setsUp.elim | exact ⟨rfl, fun _ => rfl⟩

/-- `on_start` up to the launch of core 1. -/
theorem startPlatform_still : startPlatform.Within StartOp.Still :=
  startPlatform_setsUp.mono setsUp_still

/-- `on_start` from there to `max77958_init`. -/
theorem startChargers_still : startChargers.Within StartOp.Still :=
  startChargers_allowed setsUp_still charger_still ⟨rfl, fun _ => rfl⟩
    (fun _ _ => ⟨rfl, fun _ => rfl⟩) ⟨rfl, fun _ => rfl⟩

/-- `bq27742_g1_init`. -/
theorem bq27742G1Init_still : bq27742G1Init.Within StartOp.Still := by
  have finish := Bq27742G1.initEnd_allowed routine_still ⟨rfl, fun _ => rfl⟩
    (fun _ _ => ⟨rfl, fun _ => rfl⟩) ⟨rfl, fun _ => rfl⟩ (fun _ => ⟨rfl, fun _ => rfl⟩)
    ⟨rfl, fun _ => rfl⟩
  exact bq27742G1Init_allowed setsUp_still gauge_still finish

/-- `drv8830_init` stops both motors. -/
theorem init_turns : Turns [] stopLevels Drv8830.init := by
  have still {levels : List (Motor × UInt8)} (stopped : Stopped levels) {op : Op}
      (still : op.Still) : Turns levels levels (perform op) := .still stopped (.act still)
  repeat refine .bind (still stopped_nil ⟨rfl, fun _ => rfl⟩) fun _ => ?_
  have left : Turns [] [(.left, 0)] (Drv8830.setVoltage .left 0) := by
    rw [Drv8830.setVoltage, controlByte_stop]
    exact .setMotorControl (by decide)
  have right : Turns [(.left, 0)] stopLevels (Drv8830.setVoltage .right 0) := by
    rw [Drv8830.setVoltage, controlByte_stop]
    exact .setMotorControl (by decide)
  exact left.bind fun _ => right.bind fun _ => still stopped_stopLevels ⟨rfl, fun _ => rfl⟩

/-- The motors turn and are stopped again, and nothing fails in between. -/
theorem turnMotors_turns (encoders : Encoder.EncoderRecord × Encoder.EncoderRecord) :
    Turns stopLevels startLevels (turnMotors encoders) := by
  have turn {levels : List (Motor × UInt8)} {motor : Motor}
      (due : levels ++ [(motor, 0x7A)] <+: startLevels) :
      Turns levels (levels ++ [(motor, 0x7A)]) (Drv8830.setVoltage motor 2.5) := by
    rw [Drv8830.setVoltage, controlByte_turn]
    exact .setMotorControl due
  have stop {levels : List (Motor × UInt8)} {motor : Motor}
      (due : levels ++ [(motor, 0)] <+: startLevels) :
      Turns levels (levels ++ [(motor, 0)]) (Drv8830.setVoltage motor 0) := by
    rw [Drv8830.setVoltage, controlByte_stop]
    exact .setMotorControl due
  have count (sm : Nat) : Op.Still (.quadratureEncoderGetCount sm) ∧
      Op.quadratureEncoderGetCount sm ≠ .assertFalse := ⟨⟨rfl, fun _ => rfl⟩, by simp⟩
  have log (format : String) (args : List LogArg) : Op.Still (.rp2040Log format args) ∧
      Op.rp2040Log format args ≠ .assertFalse := ⟨⟨rfl, fun _ => rfl⟩, by simp⟩
  have updated (pair : Encoder.EncoderRecord × Encoder.EncoderRecord) :
      (Encoder.quadEncoderUpdate pair).Within fun op => op.Still ∧ op ≠ .assertFalse :=
    ⟨count 0, fun _ => ⟨log _ _, fun _ => ⟨count 1, fun _ => ⟨log _ _, fun _ => trivial⟩⟩⟩⟩
  have counted {levels : List (Motor × UInt8)} :
      Turns levels levels (Program.iterate Encoder.quadEncoderUpdate 50 encoders) :=
    .calm (.iterate updated 50 encoders)
  have logged {levels : List (Motor × UInt8)} :
      Turns levels levels (rp2040Log "done counting, turning off motors\n" []) :=
    .calm (.act (log _ _))
  exact (turn (by decide)).bind fun _ => (turn (by decide)).bind fun _ => counted.bind fun _ =>
    logged.bind fun _ => (stop (by decide)).bind fun _ => (stop (by decide)).bind
      fun _ _ same => same

section Robot

variable [DriverHeader]

/-- `on_start` from `max77958_init` to the encoders. -/
theorem startRobot_drives (buffers : Buffers) : Drives [] stopLevels (startRobot buffers) := by
  have init := (keeping_still stopped_nil).init ⟨rfl, fun _ => rfl⟩ ⟨rfl, fun _ => rfl⟩
    ⟨rfl, fun _ => rfl⟩ ⟨rfl, fun _ => rfl⟩ ⟨rfl, fun _ => rfl⟩ ⟨rfl, fun _ => rfl⟩
  have controller : Drives [] [] (platform ((Max77958.init :
      Max77958.Driver Unit).run buffers)) := .platform (init buffers)
  have still {levels : List (Motor × UInt8)} (stopped : Stopped levels) {op : Op}
      (still : op.Still) : Drives levels levels (platform (perform op)) :=
    .inside stopped (.act still)
  have encoders : encoderInit.Within StartOp.Still := encoderInit_setsUp.mono setsUp_still
  refine controller.bind fun _ => (still stopped_nil ⟨rfl, fun _ => rfl⟩).bind fun _ =>
    (still stopped_nil ⟨rfl, fun _ => rfl⟩).bind fun _ =>
    (Drives.still stopped_nil bq27742G1Init_still).bind fun _ =>
    (Drives.inside stopped_nil (Bq27742G1.fwVersionCheck_allowed gauge_still)).bind fun _ =>
    (still stopped_nil ⟨rfl, fun _ => rfl⟩).bind fun _ =>
    (still stopped_nil ⟨rfl, fun _ => rfl⟩).bind fun _ =>
    (Drives.platform init_turns).bind fun _ =>
    (still stopped_stopLevels ⟨rfl, fun _ => rfl⟩).bind fun _ =>
    (Drives.still stopped_stopLevels encoders).bind fun _ => ?_
  repeat refine (still stopped_stopLevels ⟨rfl, fun _ => rfl⟩).bind fun _ => ?_
  exact fun _ same => same

/-- Once the motors have turned, they are left alone. -/
theorem standing_still : Standing driving (· = startLevels) Op.Still where
  controller := keeping_still stopped_startLevels
  charger := charger_still
  drives patience := (keeping_still stopped_startLevels).inside
    (testing_still.driveInterrupt_allowed patience)
  devices := (keeping_still stopped_startLevels).inside
    (testing_still.deviceTests_allowed charger_still motors_still)
  null := Drives.still stopped_startLevels (.act ⟨rfl, fun _ => rfl⟩)
  scan _ block := Drives.still stopped_startLevels (i2cScan_allowed ⟨rfl, fun _ => rfl⟩
    (fun _ => ⟨rfl, fun _ => rfl⟩) block)

/-- `on_start` writes what the start writes, and resets the receiver. -/
theorem onStart_drives (patience : Nat) (blocks : I2c → Vector UInt8 maxDevices)
    (rp2040State : Rp2040State) :
    driving.Guards [] (onStart patience blocks rp2040State .initial) fun levels statics =>
      levels = startLevels ∧ statics.serial = serialCommManagerInit rp2040State .static := by
  have platform : Drives [] [] startPlatform := .still stopped_nil startPlatform_still
  have chargers : Drives [] [] startChargers := .still stopped_nil startChargers_still
  have motors : Drives stopLevels startLevels (StartUp.platform (turnMotors Encoder.encoders)) :=
    .platform (turnMotors_turns _)
  refine platform.andThen (fun _ _ same => ?_) rfl
  refine chargers.andThen (fun _ _ same => ?_) same
  refine (startRobot_drives _).andThen (fun _ _ same => ?_) same
  refine motors.andThen (fun _ _ same => ?_) same
  refine Monitor.Leads.andThen (standing_still.robotUnitTests patience _) (fun _ _ same => ?_) same
  refine Monitor.Leads.andThen (standing_still.lookAround blocks _) (fun _ _ same => ?_) same
  exact ⟨same, rfl⟩

end Robot

/-! ## A run of `main` -/

/-- What `main` does after `on_start`. -/
def mainLoop (rounds : Nat) (serial : SerialState) : Firmware Unit := do
  perform (.sleepMs 1000)
  let _ ← serve rounds serial

/-- It keeps up with the phone. -/
theorem mainLoop_guards (rp2040State : Rp2040State) (rounds : Nat) :
    Reception.monitor.Guards .start
      (mainLoop rounds (serialCommManagerInit rp2040State .static))
      fun reception _ => reception.Resting := by
  have serves := Reception.guards_serve rounds (Reception.start_between rp2040State)
  have pause : (perform (.sleepMs 1000) : Firmware Unit).Within Reception.Quiet := .act rfl
  have served : Reception.monitor.Guards .start (do
      let _ ← serve rounds (serialCommManagerInit rp2040State .static) : Firmware Unit)
      fun reception _ => reception.Resting :=
    Monitor.guards_bind.mpr (serves.mono fun _ _ between => between.resting)
  exact Monitor.guards_bind.mpr (Reception.ignores_quiet.guards pause fun _ => served)

/-- Core 0 waits for the next byte of the phone, or has returned. -/
def AwaitsPhone (program : Starting Unit) : Prop :=
  program.isDone = true ∨ ∃ us, program.next? = some (.platform (.getcharTimeoutUs us))

/-- What waits for the phone waits for an input. -/
theorem AwaitsPhone.input {program : Firmware Unit} (awaits : AwaitsPhone (platform program)) :
    AwaitsInput program := by
  cases program with
  | done value => exact .inl rfl
  | perform op resume =>
    obtain returned | ⟨us, next⟩ := awaits
    · cases returned
    · exact .inr ⟨us, congrArg some (StartOp.platform.inj (Option.some.inj next))⟩

/-- What a run of `main` shows: the writes of the start and then those that the accepted frames ask
for, of which the last may still be due, and no failure before the first event while a motor
turns. -/
structure Driven (trace : List (Event StartAns)) (rest : Starting Unit) : Prop where
  /-- The writes, and those that are due. -/
  balance : ∃ pending, controlWrites trace ++ pending =
      startLevels ++ (Scanner.idle.outcomes (inputs trace)).flatMap Outcome.levels ∧
    (AwaitsPhone rest → pending = [])
  /-- A failure of the start. -/
  stopped : rest.next? = some (.platform .assertFalse) → inputs trace = [] →
    Stopped (controlWrites trace)

/-- A trace of the rest of the firmware shows the same among the operations of the start. -/
theorem controlWrites_embed (trace : List (Event Ans)) :
    controlWrites (trace.map (Event.embed StartOp.platform)) = RobotFirmware.controlWrites trace :=
  List.filterMap_map ..

/-- And so for the events that are read. -/
theorem inputs_embed (trace : List (Event Ans)) :
    inputs (trace.map (Event.embed StartOp.platform)) = RobotFirmware.inputs trace :=
  List.filterMap_map ..

section Run

variable [DriverHeader] {patience rounds : Nat} {blocks : I2c → Vector UInt8 maxDevices}
  {rp2040State : Rp2040State} {trace : List (Event StartAns)}

/-- During `on_start`. -/
theorem driven_starting {rest : Starting Statics}
    (run : (onStart patience blocks rp2040State .initial).Runs trace rest) :
    Driven trace (rest >>= fun statics => platform (mainLoop rounds statics.serial)) := by
  obtain ⟨accepted, left⟩ := (onStart_drives patience blocks rp2040State).run run
  have silent := driving_inputs accepted
  rw [Schedule.after_eq, List.nil_append] at left
  obtain ⟨pending, whole⟩ := Schedule.steps_planned accepted List.nil_prefix
  have balance : controlWrites trace ++ pending =
      startLevels ++ (Scanner.idle.outcomes (inputs trace)).flatMap Outcome.levels := by
    rw [silent]
    exact whole
  cases rest with
  | done statics =>
    -- the pause before the loop comes next
    refine ⟨⟨pending, balance, fun awaits => ?_⟩, fun failing _ => ?_⟩
    · obtain returned | ⟨us, next⟩ := awaits
      · cases returned
      · cases next
    · cases failing
  | perform op resume =>
    obtain ⟨⟨_, unread, fails⟩, _⟩ := left
    refine ⟨⟨pending, balance, fun awaits => ?_⟩, fun failing _ => ?_⟩
    · obtain returned | ⟨us, next⟩ := awaits
      · cases returned
      · obtain rfl : op = .platform (.getcharTimeoutUs us) := Option.some.inj next
        exact absurd (unread none) (by simp [StartOp.input?, Op.input?])
    · exact fails (Option.some.inj failing)

/-- During the loop. -/
theorem driven_serving {first later : List (Event StartAns)} {statics : Statics}
    {rest : Starting Unit}
    (whole : (onStart patience blocks rp2040State .initial).Runs first (.done statics))
    (run : (platform (mainLoop rounds statics.serial)).Runs later rest) :
    Driven (first ++ later) rest := by
  obtain ⟨accepted, levels, serial⟩ := (onStart_drives patience blocks rp2040State).run whole
  have silent := driving_inputs accepted
  rw [Schedule.after_eq, List.nil_append] at levels
  have turned : controlWrites first = startLevels := levels
  obtain ⟨inner, left, runs, rfl, rfl⟩ := run.of_embed
  rw [serial] at runs
  obtain ⟨kept, guards⟩ := (mainLoop_guards rp2040State rounds).run runs
  have written : controlWrites (first ++ inner.map (Event.embed StartOp.platform)) =
      startLevels ++ RobotFirmware.controlWrites inner := by
    rw [controlWrites, List.filterMap_append, ← controlWrites, ← controlWrites, turned,
      controlWrites_embed]
  have read : inputs (first ++ inner.map (Event.embed StartOp.platform)) =
      RobotFirmware.inputs inner := by
    rw [inputs, List.filterMap_append, ← inputs, ← inputs, silent, inputs_embed, List.nil_append]
  have balance := Reception.controlWrites_balance kept
  refine ⟨⟨_, by rw [written, read, List.append_assoc, balance], fun awaits => ?_⟩,
    fun _ early => ?_⟩
  · have settled := awaits_settled guards (fun _ _ resting => resting) awaits.input
    rw [settled.1, settled.2]
    rfl
  · rw [read] at early
    rw [early] at balance
    rw [written, (List.append_eq_nil_iff.mp balance).1, List.append_nil]
    exact stopped_startLevels

/-- Every run of `main`. -/
theorem main_driven {rest : Starting Unit}
    (run : (main patience blocks rp2040State rounds).Runs trace rest) : Driven trace rest := by
  obtain ⟨rest, inside, rfl⟩ | ⟨statics, first, later, whole, loop, rfl⟩ := run.bind_cases
  · exact driven_starting inside
  · exact driven_serving whole loop

end Run

/-! ## Every interleaving -/

/-- Interrupts are still. -/
theorem handling_still : Handling Op.Still where
  routine := routine_still
  acknowledge _ _ := ⟨rfl, fun _ => rfl⟩
  add _ := ⟨rfl, fun _ => rfl⟩
  load _ := ⟨rfl, fun _ => rfl⟩
  store _ _ := ⟨rfl, fun _ => rfl⟩
  get := ⟨rfl, fun _ => rfl⟩
  enable _ _ := ⟨rfl, fun _ => rfl⟩

section Interleavings

variable [DriverHeader]

/-- So is core 1. -/
theorem calling_still : Calling Op.Still where
  gauge := gauge_still
  charger := charger_still
  motors := motors_still
  controls op controls := by
    cases op with
    | i2cWriteTimeoutUs i2c addr =>
      cases i2c with
      | i2c0 =>
        obtain rfl : addr = DriverHeader.slaveP1 := controls
        exact write_still (.inl MotorWrites.motorAt?_slaveP1)
      | i2c1 => exact controls.elim
    | _ => first | exact ⟨rfl, fun _ => rfl⟩ | exact controls.elim
  strayed := ⟨rfl, fun _ => rfl⟩
  store _ _ _ := ⟨rfl, fun _ => rfl⟩
  get := ⟨rfl, fun _ => rfl⟩
  enable _ _ := ⟨rfl, fun _ => rfl⟩

variable {patience rounds : Nat} {blocks : I2c → Vector UInt8 maxDevices}
  {rp2040State : Rp2040State} {config : board.recorded.Config}

/-- In every interleaving, the board does what `main` does to the motors. -/
theorem record_driven (reached : System.Reaches (fun _ _ => True)
      (powerOn (main patience blocks rp2040State rounds)).recording config) :
    Driven (recordOf config) (config.programs Thread.core0) := by
  have run := core0_run reached
  have others := @others_performed _ _ _ (fun _ => StartOp.Still) handling_still
    calling_still reached
  have written : controlWrites (recordOf config) =
      controlWrites (System.ownTrace config.shared.2 Thread.core0) :=
    System.filterMap_ownTrace _ fun entry member apart => (others entry member apart).1
  have read : inputs (recordOf config) = inputs (System.ownTrace config.shared.2 Thread.core0) :=
    System.filterMap_ownTrace _ fun entry member apart => (others entry member apart).2 _
  obtain ⟨balance, stopped⟩ := main_driven run
  exact ⟨by rw [written, read]; exact balance, by rw [written, read]; exact stopped⟩

/-- From the moment that the board is switched on, in every interleaving, the writes to the motor
control registers are those of the start and then those that the accepted frames ask for, in their
order; none is missing when core 0 waits for the next byte. -/
theorem motors_driven (reached : System.Reaches (fun _ _ => True)
      (powerOn (main patience blocks rp2040State rounds)).recording config) :
    ∃ pending, controlWrites (recordOf config) ++ pending =
        startLevels ++ (Scanner.idle.outcomes (inputs (recordOf config))).flatMap Outcome.levels ∧
      (AwaitsPhone (config.programs Thread.core0) → pending = []) :=
  (record_driven reached).balance

/-- A check that fails on core 0 before the first event has been read leaves no motor turning: the
last level written for each of them, if any, is zero. -/
theorem stopped_at_failure (reached : System.Reaches (fun _ _ => True)
      (powerOn (main patience blocks rp2040State rounds)).recording config)
    (failing : (config.programs Thread.core0).next? = some (.platform .assertFalse))
    (early : inputs (recordOf config) = []) : Stopped (controlWrites (recordOf config)) :=
  (record_driven reached).stopped failing early

end Interleavings

/-! ## A run -/

/-- A program that is about to fail. -/
def failing (program : Starting Unit) : Bool :=
  match program.next? with
  | some (.platform .assertFalse) => true
  | _ => false

/-- The operation is known. -/
theorem next_of_failing {program : Starting Unit} (fails : failing program = true) :
    program.next? = some (.platform .assertFalse) := by
  unfold failing at fails
  split at fails
  · assumption
  · cases fails

/-- By then the motors have been turned and stopped. -/
theorem stuck_shows : failing ((@stuck Max77958.sampleHeader).programs Thread.core0) = true ∧
    inputs (@recordOf Max77958.sampleHeader (@stuck Max77958.sampleHeader)) = [] ∧
    controlWrites (@recordOf Max77958.sampleHeader (@stuck Max77958.sampleHeader)) =
      startLevels := by
  decide +kernel

/-- The check of the identity fails after both motors have turned, and leaves them stopped. -/
theorem stopped_at_failure_stuck :
    let _ := Max77958.sampleHeader
    (stuck.programs Thread.core0).next? = some (.platform .assertFalse) ∧
      Stopped (controlWrites (recordOf stuck)) ∧
      (.left, 0x7A) ∈ controlWrites (recordOf stuck) := by
  let _ := Max77958.sampleHeader
  obtain ⟨fails, early, levels⟩ := stuck_shows
  have next := next_of_failing fails
  have turned : (.left, 0x7A) ∈ controlWrites (recordOf stuck) := by
    rw [levels]
    decide
  exact ⟨next, stopped_at_failure reaches_stuck next early, turned⟩

/-- A board whose power supply has the expected identity and whose pins read as they are driven,
with a phone that sends bytes. -/
structure Attended where
  /-- What is set up. -/
  machine : Machine
  /-- The register of the power supply that is read next. -/
  selected : UInt8
  /-- What the phone still sends. -/
  heard : List UInt8
  /-- What a pin that is read reads as. -/
  level : Bool

namespace Attended

/-- The answer to an operation. -/
def answer (attended : Attended) : (op : StartOp) → Option (StartAns op)
  | .platform (.i2cReadTimeoutUs .i2c1 _ len _) =>
    some ((len : Int), .replicate len (if attended.selected = 0 then 0x76 else 0))
  | .platform (.getcharTimeoutUs _) => attended.heard.head?.map some
  | .platform (.putchar _) => some ()
  | .platform (.gpioGet _) => some attended.level
  | .platform (.adcSelectInput _) => some ()
  | .platform .adcRead => some (0 : UInt16)
  | .i2cReadBlocking _ _ len _ => some ((-2 : Int), .replicate len 0)
  | op => StartUp.answer attended.machine op

/-- What the board remembers of an operation. A pin that is no longer driven low is pulled up. -/
def after (attended : Attended) (machine : Machine) : StartOp → Attended
  | .platform (.i2cWriteTimeoutUs .i2c1 _ src _) =>
    { attended with machine := machine, selected := src.headD 0 }
  | .platform (.getcharTimeoutUs _) =>
    { attended with machine := machine, heard := attended.heard.tail }
  | .platform (.gpioSetDir _ out) => { attended with machine := machine, level := !out }
  | _ => { attended with machine := machine }

/-- Whatever it remembers, the board goes on as a board does. -/
theorem after_machine (attended : Attended) (machine : Machine) (op : StartOp) :
    (attended.after machine op).machine = machine := by
  unfold after
  split <;> rfl

/-- The board after an operation that is answered. -/
def reply (attended : Attended) (op : StartOp) : Option (StartAns op × Attended) :=
  (attended.answer op).bind fun answered =>
    (attended.machine.exec op answered).map fun machine => (answered, attended.after machine op)

/-- The board admits what it is answered. -/
theorem reply_admitted (attended : Attended) (op : StartOp) (answered : StartAns op)
    (next : Attended) (replied : attended.reply op = some (answered, next)) :
    attended.machine.exec op answered = some next.machine := by
  obtain ⟨found, _, moved⟩ := Option.bind_eq_some_iff.mp replied
  obtain ⟨machine, done, same⟩ := Option.map_eq_some_iff.mp moved
  obtain ⟨rfl, rfl⟩ := Prod.mk.inj same
  rw [after_machine]
  exact done

end Attended

section Serving

variable [DriverHeader]

/-- The firmware that is started and then serves the phone. -/
def serving : board.Config := powerOn (main 0 (fun _ => .replicate maxDevices 0) .zero 2)

/-- The phone asks it to turn both motors. -/
def steered : board.recorded.Config :=
  serving.driveRecorded Thread.core0 Attended.machine Attended.reply
    ⟨Machine.off, 0, [0xFE, 1, 7, 9, 0xFF], true⟩

/-- Core 0 runs to where it waits. -/
theorem reaches_steered : System.Reaches (fun _ _ => True) serving.recording steered := by
  have free (other : Thread) (hit : board.preempts other Thread.core0) :
      other ≠ Thread.core0 ∧ (serving.programs other).isDone = true := by
    obtain rfl : other = Thread.interrupt := hit.1
    exact ⟨Thread.noConfusion, rfl⟩
  exact @System.Reaches.driveRecorded _ _ board _ serving Thread.core0 Attended.machine
    Attended.reply ⟨Machine.off, 0, [0xFE, 1, 7, 9, 0xFF], true⟩ rfl Attended.reply_admitted free

end Serving

/-- A program that reads from the phone next. -/
def awaiting (program : Starting Unit) : Bool :=
  match program.next? with
  | some (.platform (.getcharTimeoutUs _)) => true
  | _ => false

/-- Then it waits for the phone. -/
theorem awaits_of_awaiting {program : Starting Unit} (waits : awaiting program = true) :
    AwaitsPhone program := by
  unfold awaiting at waits
  split at waits
  · exact .inr ⟨_, ‹_›⟩
  · cases waits

/-- The loop has accepted the frame and waits for the next byte. -/
theorem steered_shows :
    awaiting ((@steered Max77958.sampleHeader).programs Thread.core0) = true ∧
    controlWrites (@recordOf Max77958.sampleHeader (@steered Max77958.sampleHeader)) =
      startLevels ++ [(.left, 7), (.right, 9)] := by
  decide +kernel

/-- The loop of `main` runs and the phone asks for both motors: they are told so after the writes of
the start, and nothing is due when the next byte is waited for. -/
theorem motors_driven_steered :
    let _ := Max77958.sampleHeader
    controlWrites (recordOf steered) = startLevels ++ [(.left, 7), (.right, 9)] ∧
      controlWrites (recordOf steered) = startLevels ++
        (Scanner.idle.outcomes (inputs (recordOf steered))).flatMap Outcome.levels := by
  obtain ⟨waits, written⟩ := steered_shows
  have waiting := awaits_of_awaiting waits
  obtain ⟨pending, balance, settled⟩ :=
    @motors_driven Max77958.sampleHeader _ _ _ _ _ (@reaches_steered Max77958.sampleHeader)
  rw [settled waiting, List.append_nil] at balance
  exact ⟨written, balance⟩

end StartUp

end RobotFirmware
