import RobotFirmware.StartUp.Order

/-!
# The interrupt lines

The self tests drive the interrupt lines of the devices to see whether the firmware notices. A line
is borrowed for that: at most one at a time, it is only pulled low, and the robot serves the phone
only after all of them have been given back.
-/

namespace RobotFirmware

open Interaction
open TypeC (Thread)
open Max77958 (DriverHeader Keeping)

namespace StartUp

/-! ## What happens to the lines -/

/-- A change of the direction of an interrupt pin, and whether it becomes an output. -/
def StartOp.turn? : StartOp → Option (Nat × Bool)
  | .platform (.gpioSetDir gpio out) =>
    if interruptPins.contains gpio then some (gpio, out) else none
  | _ => none

/-- Interrupt pins are only put low. -/
def StartOp.low : StartOp → Bool
  | .platform (.gpioPut gpio value) => !(value && interruptPins.contains gpio)
  | _ => true

/-- A byte of the phone is awaited. -/
def StartOp.receives : StartOp → Bool
  | .platform (.getcharTimeoutUs _) => true
  | _ => false

/-- The outputs after another change of direction. -/
def turned (outputs : List Nat) (turn : Nat × Bool) : List Nat :=
  if turn.2 then outputs.insert turn.1 else outputs.erase turn.1

/-- The interrupt pins that are outputs after some changes of direction. -/
def outputs (turns : List (Nat × Bool)) : List Nat := turns.foldl turned []

/-- The changes of direction in a trace. -/
def turns (trace : List (Event StartAns)) : List (Nat × Bool) :=
  trace.filterMap fun event => event.op.turn?

/-- The last turn is applied last. -/
@[simp] theorem outputs_snoc (turns : List (Nat × Bool)) (turn : Nat × Bool) :
    outputs (turns ++ [turn]) = turned (outputs turns) turn := List.foldl_concat ..

/-- Watch the directions. A pin becomes an output, and a byte is awaited, only while no pin is an
output. -/
abbrev lending : Monitor StartAns :=
  .noting (fun op _ => op.turn?) fun turns op => op.low = true ∧
    (op.receives = true → outputs turns = []) ∧
    ∀ turn ∈ op.turn?, turn.2 = true → outputs turns = []

/-- Not more than one pin is an output. -/
theorem outputs_single {seen : List (Nat × Bool)} {trace : List (Event StartAns)}
    (accepted : lending.Accepts seen trace) (few : (outputs seen).length ≤ 1) :
    (outputs (seen ++ turns trace)).length ≤ 1 := by
  induction trace generalizing seen with
  | nil => simpa [turns] using few
  | cons event trace ih =>
    obtain ⟨⟨_, _, free⟩, later⟩ := accepted
    have next : (outputs (seen ++ event.op.turn?.toList)).length ≤ 1 := by
      cases turn? : event.op.turn? with
      | none => simpa using few
      | some turn =>
        rw [turn?] at free
        simp only [Option.toList_some, outputs_snoc, turned]
        split
        · rw [free turn rfl ‹_›]
          exact Nat.le_refl 1
        · exact Nat.le_trans List.length_erase_le few
    have both : turns (event :: trace) = event.op.turn?.toList ++ turns trace := by
      rw [turns, List.filterMap_cons]
      cases event.op.turn? <;> rfl
    rw [both, ← List.append_assoc]
    exact ih later next

/-! ## Kinds of operations -/

/-- The operation changes no direction of an interrupt pin, and awaits no byte. -/
def StartOp.aloof (op : StartOp) : Bool := op.low && op.turn?.isNone && !op.receives

/-- The operation makes no interrupt pin an output. -/
def StartOp.releases (op : StartOp) : Bool := op.low && op.turn?.all fun turn => !turn.2

/-- The operations of the rest of the firmware that are aloof. -/
abbrev Aloof (op : Op) : Prop := StartOp.aloof (.platform op) = true

/-- The operations of the rest of the firmware that make no interrupt pin an output. -/
abbrev Releases (op : Op) : Prop := StartOp.releases (.platform op) = true

/-- Which interrupt pin is an output, if any. -/
abbrev Lent (taken : Option Nat) (seen : List (Nat × Bool)) : Prop := outputs seen = taken.toList

/-- Routine operations turn no line. -/
theorem routine_aloof (op : Op) (routine : op.Routine) : Aloof op := by
  cases op <;> first | exact routine.elim | rfl

/-- While no pin is an output, that stays so. -/
theorem lending_releases (seen : List (Nat × Bool)) (op : StartOp) (releases : op.releases = true)
    (free : Lent none seen) :
    lending.allows seen op ∧ ∀ answer, Lent none (lending.next seen op answer) := by
  obtain ⟨low, inputs⟩ := Bool.and_eq_true_iff.mp releases
  have empty : outputs seen = [] := free
  refine ⟨⟨low, fun _ => empty, fun _ _ _ => empty⟩, fun _ => ?_⟩
  change outputs (seen ++ op.turn?.toList) = []
  cases turn? : op.turn? with
  | none => simpa using empty
  | some turn =>
    rw [turn?] at inputs
    have input : turn.2 = false := by simpa using inputs
    simp [turned, input, empty]

/-- An aloof operation changes nothing, whatever is an output. -/
theorem lending_aloof {holds : List (Nat × Bool) → Prop} (seen : List (Nat × Bool)) (op : StartOp)
    (aloof : op.aloof = true) (before : holds seen) :
    lending.allows seen op ∧ ∀ answer, holds (lending.next seen op answer) := by
  simp only [StartOp.aloof, Bool.and_eq_true, Option.isNone_iff_eq_none, Bool.not_eq_true'] at aloof
  obtain ⟨⟨low, still⟩, deaf⟩ := aloof
  refine ⟨⟨low, fun receives => ?_, fun turn found => ?_⟩, fun _ => ?_⟩
  · rw [deaf] at receives
    cases receives
  · rw [still] at found
    cases found
  · change holds (seen ++ op.turn?.toList)
    rw [still]
    simpa using before

/-! ## The tests -/

/-- Nor do transfers from and to the charger. -/
theorem charger_aloof : Max77976.Exchanges Aloof where
  routine := routine_aloof
  select _ _ := rfl
  mask _ := rfl
  read _ _ := rfl

/-- Nor those from and to the fault registers. -/
theorem motors_aloof : Drv8830.Exchanges Aloof where
  routine := routine_aloof
  write _ _ _ := rfl
  read _ _ _ := rfl

/-- The tests take a pin while no other is an output, and give it back. -/
theorem borrowing_lends : Borrowing (lending.along StartOp.platform) Lent Aloof where
  routine := routine_aloof
  get _ _ := rfl
  pullUp _ _ := rfl
  load _ := rfl
  store _ _ := rfl
  await _ := rfl
  keeps _ seen op := lending_aloof seen (.platform op)
  take gpio listed seen free := by
    have turn : StartOp.turn? (.platform (.gpioSetDir gpio true)) = some (gpio, true) :=
      if_pos (List.contains_iff_mem.mpr listed)
    have empty : outputs seen = [] := free
    refine ⟨⟨rfl, fun _ => free, fun _ _ _ => free⟩, fun _ => ?_⟩
    change outputs (seen ++ (StartOp.turn? (.platform (.gpioSetDir gpio true))).toList) = [gpio]
    simp [turn, turned, empty]
  give gpio listed seen lent := by
    have turn : StartOp.turn? (.platform (.gpioSetDir gpio false)) = some (gpio, false) :=
      if_pos (List.contains_iff_mem.mpr listed)
    have single : outputs seen = [gpio] := lent
    refine ⟨⟨rfl, Bool.noConfusion, fun other found out => ?_⟩, fun _ => ?_⟩
    · rw [turn] at found
      obtain rfl := Option.some.inj found
      cases out
    · change outputs (seen ++ (StartOp.turn? (.platform (.gpioSetDir gpio false))).toList) = []
      simp [turn, turned, single]

/-! ## The rest of the firmware -/

section Parts

/-- Routine operations take no line. -/
theorem routine_releases (op : Op) (routine : op.Routine) : Releases op := by
  cases op <;> first | exact routine.elim | rfl

/-- Nor do transfers from and to the fuel gauge. -/
theorem gauge_releases : Bq27742G1.Exchanges Releases :=
  ⟨routine_releases, fun _ _ => rfl, fun _ _ => rfl⟩

/-- Nor those from and to the charger. -/
theorem charger_releases : Max77976.Exchanges Releases :=
  ⟨routine_releases, fun _ _ => rfl, fun _ => rfl, fun _ _ => rfl⟩

/-- The interrupt handler leaves the lines alone. -/
theorem handling_aloof : Handling Aloof :=
  ⟨routine_aloof, fun _ _ => rfl, fun _ => rfl, fun _ => rfl, fun _ _ => rfl, rfl,
    fun _ _ => rfl⟩

/-- The loop in `main` does not take a line. -/
theorem serving_releases : Serving Releases where
  gauge := gauge_releases
  charger := charger_releases
  motors := ⟨routine_releases, fun _ _ _ => rfl, fun _ _ _ => rfl⟩
  control _ _ _ := rfl
  attached := rfl
  select _ _ := rfl
  convert := rfl
  count _ _ := rfl
  receive _ := rfl
  send _ := rfl
  acquire := rfl
  release := rfl
  size := rfl
  flush := rfl
  strayRead _ _ _ := rfl
  enter _ := rfl

variable [DriverHeader]

/-- Core 1 leaves them alone, too. -/
theorem calling_aloof : Calling Aloof where
  gauge := ⟨routine_aloof, fun _ _ => rfl, fun _ _ => rfl⟩
  charger := charger_aloof
  motors := motors_aloof
  controls op controls := by
    cases op <;> first | exact controls.elim | rfl
  strayed := rfl
  store _ _ _ := rfl
  get := rfl
  enable _ _ := rfl

/-- The driver of the MAX77958 takes its line in its test only. -/
theorem keeping_releases : Keeping (lending.along StartOp.platform) (Lent none) Releases where
  keeps seen op := lending_releases seen (.platform op)
  transfers := ⟨routine_releases, fun _ _ => rfl, fun _ => rfl, fun _ => rfl⟩
  store _ _ := rfl
  await _ := rfl
  storeReply _ := rfl
  loadReply := rfl
  stray _ _ _ := rfl
  enter _ := rfl
  message := rfl
  add _ _ := rfl
  level := rfl
  pop := .of_kind (fun seen op => lending_releases seen (.platform op))
    (Max77958.opcodeQueuePop_within.mono fun op queueing => by
      cases op <;> first | exact queueing.elim | rfl)

omit [DriverHeader] in
/-- Setting up leaves the lines inputs. -/
theorem setsUp_releases (op : StartOp) (setsUp : op.SetsUp) : op.releases = true := by
  cases op with
  | platform op =>
    cases op with
    | gpioPut gpio value =>
      cases value with
      | false => rfl
      | true => simp [StartOp.releases, StartOp.low, StartOp.turn?, setsUp rfl]
    | gpioSetDir gpio out =>
      cases out with
      | false =>
        simp only [StartOp.releases, StartOp.low, StartOp.turn?, Bool.true_and]
        split <;> rfl
      | true => simp [StartOp.releases, StartOp.low, StartOp.turn?, setsUp rfl]
    | _ => first | exact setsUp.elim | rfl
  | _ => first | exact setsUp.elim | rfl

/-- Every part of the firmware leaves no line an output. -/
theorem powering_releases : Powering lending (Lent none) fun op => op.releases = true where
  controller := keeping_releases
  charger := charger_releases
  drives := borrowing_lends.driveInterrupt
  devices := borrowing_lends.deviceTests charger_aloof motors_aloof
  null := .of_kind lending_releases (.act rfl)
  scan _ block := .of_kind lending_releases
    ((i2cScan_asks _ block).mono fun op asks => by obtain rfl | ⟨_, rfl⟩ := asks <;> rfl)
  keeps := lending_releases
  serving := serving_releases
  setsUp := setsUp_releases
  strayed := rfl
  setting _ _ := rfl
  shifter := rfl
  init := keeping_releases.init rfl rfl rfl rfl rfl rfl
  finish := Bq27742G1.initEnd_allowed routine_releases rfl (fun _ _ => rfl) rfl (fun _ => rfl) rfl

variable {patience rounds : Nat} {blocks : I2c → Vector UInt8 maxDevices}
  {rp2040State : Rp2040State} {config : board.recorded.Config}

/-- The other threads leave the lines alone. -/
theorem others_aloof (reached : System.Reaches (fun _ _ => True)
      (powerOn (main patience blocks rp2040State rounds)).recording config)
    {entry : Thread × Event StartAns} (member : entry ∈ config.shared.2)
    (other : entry.1 ≠ Thread.core0) :
    entry.2.op.low = true ∧ entry.2.op.turn? = none := by
  have aloof : entry.2.op.aloof = true :=
    @others_performed _ _ _ (fun _ op => op.aloof = true) handling_aloof calling_aloof reached
      entry member other
  simp only [StartOp.aloof, Bool.and_eq_true, Option.isNone_iff_eq_none] at aloof
  exact aloof.1

/-- From the moment that the board is switched on, in every interleaving: only core 0 changes the
direction of an interrupt pin, no interrupt pin is ever put high, at most one of them is an output,
and none is when core 0 waits for a byte of the phone. -/
theorem lines_returned (reached : System.Reaches (fun _ _ => True)
      (powerOn (main patience blocks rp2040State rounds)).recording config) :
    (∀ entry ∈ config.shared.2, entry.2.op.low = true ∧
      (entry.2.op.turn? ≠ none → entry.1 = Thread.core0)) ∧
    (outputs (turns (recordOf config))).length ≤ 1 ∧
    ∀ op ∈ (config.programs Thread.core0).next?, op.receives = true →
      outputs (turns (recordOf config)) = [] := by
  have guards := powering_releases.main patience blocks rp2040State rounds [] rfl
  have run := core0_run reached
  have accepted := (guards.run run).1
  have same : turns (recordOf config) = turns (System.ownTrace config.shared.2 Thread.core0) :=
    System.filterMap_ownTrace _ fun _ member other => (others_aloof reached member other).2
  refine ⟨fun entry member => ?_, ?_, fun op next receives => ?_⟩
  · by_cases own : entry.1 = Thread.core0
    · obtain ⟨_, low, _⟩ := accepted.allowed (own ▸ System.mem_ownTrace member)
      exact ⟨low, fun _ => own⟩
    · obtain ⟨low, still⟩ := others_aloof reached member own
      exact ⟨low, fun turns => absurd still turns⟩
  · rw [same]
    exact outputs_single accepted (Nat.zero_le 1)
  · have allowed := guards.allows_next run next
    rw [Monitor.noting_after] at allowed
    rw [same]
    exact allowed.2.1 receives

end Parts

/-- The start stops where it waits for the interrupt of the MAX77958. -/
def beforeCompleted : StartOp → Bool
  | .platform (.await .testMax77958Completed) => false
  | _ => true

/-- The start up to there. -/
def lent [DriverHeader] : board.recorded.Config :=
  started.driveRecorded Thread.core0 id (reply beforeCompleted) Machine.off

/-- By then the line has been taken. -/
theorem lent_outputs : outputs (turns (@recordOf Max77958.sampleHeader
    (@lent Max77958.sampleHeader))) = [Max77958.gpioInterrupt] := by
  decide +kernel

/-- It is the only one. -/
theorem lines_returned_lent :
    let _ := Max77958.sampleHeader
    outputs (turns (recordOf lent)) = [Max77958.gpioInterrupt] ∧
      (outputs (turns (recordOf lent))).length ≤ 1 := by
  let _ := Max77958.sampleHeader
  exact ⟨lent_outputs, (lines_returned (reaches_recorded beforeCompleted)).2.1⟩

end StartUp

end RobotFirmware
