import RobotFirmware.StartUp.Order

/-!
# Accesses outside of objects

The model shows an access outside of every object as an operation of its own. Whatever interrupts
and however long the loop of `main` goes on, the start-up and the loop make only a few of them, each
at a known place of the source.
-/

namespace RobotFirmware

open Interaction
open TypeC (Thread)
open Max77958 (DriverHeader Buffers Keeping)

namespace StartUp

/-- The accesses outside of objects that are known on a thread: `max77976_get_interrupt_vals` clears
a fourth byte of three, `max77976_get_chg_details` reads behind a buffer of four bytes,
`test_max77958_snk_pdo_request` believes the number of data objects in a reply, and
`test_max77976_get_id` reads through a null pointer. -/
def StartOp.Contained : Thread → StartOp → Prop
  | thread, .platform (.strayStore index) => thread ≠ .interrupt ∧ index = 3
  | thread, .platform (.strayRead index) =>
    thread = .core0 ∧ (4 ≤ index ∧ index < 8 ∨ 33 ≤ index ∧ index ≤ 1021)
  | thread, .loadNull => thread = .core0
  | _, _ => True

/-- The operations of the rest of the firmware that make no other access. -/
abbrev Contains (thread : Thread) (op : Op) : Prop := StartOp.Contained thread (.platform op)

/-- Allow what is known on core 0. -/
abbrev containing : Monitor StartAns := ⟨Unit, fun _ => StartOp.Contained .core0, fun _ _ _ => ()⟩

/-- A part of the start that makes no other access. -/
abbrev Contained {α : Type} (program : Starting α) : Prop := containing.Keeps
    (fun _ => True) program

/-- A program of contained operations. -/
theorem Contained.within {α : Type} {program : Starting α}
    (inside : program.Within (StartOp.Contained .core0)) : Contained program :=
  .of_kind (fun _ _ contained _ => ⟨contained, fun _ => trivial⟩) inside

/-! ## What each part does -/

section Parts

variable {thread : Thread}

/-- Routine operations access no memory. -/
theorem routine_contained (op : Op) (routine : op.Routine) : Contains thread op := by
  cases op <;> first | exact routine.elim | exact trivial

/-- Nor do transfers from and to the fuel gauge. -/
theorem gauge_contained : Bq27742G1.Exchanges (Contains thread) :=
  ⟨routine_contained, fun _ _ => trivial, fun _ _ => trivial⟩

/-- Nor those from and to the charger. -/
theorem charger_contained : Max77976.Exchanges (Contains thread) :=
  ⟨routine_contained, fun _ _ => trivial, fun _ => trivial, fun _ _ => trivial⟩

/-- Nor those from and to the motor drivers. -/
theorem motors_contained : Drv8830.Exchanges (Contains thread) :=
  ⟨routine_contained, fun _ _ _ => trivial, fun _ _ _ => trivial⟩

/-- Interrupts make none of these accesses. -/
theorem handling_contained : Handling (Contains .interrupt) :=
  ⟨routine_contained, fun _ _ => trivial, fun _ => trivial, fun _ => trivial, fun _ _ => trivial,
    trivial, fun _ _ => trivial⟩

/-- Nor do the tests of the interrupts. -/
theorem testing_contained : Testing (Contains thread) :=
  ⟨⟨routine_contained, fun _ _ => trivial, fun _ _ => trivial, fun _ => trivial,
    fun _ _ => trivial, fun _ => trivial⟩, fun _ _ _ => trivial⟩

/-- The loop in `main` reads behind the details of the charger. -/
theorem serving_contained : Serving (Contains .core0) where
  gauge := gauge_contained
  charger := charger_contained
  motors := motors_contained
  control _ _ _ := trivial
  attached := trivial
  select _ _ := trivial
  convert := trivial
  count _ _ := trivial
  receive _ := trivial
  send _ := trivial
  acquire := trivial
  release := trivial
  size := trivial
  flush := trivial
  strayRead _ behind near := ⟨rfl, .inl ⟨behind, near⟩⟩
  enter _ := trivial

/-- Nor does setting up. -/
theorem setsUp_contained (op : StartOp) (setsUp : op.SetsUp) : op.Contained thread := by
  cases op with
  | platform op => cases op <;> first | exact setsUp.elim | exact trivial
  | _ => first | exact setsUp.elim | exact trivial

end Parts

section Robot

variable [DriverHeader]

/-- Core 1 clears the byte behind the interrupts of the charger. -/
theorem calling_contained : Calling (Contains .core1) where
  gauge := gauge_contained
  charger := charger_contained
  motors := motors_contained
  controls op controls := by
    cases op <;> first | exact trivial | exact controls.elim
  strayed := ⟨Thread.noConfusion, rfl⟩
  store _ _ _ := trivial
  get := trivial
  enable _ _ := trivial

/-- The driver of the MAX77958 reads behind a reply in the test of its data objects. -/
theorem keeping_contained :
    Keeping (containing.along StartOp.platform) (fun _ => True) (Contains .core0) where
  keeps _ _ contained _ := ⟨contained, fun _ => trivial⟩
  transfers := ⟨routine_contained, fun _ _ => trivial, fun _ => trivial, fun _ => trivial⟩
  store _ _ := trivial
  await _ := trivial
  storeReply _ := trivial
  loadReply := trivial
  stray _ behind near := ⟨rfl, .inr ⟨behind, near⟩⟩
  enter _ := trivial
  message := trivial
  add _ _ := trivial
  level := trivial
  pop := .of_kind (fun _ _ contained _ => ⟨contained, fun _ => trivial⟩)
    (Max77958.opcodeQueuePop_within.mono fun op queueing => by
      cases op <;> first | exact queueing.elim | exact trivial)

/-- The tests read through a null pointer. -/
theorem standing_contained : Standing containing (fun _ => True) (Contains .core0) where
  controller := keeping_contained
  charger := charger_contained
  drives patience := keeping_contained.inside (testing_contained.driveInterrupt_allowed patience)
  devices := keeping_contained.inside
    (testing_contained.deviceTests_allowed charger_contained motors_contained)
  null := Contained.within (.act rfl)
  scan _ block := Contained.within (i2cScan_allowed trivial (fun _ => trivial) block)

/-- Nor does any part of the firmware make another access, and `max77976_init` clears the byte
behind the interrupts. -/
theorem powering_contained :
    Powering containing (fun _ => True) (StartOp.Contained .core0) where
  toStanding := standing_contained
  keeps _ _ contained _ := ⟨contained, fun _ => trivial⟩
  serving := serving_contained
  setsUp := setsUp_contained
  strayed := ⟨Thread.noConfusion, rfl⟩
  setting _ _ := trivial
  shifter := trivial
  init := keeping_contained.init trivial trivial trivial trivial trivial trivial
  finish := Bq27742G1.initEnd_allowed routine_contained trivial (fun _ _ => trivial) trivial
    (fun _ => trivial) trivial

/-- `main` makes no other access. -/
theorem main_contained (patience : Nat) (blocks : I2c → Vector UInt8 maxDevices)
    (rp2040State : Rp2040State) (rounds : Nat) :
    (main patience blocks rp2040State rounds).Within (StartOp.Contained .core0) :=
  Program.within_of_guards
    (powering_contained.main patience blocks rp2040State rounds () trivial)
    fun _ _ contained => contained

/-- From the moment that the board is switched on, in every interleaving, the threads have made only
these accesses outside of objects. -/
theorem strays_contained {patience rounds : Nat} {blocks : I2c → Vector UInt8 maxDevices}
    {rp2040State : Rp2040State} {config : board.recorded.Config}
    (reached : System.Reaches (fun _ _ => True)
      (powerOn (main patience blocks rp2040State rounds)).recording config)
    {entry : Thread × Event StartAns} (member : entry ∈ config.shared.2) :
    StartOp.Contained entry.1 entry.2.op := by
  by_cases own : entry.1 = Thread.core0
  · have inside := main_contained patience blocks rp2040State rounds
    have performed := (inside.run (core0_run reached)).1 entry.2 (own ▸ System.mem_ownTrace member)
    rwa [own]
  · exact others_performed handling_contained calling_contained reached entry member own

end Robot

/-- A read through a null pointer. -/
def readsNull : StartOp → Bool
  | .loadNull => true
  | _ => false

/-- There is one such operation. -/
theorem eq_of_readsNull {op : StartOp} (reads : readsNull op = true) : op = .loadNull := by
  cases op <;> first | rfl | cases reads

/-- The start that gets stuck has made one. -/
theorem stuck_readsNull : (@stuck Max77958.sampleHeader).shared.2.any
    (fun entry => readsNull entry.2.op) = true := by
  decide +kernel

/-- It was made by core 0. -/
theorem strays_contained_stuck :
    let _ := Max77958.sampleHeader
    ∃ entry ∈ stuck.shared.2, entry.2.op = .loadNull ∧ StartOp.Contained entry.1 entry.2.op := by
  let _ := Max77958.sampleHeader
  obtain ⟨entry, member, reads⟩ := List.any_eq_true.mp stuck_readsNull
  exact ⟨entry, member, eq_of_readsNull reads, strays_contained reaches_stuck member⟩

end StartUp

end RobotFirmware
