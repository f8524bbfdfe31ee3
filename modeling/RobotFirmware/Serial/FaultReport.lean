import RobotFirmware.FuelGauge.DataFlash
import RobotFirmware.Serial.ChargerDetails
import RobotFirmware.SerialCommManager

/-!
# Motor faults in a state reply

On buses on which no transfer fails, each motor driver holds a fault register, and reacts to the
clear command with some new contents. A request for the state reads both registers, clears
them, and reads them again. It completes with what was read first, unless a fault bit is set in
what is read after the clear command: then it stops at an assertion.
-/

namespace RobotFirmware

open Interaction
open Drv8830 (Motor)

namespace FaultReport

/-- A motor driver. -/
structure Driver where
  /-- The register that is read next. -/
  selected : UInt8
  /-- The fault register. -/
  fault : UInt8

/-- A driver is written to, and its fault register takes the given value when it is cleared. -/
def Driver.write (driver : Driver) (reaction : UInt8) : List UInt8 → Driver
  | [] => driver
  | [reg] => ⟨reg, driver.fault⟩
  | reg :: value :: _ =>
    ⟨reg, if reg = Drv8830.regFault ∧ value &&& Drv8830.clearBit ≠ 0 then reaction
      else driver.fault⟩

/-- The two drivers. -/
abbrev Drivers : Type := Motor → Driver

/-- No transfer fails, and a selected fault register is what is read. -/
def gives (drivers : Drivers) : (op : Op) → Ans op → Prop
  | .i2cWriteTimeoutUs .., (result : Int) => 0 ≤ result
  | .i2cReadTimeoutUs i2c addr len _, answer =>
    0 ≤ answer.1 ∧ ∀ motor : Motor, i2c = .i2c0 → addr = motor.address →
      (drivers motor).selected = Drv8830.regFault →
        ∀ nonempty : 0 < len, answer.2.get ⟨0, nonempty⟩ = (drivers motor).fault
  | _, _ => True

/-- What a write does to the driver with the address. -/
def written (reaction : Motor → UInt8) (drivers : Drivers) (addr : UInt8) (src : List UInt8) :
    Drivers :=
  fun motor => if addr = motor.address then (drivers motor).write (reaction motor) src
    else drivers motor

/-- The drivers after an answered operation. -/
def next (reaction : Motor → UInt8) (drivers : Drivers) : (op : Op) → Ans op → Drivers
  | .i2cWriteTimeoutUs .i2c0 addr src _, _ => written reaction drivers addr src
  | .i2cWriteBlocking .i2c0 addr src _, (result : Int) =>
    if 0 ≤ result then written reaction drivers addr src else drivers
  | _, _ => drivers

/-- Drivers that react to the clear command in the given way. -/
abbrev device (reaction : Motor → UInt8) : Device Ans := ⟨Drivers, gives, next reaction⟩

variable {reaction : Motor → UInt8} {drivers : Drivers} {α : Type}

/-- Routine operations do not move the drivers. -/
theorem ignores_routine : (device reaction).Ignores Op.Routine := by
  intro drivers op answer routine
  cases op <;> first | rfl | exact routine.elim

/-- The drivers are told apart by their addresses. -/
theorem address_inj {first second : Motor} : first.address = second.address ↔ first = second := by
  cases first <;> cases second <;> decide

/-- Only the driver that is written to moves. -/
theorem written_address (motor : Motor) (src : List UInt8) :
    written reaction drivers motor.address src =
      Function.update drivers motor ((drivers motor).write (reaction motor) src) := by
  funext other
  by_cases same : other = motor
  · subst same
    rw [Function.update_self]
    exact if_pos rfl
  · rw [Function.update_of_ne same]
    exact if_neg fun hit => same (address_inj.mp hit).symm

/-- A write to a driver. -/
theorem completes_write (motor : Motor) (src : List UInt8) (nostop : Bool)
    {post : Drivers → Unit → Prop} :
    (device reaction).Completes drivers (i2cWriteErrorHandling .i2c0 motor.address src nostop)
        post ↔
      post (Function.update drivers motor ((drivers motor).write (reaction motor) src)) () := by
  rw [completes_i2cWriteErrorHandling ignores_routine trivial fun _ success => success,
    ← written_address]
  exact ⟨fun both => both.2 0 (Int.le_refl 0), fun holds => ⟨⟨0, Int.le_refl 0⟩, fun _ _ => holds⟩⟩

/-- A read of the fault register that is selected. -/
theorem completes_read (motor : Motor) (nostop : Bool) {post : Drivers → Vector UInt8 1 → Prop}
    (selected : (drivers motor).selected = Drv8830.regFault) :
    (device reaction).Completes drivers (i2cReadErrorHandling .i2c0 motor.address 1 nostop) post ↔
      post drivers (.replicate 1 (drivers motor).fault) := by
  have only (answer : Int × Vector UInt8 1)
      (given : gives drivers (.i2cReadTimeoutUs .i2c0 motor.address 1 nostop) answer) :
      answer.2 = (.replicate 1 (drivers motor).fault) := by
    have first := given.2 motor rfl rfl selected Nat.zero_lt_one
    refine Vector.ext fun i inside => ?_
    obtain rfl : i = 0 := by omega
    exact first.trans (Vector.getElem_replicate inside).symm
  have can : gives drivers (.i2cReadTimeoutUs .i2c0 motor.address 1 nostop)
      ((0 : Int), (.replicate 1 (drivers motor).fault)) := by
    refine ⟨Int.le_refl 0, fun other _ hit _ _ => ?_⟩
    rw [← address_inj.mp hit]
    rfl
  rw [completes_i2cReadErrorHandling ignores_routine trivial fun _ given => given.1]
  refine ⟨fun both => both.2 _ can, fun holds => ⟨⟨_, can⟩, fun answer given => ?_⟩⟩
  rw [only answer given]
  exact holds

/-- The drivers with the fault register of one selected. -/
def selecting (drivers : Drivers) (motor : Motor) : Drivers :=
  Function.update drivers motor ⟨Drv8830.regFault, (drivers motor).fault⟩

/-- A round of reading returns the fault register. -/
theorem completes_readFault (motor : Motor) {post : Drivers → UInt8 → Prop} :
    (device reaction).Completes drivers (Drv8830.readFault motor.address) post ↔
      post (selecting drivers motor) (drivers motor).fault := by
  rw [Drv8830.readFault, Device.completes_bind, completes_write, Device.completes_bind]
  have selected : (Function.update drivers motor
      ((drivers motor).write (reaction motor) [Drv8830.regFault]) motor).selected =
        Drv8830.regFault := by rw [Function.update_self]; rfl
  rw [completes_read motor false selected, Function.update_self]
  exact Iff.rfl

/-- The drivers with one cleared, and its fault register selected. -/
def cleared (reaction : Motor → UInt8) (drivers : Drivers) (motor : Motor) : Drivers :=
  Function.update drivers motor ⟨Drv8830.regFault, reaction motor⟩

/-- A round of clearing returns only if the fault bit is clear afterwards. -/
theorem completes_clearFault (i : Nat) (motor : Motor) {post : Drivers → Unit → Prop} :
    (device reaction).Completes drivers (Drv8830.clearFault i motor.address) post ↔
      reaction motor &&& 1 = 0 ∧ post (cleared reaction drivers motor) () := by
  have after : selecting (Function.update drivers motor ((drivers motor).write (reaction motor)
      [Drv8830.regFault, Drv8830.clearBit])) motor = cleared reaction drivers motor := by
    rw [selecting, Function.update_self, Function.update_idem, cleared]
    rfl
  rw [Drv8830.clearFault, Device.completes_bind, completes_write, Device.completes_bind,
    completes_readFault, after, Function.update_self]
  change (device reaction).Completes _ (if reaction motor &&& 1 ≠ 0 then _ else _) _ ↔ _
  split
  · rename_i set
    refine ⟨fun completes => ?_, fun both => absurd both.1 set⟩
    obtain ⟨_, logged⟩ := Device.completes_perform.mp completes
    obtain ⟨⟨impossible, _⟩, _⟩ := Device.completes_perform.mp (logged () trivial)
    exact impossible.elim
  · rename_i clear
    exact (and_iff_right (not_not.mp clear)).symm

/-- No driver has its fault bit set after it has been cleared. -/
def Clears (reaction : Motor → UInt8) : Prop := ∀ motor, reaction motor &&& 1 = 0

/-- `drv8830_get_faults` returns what it read first, and returns only if both drivers clear. -/
theorem completes_getFaults {post : Drivers → UInt8 × UInt8 → Prop} :
    (device reaction).Completes drivers Drv8830.getFaults post ↔ Clears reaction ∧
      post (cleared reaction (cleared reaction (selecting (selecting drivers .left) .right)
        .left) .right) ((drivers .left).fault, (drivers .right).fault) := by
  have right : (selecting drivers .left .right).fault = (drivers .right).fault :=
    congrArg Driver.fault (Function.update_of_ne (by decide) _ _)
  have both : Clears reaction ↔ reaction .left &&& 1 = 0 ∧ reaction .right &&& 1 = 0 := by
    refine ⟨fun clears => ⟨clears _, clears _⟩, fun clears motor => ?_⟩
    cases motor with
    | left => exact clears.1
    | right => exact clears.2
  rw [Drv8830.getFaults, Device.completes_bind]
  refine (completes_readFault .left).trans ?_
  rw [Device.completes_bind]
  refine (completes_readFault .right).trans ?_
  rw [Device.completes_bind, Drv8830.clearFaults, Device.completes_bind]
  refine (completes_clearFault 0 .left).trans ?_
  rw [both, and_assoc]
  refine and_congr_right fun _ => (completes_clearFault 1 .right).trans ?_
  rw [right]
  exact Iff.rfl

/-! ## The rest of the telemetry -/

/-- A transfer that the drivers give has not failed. -/
theorem gives_meets (drivers : Drivers) (op : Op) (answer : Ans op)
    (given : gives drivers op answer) : op.Acknowledged answer := by
  cases op with
  | i2cWriteTimeoutUs => exact given
  | i2cReadTimeoutUs => exact given.1
  | _ => trivial

/-- Whatever has an answer on buses on which no transfer fails has one from the drivers. -/
theorem gives_some (drivers : Drivers) (op : Op) (some : ∃ answer, op.Acknowledged answer) :
    ∃ answer, gives drivers op answer := by
  obtain ⟨answer, acknowledged⟩ := some
  cases op with
  | i2cWriteTimeoutUs => exact ⟨answer, acknowledged⟩
  | i2cReadTimeoutUs i2c addr len nostop =>
    let fault := if addr = Motor.left.address then (drivers .left).fault else (drivers .right).fault
    refine ⟨((0 : Int), .replicate len fault), Int.le_refl 0, fun motor _ hit _ nonempty => ?_⟩
    have here : fault = (drivers motor).fault := by
      cases motor with
      | left => exact if_pos hit
      | right => exact if_neg (by rw [hit]; decide)
    exact (Vector.getElem_replicate nonempty).trans here
  | _ => exact ⟨answer, trivial⟩

/-- A program that returns when no transfer fails completes. -/
theorem completes_of_acknowledged {program : Firmware α}
    (finishes : program.Finishes Op.Acknowledged) :
    (device reaction).Completes drivers program fun _ _ => True :=
  Device.completes_of_finishes finishes gives_some gives_meets

/-- The charger's part of the telemetry leaves the motors' part as it was. -/
theorem completes_getChargerState (robot : Rp2040State) :
    (device reaction).Completes drivers (getChargerState robot) fun _ value =>
      value.motorsState = robot.motorsState := by
  refine Device.completes_bind.mpr
    ((completes_of_acknowledged composes_finishes.getChgDetails).mono
      fun _ _ _ => ?_)
  refine Device.completes_perform.mpr ⟨⟨false, trivial⟩, fun _ _ => ?_⟩
  refine Device.completes_perform.mpr ⟨⟨(), trivial⟩, fun _ _ => ?_⟩
  refine Device.completes_perform.mpr ⟨⟨(0 : UInt16), trivial⟩, fun _ _ => ?_⟩
  refine Device.completes_perform.mpr ⟨⟨(), trivial⟩, fun _ _ => ?_⟩
  exact Device.completes_perform.mpr ⟨⟨(0 : UInt16), trivial⟩, fun _ _ => rfl⟩

/-- The battery's part does, too. -/
theorem completes_getBatteryState (robot : Rp2040State) :
    (device reaction).Completes drivers (getBatteryState robot) fun _ value =>
      value.motorsState = robot.motorsState := by
  refine Device.completes_bind.mpr
    ((completes_of_acknowledged composes_finishes.getVoltage).mono fun _ _ _ => ?_)
  refine Device.completes_bind.mpr
    ((completes_of_acknowledged composes_finishes.getSafetyStats).mono fun _ _ _ => ?_)
  refine Device.completes_bind.mpr
    ((completes_of_acknowledged composes_finishes.getTemp).mono fun _ _ _ => ?_)
  refine Device.completes_bind.mpr
    ((completes_of_acknowledged composes_finishes.getSoh).mono fun _ _ _ => ?_)
  exact Device.completes_bind.mpr
    ((completes_of_acknowledged composes_finishes.getFlags).mono fun _ _ _ => rfl)

/-- The two fault registers. -/
def faultsOf (drivers : Drivers) : Faults := ⟨(drivers .left).fault, (drivers .right).fault⟩

/-- `get_motor_faults` stores what was read first. -/
theorem completes_getMotorFaults (robot : Rp2040State) {post : Drivers → Rp2040State → Prop} :
    (device reaction).Completes drivers (getMotorFaults robot) post ↔ Clears reaction ∧
      post (cleared reaction (cleared reaction (selecting (selecting drivers .left) .right)
        .left) .right) { robot with motorsState.faults := faultsOf drivers } :=
  Device.completes_bind.trans completes_getFaults

/-- The state is gathered only if both drivers clear. -/
theorem clears_of_getState {robot : Rp2040State} {post : Drivers → Rp2040State → Prop}
    (completes : (device reaction).Completes drivers (getState robot) post) : Clears reaction := by
  obtain ⟨_, _, later⟩ := (Device.completes_bind.mp completes).exists
  exact ((completes_getMotorFaults _).mp (Device.completes_bind.mp later)).1

/-- When both drivers clear, the state is gathered with the faults that were read first. -/
theorem completes_getState (robot : Rp2040State) (clears : Clears reaction) :
    (device reaction).Completes drivers (getState robot) fun _ value =>
      value.motorsState.faults = faultsOf drivers := by
  have counts : (device reaction).Completes drivers (getEncoderCounts robot)
      fun final _ => final = drivers :=
    Device.completes_perform.mpr ⟨⟨(0 : Int32), trivial⟩, fun _ _ =>
      Device.completes_perform.mpr ⟨⟨(0 : Int32), trivial⟩, fun _ _ => rfl⟩⟩
  refine Device.completes_bind.mpr (counts.mono fun final counted same => ?_)
  subst same
  refine Device.completes_bind.mpr ((completes_getMotorFaults _).mpr ⟨clears, ?_⟩)
  refine Device.completes_bind.mpr ((completes_getChargerState _).mono fun _ _ charger => ?_)
  refine (completes_getBatteryState _).mono fun _ _ battery => ?_
  rw [battery, charger]

/-! ## The requests -/

/-- Sending bytes ends. -/
theorem putBytes_finishes (bytes : List UInt8) :
    (putBytes bytes).Finishes Op.Acknowledged := by
  induction bytes with
  | nil => trivial
  | cons c bytes ih => exact ⟨⟨(), trivial⟩, fun _ _ => ih⟩

/-- What the reply carries. -/
def Reported (faults : Faults) (value : Unit × SerialState) : Prop :=
  value.2.outgoing.data.motorsState.faults = faults

/-- The state is sent only if both drivers clear. -/
theorem clears_of_sendState {state : SerialState} {post : Drivers → Unit × SerialState → Prop}
    (completes : (device reaction).Completes drivers (sendState.run state) post) :
    Clears reaction := by
  simp only [sendState, StateT.run_bind, StateT.run_get, StateT.run_monadLift, monadLift_self,
    Device.completes_bind, Program.pure_def, Device.completes_done] at completes
  exact clears_of_getState completes

/-- When both drivers clear, the state is sent with the faults that were read first. -/
theorem completes_sendState (state : SerialState) (clears : Clears reaction) :
    (device reaction).Completes drivers (sendState.run state) fun _ =>
      Reported (faultsOf drivers) := by
  simp only [sendState, StateT.run_bind, StateT.run_get, StateT.run_modify, StateT.run_monadLift,
    monadLift_self, Device.completes_bind, Program.pure_def, Device.completes_done]
  refine (completes_getState _ clears).mono fun _ value faults => ?_
  exact (completes_of_acknowledged (putBytes_finishes _)).mono fun _ _ _ => faults

/-- Setting the motor levels leaves the fault registers as they were. -/
theorem completes_setMotorLevels (robot : Rp2040State) :
    (device reaction).Completes drivers (setMotorLevels robot) fun final _ =>
      faultsOf final = faultsOf drivers := by
  have level (drivers : Drivers) (motor : Motor) (controlValue : UInt8) :
      (device reaction).Completes drivers (Drv8830.setMotorControl motor controlValue)
        fun final _ => faultsOf final = faultsOf drivers := by
    refine Device.completes_perform.mpr ⟨⟨(0 : Int), trivial⟩, fun (result : Int) _ => ?_⟩
    change faultsOf (if 0 ≤ result then written reaction drivers motor.address
      [Drv8830.regControl, controlValue] else drivers) = _
    split
    · have same (other : Motor) : (written reaction drivers motor.address
          [Drv8830.regControl, controlValue] other).fault = (drivers other).fault := by
        rw [written]
        split
        · rw [Driver.write, if_neg fun both => absurd both.1 (by decide)]
        · rfl
      simp only [faultsOf, same]
    · rfl
  refine Device.completes_bind.mpr ((level drivers .left _).mono fun middle _ first => ?_)
  exact (level middle .right _).mono fun _ _ second => second.trans first

/-- The packet types of the requests that gather the state. -/
def GathersState (packetType : UInt8) : Prop :=
  packetType = setMotorLevel ∨ packetType = getStateType

/-- A request that gathers the state completes, with the faults that were read first, exactly if
both drivers clear. -/
theorem completes_handlePacket {packet : IncomingPacketFromAndroid} (state : SerialState)
    (gathers : GathersState packet.packetType) :
    ((device reaction).Completes drivers ((handlePacket packet).run state) fun _ =>
      Reported (faultsOf drivers)) ↔ Clears reaction := by
  have entered {program : Firmware (Unit × SerialState)}
      {post : Drivers → Unit × SerialState → Prop} (call : Call) :
      (device reaction).Completes drivers (perform (.enter call) >>= fun _ => program) post ↔
        (device reaction).Completes drivers program post :=
    Device.completes_perform.trans ⟨fun both => both.2 () trivial, fun completes =>
      ⟨⟨(), trivial⟩, fun _ _ => completes⟩⟩
  have plain : packet.packetType ≠ getLog := by
    rintro log
    obtain motor | telemetry := gathers
    · exact absurd (log.symm.trans motor) (by decide)
    · exact absurd (log.symm.trans telemetry) (by decide)
  change (device reaction).Completes drivers (perform (.enter _) >>= fun _ => StateT.run
    (if packet.packetType = getLog then handleGetLog packet
      else if packet.packetType = setMotorLevel then handleSetMotorLevel packet
      else if packet.packetType = getStateType then handleGetState packet
      else _) state) _ ↔ _
  rw [entered, if_neg plain]
  by_cases motor : packet.packetType = setMotorLevel
  · rw [if_pos motor]
    simp only [handleSetMotorLevel, StateT.run_bind, StateT.run_get, StateT.run_modify,
      StateT.run_monadLift, monadLift_self, Device.completes_bind, Program.pure_def,
      Device.completes_done]
    refine ⟨fun completes => ?_, fun clears => ?_⟩
    · obtain ⟨_, _, sends⟩ := completes.exists
      exact clears_of_sendState sends
    · refine (completes_setMotorLevels _).mono fun final _ same => ?_
      rw [← same]
      exact completes_sendState _ clears
  · rw [if_neg motor, if_pos (gathers.resolve_left motor)]
    simp only [handleGetState, StateT.run_bind, StateT.run_modify, Device.completes_bind,
      Program.pure_def, Device.completes_done]
    exact ⟨clears_of_sendState, completes_sendState _⟩

/-- `drv8830_get_faults`, and every request that gathers the state, completes with the two bytes
that were read first exactly if neither driver has its fault bit set after it has been cleared. -/
theorem faults_reported_iff (reaction : Motor → UInt8) (drivers : Drivers)
    (packet : IncomingPacketFromAndroid) (state : SerialState)
    (gathers : GathersState packet.packetType) :
    (((device reaction).Completes drivers Drv8830.getFaults fun _ faults =>
      faults = ((drivers .left).fault, (drivers .right).fault)) ↔ Clears reaction) ∧
    (((device reaction).Completes drivers ((handlePacket packet).run state) fun _ =>
      Reported (faultsOf drivers)) ↔ Clears reaction) :=
  ⟨completes_getFaults.trans (and_iff_left rfl), completes_handlePacket state gathers⟩

/-- Two drivers at rest, with the given fault registers. -/
def resting (left right : UInt8) : Drivers
  | .left => ⟨Drv8830.regControl, left⟩
  | .right => ⟨Drv8830.regControl, right⟩

/-- A request for the state. -/
def stateRequest : IncomingPacketFromAndroid := ⟨startMarker, getStateType, .replicate 2 0,
    endMarker⟩

/-- An over-current fault that clears is reported. -/
theorem faults_reported_cleared :
    GathersState stateRequest.packetType ∧
      ((device fun _ => 0).Completes (resting 0x03 0) ((handlePacket stateRequest).run .static)
        fun _ => Reported ⟨0x03, 0⟩) := by
  have clears : Clears fun _ => 0 := fun _ => UInt8.zero_and
  exact ⟨.inr rfl, (faults_reported_iff (fun _ => 0) (resting 0x03 0) stateRequest .static
    (.inr rfl)).2.mpr clears⟩

/-- A fault whose cause persists is not reported: its bit is set again at once, and neither the
read-out nor the request for the state completes. -/
theorem faults_fatal :
    ¬ ((device fun _ => 0x03).Completes (resting 0x03 0) Drv8830.getFaults fun _ faults =>
      faults = (0x03, 0)) ∧
    ¬ ((device fun _ => 0x03).Completes (resting 0x03 0) ((handlePacket stateRequest).run .static)
      fun _ => Reported ⟨0x03, 0⟩) := by
  have persists : ¬ Clears fun _ => 0x03 := fun clears => absurd (clears .left) (by decide)
  exact ⟨fun completes => persists (completes_getFaults.mp completes).1,
    fun completes => persists ((completes_handlePacket .static (.inr rfl)).mp completes)⟩

end FaultReport

end RobotFirmware
