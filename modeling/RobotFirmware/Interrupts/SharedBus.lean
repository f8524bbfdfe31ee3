import RobotFirmware.Interaction.Playback
import RobotFirmware.SerialCommManager
import RobotFirmware.Footprint

/-!
# The bus that both cores use

The fuel gauge and the motor drivers keep a register pointer: a write sets it by its first byte,
and a read returns what lies from there on. Each write and each read is one message. A register
is read by two of them, and the messages of the other core may come in between.

Core 0 serves the requests that read the state, and core 1 runs the interrupt functions of the
gauge and the drivers. What the registers hold may change at any time.
-/

namespace RobotFirmware

open Interaction

namespace SharedBus

/-- The cores. -/
inductive Core where
  /-- It serves requests. -/
  | core0
  /-- It runs what interrupts have queued. -/
  | core1
  deriving DecidableEq

/-- The other core. -/
def Core.other : Core → Core
  | .core0 => .core1
  | .core1 => .core0

/-- There are two cores. -/
theorem Core.eq_other {first second : Core} (apart : first ≠ second) : first = second.other := by
  cases first <;> cases second <;> first | rfl | exact absurd rfl apart

/-- The devices with a register pointer that both cores use. -/
inductive Device where
  /-- The fuel gauge. -/
  | gauge
  /-- A motor driver. -/
  | driver (motor : Drv8830.Motor)
  deriving DecidableEq

/-- The device at an address. -/
def device? : I2c → UInt8 → Option Device
  | .i2c0, addr =>
    if addr = Bq27742G1.addr then some .gauge
    else if addr = Drv8830.motorLeftAddress then some (.driver .left)
    else if addr = Drv8830.motorRightAddress then some (.driver .right)
    else none
  | .i2c1, _ => none

/-- What an answered operation is to the devices. -/
inductive Deed where
  /-- Nothing. -/
  | other
  /-- A device is sent some bytes. -/
  | write (device : Device) (src : List UInt8)
  /-- A device sends some bytes. -/
  | read (device : Device) (bytes : List UInt8)

/-- A message that arrived, if it did. -/
def Deed.arrived (result : Int) (i2c : I2c) (addr : UInt8) (message : Device → Deed) : Deed :=
  if 0 ≤ result then (device? i2c addr).elim .other message else .other

/-- The meaning of an operation. -/
def deed : (op : Op) → Ans op → Deed
  | .i2cWriteTimeoutUs i2c addr src _, result => .arrived result i2c addr (.write · src)
  | .i2cWriteBlocking i2c addr src _, result => .arrived result i2c addr (.write · src)
  | .i2cReadTimeoutUs i2c addr _ _, answer =>
    .arrived answer.1 i2c addr (.read · answer.2.toList)
  | _, _ => .other

/-- A register that a core has selected. -/
structure Selection where
  /-- The device. -/
  device : Device
  /-- Its register. -/
  register : UInt8
  deriving DecidableEq

/-- What a core has selected and not yet read after a deed of its own. -/
def selected (selection : Option Selection) : Deed → Option Selection
  | .write device [register] => some ⟨device, register⟩
  | .write _ [] => selection
  | .write _ (_ :: _ :: _) => none
  | .read .. => none
  | .other => selection

/-- The devices, and what the cores have selected. -/
structure Bus where
  /-- Where a device's pointer stands. -/
  pointer : Device → UInt8
  /-- What its registers hold. -/
  contents : Device → UInt8 → UInt8
  /-- What a core has selected and not yet read. -/
  selection : Core → Option Selection
  /-- A core has read something else than what lies in the register that it selected. -/
  torn : Bool

namespace Bus

/-- The devices before the first message. -/
def start (pointer : Device → UInt8) (contents : Device → UInt8 → UInt8) : Bus where
  pointer := pointer
  contents := contents
  selection _ := none
  torn := false

/-- What lies in a device from a register on. -/
def window (bus : Bus) (device : Device) (register : UInt8) (len : Nat) : List UInt8 :=
  (List.range len).map fun offset => bus.contents device (register + UInt8.ofNat offset)

/-- What a core is to read from a device. -/
def due (bus : Bus) (core : Core) (device : Device) (len : Nat) : Option (List UInt8) :=
  (bus.selection core).bind fun chosen =>
    if chosen.device = device then some (bus.window device chosen.register len) else none

/-- The registers after bytes have been stored from one on. -/
def stored (registers : UInt8 → UInt8) : UInt8 → List UInt8 → UInt8 → UInt8
  | _, [] => registers
  | register, byte :: bytes =>
    stored (Function.update registers register byte) (register + 1) bytes

/-- A device receives a message. -/
def receive (bus : Bus) (device : Device) : List UInt8 → Bus
  | [] => bus
  | register :: bytes =>
    { bus with
      pointer := Function.update bus.pointer device register
      contents := Function.update bus.contents device
        (stored (bus.contents device) register bytes) }

/-- The devices after a message, if they can send it. -/
def act (bus : Bus) (core : Core) : Deed → Option Bus
  | .write device src => some (bus.receive device src)
  | .read device bytes =>
    if bytes = bus.window device (bus.pointer device) bytes.length then
      some { bus with torn := bus.torn || bus.due core device bytes.length ≠ some bytes }
    else none
  | .other => some bus

/-- The devices after an answered operation, if the answer is possible. -/
def exec (core : Core) (bus : Bus) (op : Op) (answer : Ans op) : Option Bus :=
  (bus.act core (deed op answer)).map fun after =>
    { after with
      selection := Function.update bus.selection core
        (selected (bus.selection core) (deed op answer)) }

/-- An idle core starts to serve a request or to run a queued function. -/
def launch (core : Core) (bus : Bus) (program : Firmware Unit) (after : Bus) : Prop :=
  after = bus ∧ match core with
    | .core0 => ∃ (packet : IncomingPacketFromAndroid) (state : SerialState),
      (packet.packetType = getStateType ∨ packet.packetType = setMotorLevel) ∧
        program = (handlePacket packet).run state >>= fun _ => .done ()
    | .core1 => program = (Bq27742G1.parseInterruptVals >>= fun _ => .done ()) ∨
      ∃ gpio : Int32, program = Drv8830.faultHandler gpio >>= fun _ => .done ()

/-- The registers change. -/
inductive Drift (bus : Bus) : Bus → Prop where
  /-- What they hold is something else. -/
  | change (contents : Device → UInt8 → UInt8) : Drift bus { bus with contents := contents }

end Bus

/-- The cores over the bus. -/
def system : System Ans where
  Thread := Core
  decEq := inferInstance
  Shared := Bus
  preempts _ _ := False
  exec := Bus.exec
  launch := Bus.launch
  drift := Bus.Drift

/-- Both cores are idle. -/
def started (pointer : Device → UInt8) (contents : Device → UInt8 → UInt8) : system.Config where
  shared := Bus.start pointer contents
  programs _ := .done ()

/-- A message does not move the pointer of a device away from a register that the other core has
selected there and not yet read. -/
def Bus.Apart (bus : Bus) (core : Core) : Deed → Prop
  | .write device src => ∀ chosen ∈ bus.selection core.other, chosen.device = device →
    ∀ register ∈ src.head?, register = chosen.register
  | _ => True

/-- No message comes between the two of a register read and selects another register. -/
def Unbroken (bus : Bus) : system.Action → Prop
  | .perform core op answer => bus.Apart core (deed op answer)
  | _ => True

/-! ## What the cores do -/

/-- The device that an operation reads. -/
def reads : Op → Option Device
  | .i2cReadTimeoutUs i2c addr _ _ => device? i2c addr
  | _ => none

/-- An operation that reads none of the devices. -/
def Unread (op : Op) : Prop := reads op = none

/-- A core that reads what it has selected. -/
abbrev reader : Monitor Ans where
  State := Option Selection
  allows selection op := ∀ device ∈ reads op, selection.map Selection.device = some device
  next selection op answer := selected selection (deed op answer)

/-- The program selects every register before it reads it. -/
def Selects {α : Type} (program : Firmware α) : Prop :=
  ∀ selection, reader.Guards selection program fun _ _ => True

namespace Selects

variable {α β : Type}

/-- One program after another. -/
theorem bind {program : Firmware α} {next : α → Firmware β} (first : Selects program)
    (later : ∀ value, Selects (next value)) : Selects (program >>= next) :=
  fun selection => Monitor.guards_bind.mpr ((first selection).mono fun middle value _ =>
    later value middle)

/-- A choice of two such programs. -/
theorem ite {condition : Prop} [Decidable condition] {first second : Firmware α}
    (yes : Selects first) (no : Selects second) :
    Selects (if condition then first else second) := by
  split
  · exact yes
  · exact no

/-- A program that reads none of the devices. -/
theorem of_within {program : Firmware α} (inside : program.Within Unread) :
    Selects program := by
  induction program with
  | done value => exact fun _ => trivial
  | perform op resume ih =>
    refine fun selection => ⟨fun device found => ?_, fun answer => ih answer (inside.2 answer) _⟩
    cases inside.1.symm.trans found

/-- Routine operations read none of the devices. -/
theorem of_routine (op : Op) (routine : op.Routine) : Unread op := by
  cases op <;> first | rfl | exact routine.elim

/-- A write alone. -/
theorem write {i2c : I2c} {addr : UInt8} {src : List UInt8} {nostop : Bool} :
    Selects (i2cWriteErrorHandling i2c addr src nostop) :=
  of_within (i2cWriteErrorHandling_within rfl of_routine)

/-- The reader is not concerned with routine operations. -/
theorem ignores_routine : reader.Ignores Op.Routine := by
  intro selection op routine
  have nothing (answer : Ans op) : deed op answer = .other := by
    cases op <;> first | rfl | exact routine.elim
  refine ⟨fun device found => ?_, fun answer => ?_⟩
  · cases (of_routine op routine).symm.trans found
  · change selected selection (deed op answer) = selection
    rw [nothing]
    rfl

/-- A register is selected and read. -/
theorem register {addr : UInt8} {device : Device} (there : device? .i2c0 addr = some device)
    (register : UInt8) (len : Nat) :
    Selects (do
      i2cWriteErrorHandling .i2c0 addr [register] true
      i2cReadErrorHandling .i2c0 addr len false) := by
  have failed {selection : Option Selection} {result : Int} (failed : result < 0)
      (message : Device → Deed) :
      selected selection (.arrived result .i2c0 addr message) = selection := by
    rw [Deed.arrived, if_neg (Int.not_le.mpr failed)]
    rfl
  have read : reader.Guards (some ⟨device, register⟩) (i2cReadErrorHandling .i2c0 addr len false)
      fun _ _ => True := by
    refine guards_i2cReadErrorHandling ignores_routine (fun found same => ?_)
      (fun _ _ less => failed less _) fun _ _ _ => trivial
    exact there.symm.trans same
  refine fun selection => Monitor.guards_bind.mpr (guards_i2cWriteErrorHandling ignores_routine
    (fun found same => ?_) (fun _ less => failed less _) fun result written => ?_)
  · cases same
  · have selects : selected selection (.arrived result .i2c0 addr (.write · [register])) =
        some ⟨device, register⟩ := by
      rw [Deed.arrived, if_pos written, there]
      rfl
    change reader.Guards (selected selection (.arrived result .i2c0 addr (.write · [register]))) _ _
    rw [selects]
    exact read

end Selects

/-! ### The motor drivers -/

/-- The driver at its address. -/
theorem device?_address (motor : Drv8830.Motor) :
    device? .i2c0 motor.address = some (.driver motor) := by
  cases motor <;> rfl

/-- Reading a fault register selects it. -/
theorem readFault_selects (motor : Drv8830.Motor) : Selects (Drv8830.readFault motor.address) := by
  unfold Drv8830.readFault
  rw [← bind_assoc]
  exact (Selects.register (device?_address motor) _ _).bind fun _ _ => trivial

/-- So does clearing one. -/
theorem clearFault_selects (i : Nat) (motor : Drv8830.Motor) :
    Selects (Drv8830.clearFault i motor.address) :=
  Selects.write.bind fun _ => (readFault_selects motor).bind fun _ =>
    .ite (.of_within ⟨rfl, fun _ => ⟨rfl, fun impossible => impossible.elim⟩⟩) fun _ => trivial

/-- So does reading the faults of both motors. -/
theorem getFaults_selects : Selects Drv8830.getFaults :=
  (readFault_selects .left).bind fun _ => (readFault_selects .right).bind fun _ =>
    ((clearFault_selects 0 .left).bind fun _ => clearFault_selects 1 .right).bind
      fun _ _ => trivial

/-- So does handling a fault. -/
theorem handleFault_selects (motor : Drv8830.Motor) (name : String) :
    Selects (Drv8830.handleFault motor.address name) := by
  unfold Drv8830.handleFault
  rw [← bind_assoc]
  exact (Selects.register (device?_address motor) _ _).bind fun _ => .ite
    (Selects.write.bind fun _ _ => trivial) (.of_within ⟨rfl, fun _ => ⟨rfl, fun _ => trivial⟩⟩)

/-- The fault handler selects what it reads. -/
theorem faultHandler_selects (gpio : Int32) : Selects (Drv8830.faultHandler gpio) :=
  .ite (handleFault_selects .left _) (.ite (handleFault_selects .right _)
    (.of_within ⟨rfl, fun _ => trivial⟩))

/-! ### The fuel gauge -/

/-- A command is written before its bytes are read. -/
theorem readBytes_selects (command : UInt8) (len : Nat) :
    Selects (Bq27742G1.readBytes command len) := by
  have there : device? .i2c0 Bq27742G1.addr = some .gauge := rfl
  exact Selects.register there command len

/-- A message reads none of the devices. -/
theorem log_selects (format : String) (args : List LogArg) : Selects (rp2040Log format args) :=
  .of_within ⟨rfl, fun _ => trivial⟩

/-- Logging a bit transfers nothing. -/
theorem logBit_selects (value mask : UInt16) (message : String) :
    Selects (Bq27742G1.logBit value mask message) :=
  .ite (log_selects _ _) fun _ => trivial

/-- The voltage is one command. -/
theorem getVoltage_selects : Selects Bq27742G1.getVoltage :=
  (readBytes_selects _ _).bind fun _ => (log_selects _ _).bind fun _ _ => trivial

/-- So is the safety status. -/
theorem getSafetyStats_selects : Selects Bq27742G1.getSafetyStats := by
  refine (readBytes_selects _ _).bind fun _ => (log_selects _ _).bind fun _ => ?_
  iterate 6 refine (logBit_selects _ _ _).bind fun _ => ?_
  exact .ite ((log_selects _ _).bind fun _ _ => trivial) fun _ => trivial

/-- So is the temperature. -/
theorem getTemp_selects : Selects Bq27742G1.getTemp :=
  (readBytes_selects _ _).bind fun _ => (log_selects _ _).bind fun _ _ => trivial

/-- So is the state of health. -/
theorem getSoh_selects : Selects Bq27742G1.getSoh :=
  (readBytes_selects _ _).bind fun _ => (log_selects _ _).bind fun _ =>
    (log_selects _ _).bind fun _ _ => trivial

/-- So are the flags. -/
theorem getFlags_selects : Selects Bq27742G1.getFlags := by
  refine (readBytes_selects _ _).bind fun _ => (log_selects _ _).bind fun _ => ?_
  iterate 10 refine (logBit_selects _ _ _).bind fun _ => ?_
  have last : Selects (rp2040Log "\n" []) := log_selects _ _
  exact .ite ((log_selects _ _).bind fun _ => last.bind fun _ _ => trivial)
    (last.bind fun _ _ => trivial)

/-- Clearing a latched IMAX interrupt selects the control register before it is read. -/
theorem clearImax_selects (flags : UInt16) : Selects (Bq27742G1.clearImax flags) := by
  have there : device? .i2c0 Bq27742G1.addr = some .gauge := rfl
  have control (code : UInt16) : Selects (Bq27742G1.control code) :=
    Selects.write.bind fun _ => Selects.register there 0x00 2
  exact .ite ((log_selects _ _).bind fun _ => (control _).bind fun _ _ => trivial) fun _ => trivial

/-- The parse call selects what it reads. -/
theorem parseInterruptVals_selects : Selects Bq27742G1.parseInterruptVals := by
  have rearm : Selects Bq27742G1.rearmIfReleased :=
    .of_within ⟨rfl, fun _ => .ite ⟨rfl, fun _ => ⟨rfl, fun _ => ⟨rfl, fun _ => trivial⟩⟩⟩ trivial⟩
  have level : Selects (gpioGet Bq27742G1.gpioInterrupt) := .of_within ⟨rfl, fun _ => trivial⟩
  refine (readBytes_selects _ _).bind fun flags => (readBytes_selects _ _).bind fun safety =>
    level.bind fun _ => (log_selects _ _).bind fun _ => ?_
  iterate 3 refine (logBit_selects _ _ _).bind fun _ => ?_
  refine (clearImax_selects _).bind fun _ => ?_
  iterate 6 refine (logBit_selects _ _ _).bind fun _ => ?_
  have none : Selects (Bq27742G1.logNoStatus (Bq27742G1.word flags) (Bq27742G1.word safety)) :=
    .ite (log_selects _ _) fun _ => trivial
  exact none.bind fun _ => rearm.bind fun _ _ => trivial

/-! ### Requests -/

/-- The charger is on the other bus. -/
theorem getChargerState_selects (state : Rp2040State) : Selects (getChargerState state) := by
  have detail (reg : UInt8) : (Max77976.readDetail reg).Within Unread := by
    have write : Unread (.i2cWriteTimeoutUs .i2c1 Max77976.addr [reg] true) := rfl
    have read : Unread (.i2cReadTimeoutUs .i2c1 Max77976.addr 1 false) := rfl
    exact (i2cWriteErrorHandling_within write Selects.of_routine).bind fun _ =>
      (i2cReadErrorHandling_within read Selects.of_routine).bind fun _ => .done _
  have bypass (details : UInt8) : (Max77976.logBypDtls details).Within Unread := by
    unfold Max77976.logBypDtls
    split
    · exact ⟨rfl, fun _ => trivial⟩
    · exact trivial
  have details : Max77976.getChgDetails.Within Unread := by
    refine (detail _).bind fun details00 => ?_
    simp only [Program.Within.act_bind_iff, Unread, reads, true_and, forall_const]
    refine (detail _).bind fun details01 => ?_
    simp only [Program.Within.act_bind_iff, Unread, reads, true_and, forall_const]
    refine (detail _).bind fun details02 => ⟨rfl, fun _ => (bypass _).bind fun _ =>
      ⟨rfl, fun _ => (detail _).bind fun cnfg00 => ?_⟩⟩
    simp only [Program.Within.act_bind_iff, Unread, reads, true_and, forall_const, Program.pure_def,
      Program.Within.done]
  refine Selects.bind (.of_within details) fun _ => .of_within ?_
  simp only [Ncp3901.wirelessChargerAttached, Ncp3901.adc0, stwlc38jrmAdc1, bind_assoc,
    Program.Within.act_bind_iff, Unread, reads, true_and, forall_const, Program.pure_def,
    Program.Within.done]

/-- Telemetry selects what it reads. -/
theorem getState_selects (state : Rp2040State) : Selects (getState state) := by
  have encoders : Selects (getEncoderCounts state) :=
    .of_within ⟨rfl, fun _ => ⟨rfl, fun _ => trivial⟩⟩
  have faults (state : Rp2040State) : Selects (getMotorFaults state) :=
    getFaults_selects.bind fun _ _ => trivial
  have battery (state : Rp2040State) : Selects (getBatteryState state) :=
    getVoltage_selects.bind fun _ => getSafetyStats_selects.bind fun _ =>
      getTemp_selects.bind fun _ => getSoh_selects.bind fun _ => getFlags_selects.bind
        fun _ _ => trivial
  exact encoders.bind fun _ => (faults _).bind fun _ => (getChargerState_selects _).bind
    fun _ => battery _

/-- A request that reads the state selects what it reads. -/
theorem handlePacket_selects (packet : IncomingPacketFromAndroid) (state : SerialState)
    (type : packet.packetType = getStateType ∨ packet.packetType = setMotorLevel) :
    Selects ((handlePacket packet).run state) := by
  have put (bytes : List UInt8) : (putBytes bytes).Within Unread := by
    induction bytes with
    | nil => exact trivial
    | cons c bytes ih => exact ⟨rfl, fun _ => ih⟩
  have send (state : SerialState) : Selects (sendState.run state) := by
    have served : sendState.run state = (do
        let rp2040State ← getState state.rp2040State
        let final : SerialState := { state with
          rp2040State := rp2040State
          outgoing := { state.outgoing with data := rp2040State } }
        putBytes final.outgoing.bytes
        return ((), final)) := by simp [sendState]
    rw [served]
    exact (getState_selects _).bind fun _ => (Selects.of_within (put _)).bind fun _ _ => trivial
  have enter : Selects (perform (.enter (.handlePacket packet.packetType packet.data))) :=
    .of_within ⟨rfl, fun _ => trivial⟩
  have level (motor : Drv8830.Motor) (value : UInt8) :
      Selects (Drv8830.setMotorControl motor value) :=
    .of_within ⟨rfl, fun _ => trivial⟩
  have get : Selects ((handleGetState packet).run state) := send _
  have set : Selects ((handleSetMotorLevel packet).run state) :=
    (level _ _).bind fun _ => (level _ _).bind fun _ => send _
  obtain type | type := type
  · have served : (handlePacket packet).run state =
        perform (.enter (.handlePacket packet.packetType packet.data)) >>= fun _ =>
          (handleGetState packet).run state := by
      simp [handlePacket, type, getStateType, getLog, setMotorLevel]
    rw [served]
    exact enter.bind fun _ => get
  · have served : (handlePacket packet).run state =
        perform (.enter (.handlePacket packet.packetType packet.data)) >>= fun _ =>
          (handleSetMotorLevel packet).run state := by
      simp [handlePacket, type, getLog, setMotorLevel]
    rw [served]
    exact enter.bind fun _ => set

/-! ## Unbroken reads -/

namespace Bus

/-- No read was torn, and the pointers stand where the cores have set them. -/
structure Whole (bus : Bus) : Prop where
  /-- Every core has read what it selected. -/
  whole : bus.torn = false
  /-- A selected register is the one that is read next. -/
  points : ∀ core, ∀ chosen ∈ bus.selection core, bus.pointer chosen.device = chosen.register

/-- Only a read of a device receives bytes from it. -/
theorem reads_of_deed {op : Op} {answer : Ans op} {device : Device} {bytes : List UInt8}
    (meaning : deed op answer = .read device bytes) : reads op = some device := by
  have arrived {result : Int} {i2c : I2c} {addr : UInt8} {message : Device → Deed}
      (same : Deed.arrived result i2c addr message = .read device bytes) :
      ∃ there, device? i2c addr = some there ∧ message there = .read device bytes := by
    unfold Deed.arrived at same
    split at same
    · cases found : device? i2c addr with
      | none =>
        rw [found] at same
        cases same
      | some there =>
        rw [found] at same
        exact ⟨there, rfl, same⟩
    · cases same
  cases op with
  | i2cReadTimeoutUs i2c addr len nostop =>
    obtain ⟨there, found, same⟩ := arrived meaning
    cases same
    exact found
  | i2cWriteTimeoutUs i2c addr src nostop =>
    obtain ⟨there, found, same⟩ := arrived meaning
    cases same
  | i2cWriteBlocking i2c addr src nostop =>
    obtain ⟨there, found, same⟩ := arrived meaning
    cases same
  | _ => cases meaning

/-- A message that stays apart from the other core's read keeps the pointers in place. -/
theorem Whole.receive {bus : Bus} (whole : bus.Whole) {core : Core} {device : Device}
    {src : List UInt8} (apart : bus.Apart core (.write device src)) :
    Whole { bus.receive device src with
      selection := Function.update bus.selection core
        (selected (bus.selection core) (.write device src)) } := by
  cases src with
  | nil =>
    have unmoved : selected (bus.selection core) (.write device []) = bus.selection core := rfl
    rw [unmoved, Function.update_eq_self]
    exact whole
  | cons register bytes =>
    refine ⟨whole.whole, fun other chosen found => ?_⟩
    change chosen ∈ Function.update bus.selection core _ other at found
    by_cases own : other = core
    · subst own
      rw [Function.update_self] at found
      cases bytes with
      | nil =>
        obtain rfl := Option.some.inj found
        exact Function.update_self ..
      | cons byte bytes => cases found
    · rw [Function.update_of_ne own] at found
      change Function.update bus.pointer device register chosen.device = chosen.register
      by_cases there : chosen.device = device
      · rw [there, Function.update_self]
        rw [Core.eq_other own] at found
        exact apart chosen found there register rfl
      · rw [Function.update_of_ne there]
        exact whole.points other chosen found

/-- What a core may do keeps the reads whole. -/
theorem Whole.exec {bus after : Bus} {core : Core} {op : Op} {answer : Ans op}
    (whole : bus.Whole)
    (allowed : ∀ device ∈ reads op, (bus.selection core).map Selection.device = some device)
    (apart : bus.Apart core (deed op answer))
    (executed : bus.exec core op answer = some after) : after.Whole := by
  obtain ⟨acted, did, rfl⟩ := Option.map_eq_some_iff.mp executed
  cases meaning : deed op answer with
  | other =>
    rw [meaning] at did
    obtain rfl := Option.some.inj did
    have unmoved : selected (bus.selection core) .other = bus.selection core := rfl
    rw [unmoved, Function.update_eq_self]
    exact whole
  | write device src =>
    rw [meaning] at did apart
    obtain rfl := Option.some.inj did
    exact whole.receive apart
  | read device bytes =>
    rw [meaning] at did
    obtain ⟨sent, same⟩ := Option.ite_none_right_eq_some.mp did
    obtain rfl := Option.some.inj same
    obtain ⟨chosen, selection, there⟩ := Option.map_eq_some_iff.mp
      (allowed device (reads_of_deed meaning))
    have due : bus.due core device bytes.length = some bytes := by
      have points := whole.points core chosen selection
      rw [Bus.due, selection, Option.bind_some, if_pos there, ← points, there, ← sent]
    refine ⟨?_, fun other chosen found => ?_⟩
    · simp only [whole.whole, due, ne_eq, not_true_eq_false, decide_false, Bool.or_false]
    · change chosen ∈ Function.update bus.selection core _ other at found
      by_cases own : other = core
      · subst own
        rw [Function.update_self] at found
        cases found
      · rw [Function.update_of_ne own] at found
        exact whole.points other chosen found

end Bus

/-- The cores select what they read. -/
def discipline : System.Discipline (system : System Ans) where
  monitor _ := reader
  view core bus := Bus.selection bus core
  rest _ _ := True
  own := by
    intro core bus op answer after executed
    obtain ⟨acted, did, rfl⟩ := Option.map_eq_some_iff.mp executed
    exact Function.update_self ..
  other := by
    intro core bus op answer after executed bystander apart
    obtain ⟨acted, did, rfl⟩ := Option.map_eq_some_iff.mp executed
    exact Function.update_of_ne apart ..
  launched := by
    intro core bus program after launched _
    obtain ⟨rfl, runs⟩ := launched
    have ends {α : Type} {program : Firmware α} (selects : Selects program) :
        Selects (program >>= fun _ => .done ()) := selects.bind fun _ _ => trivial
    cases core with
    | core0 =>
      obtain ⟨packet, state, type, rfl⟩ := runs
      exact ends (handlePacket_selects packet state type) _
    | core1 =>
      obtain rfl | ⟨gpio, rfl⟩ := runs
      · exact ends parseInterruptVals_selects _
      · exact ends (faultHandler_selects gpio) _
  aside := by
    intro core bus program after launched bystander _
    rw [launched.1]
  drifted := by
    rintro bus _ ⟨contents⟩ core
    rfl

/-- Every bus that is reached without breaking a read is whole. -/
theorem reaches_whole {pointer : Device → UInt8} {contents : Device → UInt8 → UInt8}
    {config : system.Config}
    (reached : System.Reaches Unbroken (started pointer contents) config) :
    discipline.Holds config ∧ Bus.Whole config.shared := by
  refine discipline.invariant
    (fun {core bus op answer after} whole allowed apart executed => ?_)
    (fun {core bus program after} whole _ _ launched => ?_) (fun whole _ drifted => ?_) ?_ ?_
    reached
  · exact Bus.Whole.exec whole allowed apart executed
  · exact launched.1 ▸ whole
  · cases drifted
    exact ⟨whole.whole, whole.points⟩
  · intro core
    trivial
  · exact ⟨rfl, fun _ _ found => by cases found⟩

/-- When no message comes between the two of a register read and selects another register, every
core reads what it selected. -/
theorem never_torn {pointer : Device → UInt8} {contents : Device → UInt8 → UInt8}
    {config : system.Config}
    (reached : System.Reaches Unbroken (started pointer contents) config) :
    Bus.torn config.shared = false :=
  (reaches_whole reached).2.whole

/-! ## Playing runs -/

/-- The answer to an operation when every message arrives and nothing is wrong. -/
def Bus.answer (bus : Bus) : (op : Op) → Option (Ans op)
  | .i2cWriteTimeoutUs .. => some 0
  | .i2cWriteBlocking .. => some 0
  | .i2cReadTimeoutUs i2c addr len _ =>
    some (0, (device? i2c addr).elim (.replicate len 0) fun device =>
      .ofFn fun offset => bus.contents device (bus.pointer device + UInt8.ofNat offset))
  | .enter _ => some ()
  | .quadratureEncoderGetCount _ => some 0
  | .cexceptionTry => some ()
  | .rp2040Log .. => some ()
  | .adcSelectInput _ => some ()
  | .adcRead => some 0
  | .strayRead _ => some 0
  | .load _ => some false
  | .store .. => some ()
  | .gpioGet _ => some true
  | .gpioSetIrqEnabled .. => some ()
  | .putchar _ => some ()
  | _ => none

/-- `GET_STATE` on core 0, and the parse call on core 1. -/
def Core.program : Core → Firmware Unit
  | .core0 =>
    (handlePacket { IncomingPacketFromAndroid.zero with packetType := getStateType }).run .static
      >>= fun _ => .done ()
  | .core1 => Bq27742G1.parseInterruptVals >>= fun _ => .done ()

/-- The cores serve `GET_STATE` and a gauge interrupt. -/
def player : System.Player (system : System Ans) where
  Choice := Unit
  above _ := []
  covers := fun preempts => preempts.elim
  answer _ _ := Bus.answer
  launch _ core bus := some (Core.program core, bus)
  launches := by
    intro _ core bus program after launched
    cases launched
    cases core with
    | core0 => exact ⟨rfl, _, _, .inl rfl, rfl⟩
    | core1 => exact ⟨rfl, .inl rfl⟩
  drift _ _ := none
  drifts := fun drifted => nomatch drifted

instance Bus.decidableApart (bus : Bus) (core : Core) (what : Deed) :
    Decidable (bus.Apart core what) :=
  match what with
  | .write device src => inferInstanceAs (Decidable (∀ chosen ∈ bus.selection core.other,
      chosen.device = device → ∀ register ∈ src.head?, register = chosen.register))
  | .read .. => .isTrue trivial
  | .other => .isTrue trivial

instance (bus : system.Shared) (action : system.Action) : Decidable (Unbroken bus action) :=
  match action with
  | .perform core op answer => Bus.decidableApart bus core (deed op answer)
  | .launch .. => .isTrue trivial
  | .drift => .isTrue trivial

/-- Registers of the gauge that hold their own numbers, and drivers without faults. -/
def sampleContents : Device → UInt8 → UInt8
  | .gauge, register => register
  | .driver _, _ => 0

/-- `GET_STATE` has read the voltage when the parse call selects the flags. -/
theorem never_torn_between :
    ∃ config, System.Reaches Unbroken (started (fun _ => 0) sampleContents) config ∧
      Bus.selection config.shared Core.core1 = some ⟨.gauge, Bq27742G1.regFlags⟩ ∧
        Bus.torn config.shared = false := by
  obtain ⟨config, reached, seen⟩ := player.reaches_of_any Unbroken
    (started (fun _ => 0) sampleContents)
    [.launch Core.core0 (), .run Core.core0 () 70, .launch Core.core1 (), .run Core.core1 () 2]
    (fun config => decide (Bus.selection config.shared Core.core1 =
      some ⟨.gauge, Bq27742G1.regFlags⟩))
    (by decide +kernel)
  exact ⟨config, reached, of_decide_eq_true seen, never_torn reached⟩

/-- `GET_STATE` has selected the voltage when the parse call selects the flags, and reads these as
the voltage. -/
theorem voltage_torn :
    ¬ ∀ (pointer : Device → UInt8) (contents : Device → UInt8 → UInt8) (config : system.Config),
      System.Reaches (fun _ _ => True) (started pointer contents) config →
        Bus.torn config.shared = false := by
  intro whole
  obtain ⟨config, reached, seen⟩ := player.reaches_of_any (fun _ _ => True)
    (started (fun _ => 0) sampleContents)
    [.launch Core.core0 (), .run Core.core0 () 68, .launch Core.core1 (), .run Core.core1 () 2,
      .run Core.core0 () 2]
    (fun config => Bus.torn config.shared) (by decide +kernel)
  exact Bool.noConfusion (seen.symm.trans (whole _ _ config reached))

end SharedBus

end RobotFirmware
