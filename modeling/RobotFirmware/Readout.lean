import RobotFirmware.Exchange

/-!
# Reading the telemetry

What the state reply is read from is composed of exchanges with error handling and of operations
that always go on. A property of programs that these have, and that sequencing keeps, is therefore
one of every function that reads the telemetry; only the clearing of the motors' faults adds an
assertion of its own.
-/

namespace RobotFirmware

open Interaction

/-- Operations that always go on and move no bus: logging, statics, pins, counts and voltages. -/
def Op.Plain : Op → Prop
  | .rp2040Log .. => True
  | .load _ => True
  | .gpioGet _ => True
  | .adcSelectInput _ => True
  | .adcRead => True
  | .quadratureEncoderGetCount _ => True
  | .strayRead _ => True
  | _ => False

/-- A property of programs that plain operations and exchanges have, and that sequencing keeps. -/
structure Composes (holds : ∀ {α : Type}, Firmware α → Prop) : Prop where
  /-- Returning has it. -/
  done {α : Type} (value : α) : holds (.done value)
  /-- Sequencing keeps it. -/
  bind {α β : Type} {program : Firmware α} {next : α → Firmware β} :
    holds program → (∀ value, holds (next value)) → holds (program >>= next)
  /-- Plain operations have it. -/
  plain (op : Op) : op.Plain → holds (perform op)
  /-- Selecting a register with error handling has it. -/
  select (i2c : I2c) (addr reg : UInt8) (nostop : Bool) :
    holds (i2cWriteErrorHandling i2c addr [reg] nostop)
  /-- Reads with error handling have it. -/
  read (i2c : I2c) (addr : UInt8) (len : Nat) (nostop : Bool) :
    holds (i2cReadErrorHandling i2c addr len nostop)

namespace Composes

variable {holds : ∀ {α : Type}, Firmware α → Prop} (composes : Composes holds) {α : Type}

include composes

/-- A message goes on. -/
theorem log (format : String) (args : List LogArg) : holds (rp2040Log format args) :=
  composes.plain _ trivial

/-- What follows a message decides. -/
theorem logged {next : Unit → Firmware α} (format : String) (args : List LogArg)
    (goes : holds (next ())) : holds (rp2040Log format args >>= next) :=
  composes.bind (composes.log format args) fun _ => goes

omit composes in
/-- A choice has the property when both branches do. -/
theorem ite {condition : Prop} [Decidable condition] {first second : Firmware α}
    (yes : holds first) (no : holds second) : holds (if condition then first else second) := by
  split
  · exact yes
  · exact no

/-! ## The motor drivers -/

/-- Reading a fault register. -/
theorem readFault (addr : UInt8) : holds (Drv8830.readFault addr) :=
  composes.bind (composes.select _ _ _ _) fun _ =>
    composes.bind (composes.read _ _ _ _) fun _ => composes.done _

/-- Reading the encoder counts. -/
theorem getEncoderCounts (state : Rp2040State) : holds (getEncoderCounts state) :=
  composes.bind (composes.plain _ trivial) fun _ =>
    composes.bind (composes.plain _ trivial) fun _ => composes.done _

/-! ## The fuel gauge -/

/-- Reading bytes from the gauge. -/
theorem readBytes (command : UInt8) (len : Nat) : holds (Bq27742G1.readBytes command len) :=
  composes.bind (composes.select _ _ _ _) fun _ => composes.read _ _ _ _

/-- A message about a bit. -/
theorem logBit (value mask : UInt16) (message : String) :
    holds (Bq27742G1.logBit value mask message) :=
  ite (composes.log _ _) (composes.done _)

/-- What follows a message about a bit decides. -/
theorem bitLogged {next : Unit → Firmware α} (value mask : UInt16) (message : String)
    (goes : holds (next ())) : holds (Bq27742G1.logBit value mask message >>= next) :=
  composes.bind (composes.logBit value mask message) fun _ => goes

/-- `bq27742_g1_get_voltage`. -/
theorem getVoltage : holds Bq27742G1.getVoltage :=
  composes.bind (composes.readBytes _ _) fun _ => composes.logged _ _ (composes.done _)

/-- `bq27742_g1_get_safety_stats`. -/
theorem getSafetyStats : holds Bq27742G1.getSafetyStats := by
  refine composes.bind (composes.readBytes _ _) fun _ => composes.logged _ _ ?_
  repeat refine composes.bitLogged _ _ _ ?_
  exact ite (composes.logged _ _ (composes.done _)) (composes.done _)

/-- `bq27742_g1_get_temp`. -/
theorem getTemp : holds Bq27742G1.getTemp :=
  composes.bind (composes.readBytes _ _) fun _ => composes.logged _ _ (composes.done _)

/-- `bq27742_g1_get_soh`. -/
theorem getSoh : holds Bq27742G1.getSoh :=
  composes.bind (composes.readBytes _ _) fun _ =>
    composes.logged _ _ (composes.logged _ _ (composes.done _))

/-- `bq27742_g1_get_flags`. -/
theorem getFlags : holds Bq27742G1.getFlags := by
  refine composes.bind (composes.readBytes _ _) fun _ => composes.logged _ _ ?_
  repeat refine composes.bitLogged _ _ _ ?_
  exact ite (composes.logged _ _ (composes.logged _ _ (composes.done _)))
    (composes.logged _ _ (composes.done _))

/-- `get_battery_state`. -/
theorem getBatteryState (state : Rp2040State) : holds (getBatteryState state) :=
  composes.bind composes.getVoltage fun _ => composes.bind composes.getSafetyStats fun _ =>
    composes.bind composes.getTemp fun _ => composes.bind composes.getSoh fun _ =>
      composes.bind composes.getFlags fun _ => composes.done _

/-! ## The chargers -/

/-- One exchange of `max77976_get_chg_details`. -/
theorem readDetail (reg : UInt8) : holds (Max77976.readDetail reg) :=
  composes.bind (composes.select _ _ _ _) fun _ =>
    composes.bind (composes.read _ _ _ _) fun _ => composes.done _

/-- The `BYP_DTLS` switch. -/
theorem logBypDtls (bypDtls : UInt8) : holds (Max77976.logBypDtls bypDtls) := by
  unfold Max77976.logBypDtls
  split
  · exact composes.log _ _
  · exact composes.done _

/-- `max77976_get_chg_details`. -/
theorem getChgDetails : holds Max77976.getChgDetails := by
  refine composes.bind (composes.readDetail _) fun _ => ?_
  repeat refine composes.logged _ _ ?_
  refine composes.bind (composes.readDetail _) fun _ => ?_
  repeat refine composes.logged _ _ ?_
  refine composes.bind (composes.readDetail _) fun _ => composes.logged _ _ ?_
  refine composes.bind (composes.logBypDtls _) fun _ => composes.logged _ _ ?_
  refine composes.bind (composes.readDetail _) fun _ => composes.logged _ _ ?_
  repeat refine composes.bind (composes.plain _ trivial) fun _ => ?_
  exact composes.done _

/-- `get_charger_state`. -/
theorem getChargerState (state : Rp2040State) : holds (getChargerState state) :=
  composes.bind composes.getChgDetails fun _ => composes.bind (composes.plain _ trivial) fun _ =>
    composes.bind (composes.bind (composes.plain _ trivial) fun _ => composes.plain _ trivial)
      fun _ => composes.bind (composes.bind (composes.plain _ trivial) fun _ =>
        composes.plain _ trivial) fun _ => composes.done _

end Composes

/-- On buses on which no transfer fails, what reads the telemetry returns. -/
theorem composes_finishes : Composes fun program => program.Finishes Op.Acknowledged where
  done _ := trivial
  bind := Program.Finishes.bind
  plain op plain := by
    cases op with
    | rp2040Log => exact .act ⟨(), trivial⟩
    | load => exact .act ⟨false, trivial⟩
    | gpioGet => exact .act ⟨false, trivial⟩
    | adcSelectInput => exact .act ⟨(), trivial⟩
    | adcRead => exact .act ⟨(0 : UInt16), trivial⟩
    | quadratureEncoderGetCount => exact .act ⟨(0 : Int32), trivial⟩
    | strayRead => exact .act ⟨(0 : UInt8), trivial⟩
    | _ => exact plain.elim
  select i2c addr reg := i2cWriteErrorHandling_finishes i2c addr [reg]
  read := i2cReadErrorHandling_finishes

end RobotFirmware
