import RobotFirmware.StartUp.Motors

/-!
# The configuration of the charger

`max77976_init` unlocks the charger, writes four settings and locks it again. Whatever the registers
held before, whichever of them the lock guards, and whatever runs beside it and afterwards, the
settings are then in the charger and stay there.
-/

namespace RobotFirmware

open Interaction
open TypeC (Thread)
open Max77958 (DriverHeader Buffers Keeping)

/-- The bytes that an operation sends to the charger. -/
def Op.toCharger? : Op → Option (List UInt8)
  | .i2cWriteTimeoutUs .i2c1 addr src _ => if addr = Max77976.addr then some src else none
  | .i2cWriteBlocking .i2c1 addr src _ => if addr = Max77976.addr then some src else none
  | _ => none

/-- Whether a transfer is answered with success. -/
def Op.succeeded : (op : Op) → Ans op → Bool
  | .i2cWriteTimeoutUs .., (result : Int) => decide (0 ≤ result)
  | .i2cWriteBlocking .., (result : Int) => decide (0 ≤ result)
  | _, _ => false

namespace Max77976

/-! ## The charger -/

/-- The contents of its registers. -/
abbrev Registers : Type := UInt8 → UInt8

/-- The lock: the registers that it guards, and the values of `CHG_CNFG_06` that open it. -/
structure Lock where
  /-- The registers that cannot be written while the lock is closed. -/
  guards : UInt8 → Bool
  /-- Whether the lock is open at a value of `CHG_CNFG_06`. -/
  opens : UInt8 → Bool
  /-- The lock can be opened. -/
  outside : guards regChgCnfg06 = false
  /-- The firmware knows how. -/
  unlocks : opens chgprotUnlock = true
  /-- And how to close it. -/
  locks : opens chgprotLock = false

namespace Lock

variable (lock : Lock)

/-- One byte is written to a register. -/
def store (registers : Registers) (reg value : UInt8) : Registers :=
  if lock.guards reg && !lock.opens (registers regChgCnfg06) then registers
  else Function.update registers reg value

/-- Bytes are written to a register and those that follow it. -/
def storeAll (registers : Registers) (reg : UInt8) : List UInt8 → Registers
  | [] => registers
  | value :: later => storeAll (lock.store registers reg value) (reg + 1) later

/-- A transfer selects a register and writes the bytes behind. -/
def write (registers : Registers) : List UInt8 → Registers
  | [] => registers
  | reg :: values => lock.storeAll registers reg values

/-- The settings are stored, one after the other. -/
def settle (registers : Registers) (settings : List (UInt8 × UInt8)) : Registers :=
  settings.foldl (fun registers setting => lock.store registers setting.1 setting.2) registers

end Lock

/-- What a transfer sets, if it sets one register. -/
def setting? : List UInt8 → Option (UInt8 × UInt8)
  | [reg, value] => some (reg, value)
  | _ => none

/-- What `max77976_init` writes besides the masks. -/
def settings : List (UInt8 × UInt8) :=
  (regChgCnfg06, chgprotUnlock) :: configuration ++ [(regChgCnfg06, chgprotLock)]

/-- The registers that a write of the masks reaches. -/
def maskRegisters : List UInt8 := [0x11, 0x12, 0x13]

/-- The values that the settings leave. -/
def configured : List (UInt8 × UInt8) :=
  [(0x16, 0x05), (0x18, 0x19), (0x1C, 0x00), (0x1E, 0x00), (0x1F, 0xBB)]

/-- The configuration in numbers. -/
theorem configuration_eq :
    configuration = [(0x16, 0x05), (0x18, 0x19), (0x1E, 0x00), (0x1F, 0xBB)] := by decide +kernel

namespace Lock

variable {lock : Lock} {registers : Registers}

/-- The register of the lock can always be written. -/
theorem store_lock (value : UInt8) :
    lock.store registers regChgCnfg06 value = Function.update registers regChgCnfg06 value := by
  simp [store, lock.outside]

/-- While the lock is open, so can the others. -/
theorem store_open (unlocked : registers regChgCnfg06 = chgprotUnlock) (reg value : UInt8) :
    lock.store registers reg value = Function.update registers reg value := by
  simp [store, unlocked, lock.unlocks]

/-- Storing elsewhere leaves a register as it was. -/
theorem store_other {reg other : UInt8} (apart : other ≠ reg) (value : UInt8) :
    lock.store registers reg value other = registers other := by
  unfold store
  split
  · rfl
  · exact Function.update_of_ne apart _ _

/-- What one byte does to a register depends on that register and on the lock only. -/
theorem store_congr {settled : Registers} {apart : List UInt8} (outside : regChgCnfg06 ∉ apart)
    (agree : ∀ other ∉ apart, registers other = settled other) (reg value : UInt8) :
    ∀ other ∉ apart, lock.store registers reg value other = lock.store settled reg value other := by
  intro other free
  have same := agree other free
  unfold store
  rw [agree regChgCnfg06 outside]
  split
  · exact same
  · by_cases here : other = reg
    · rw [here, Function.update_self, Function.update_self]
    · rw [Function.update_of_ne here, Function.update_of_ne here, same]

/-- Unlocked, all settings are stored, whatever the lock guards. -/
theorem settle_settings (registers : Registers) :
    (∀ setting ∈ configured, lock.settle registers settings setting.1 = setting.2) ∧
      ∀ reg ∉ configured.map Prod.fst, lock.settle registers settings reg = registers reg := by
  have stored : lock.settle registers settings = Function.update (Function.update (Function.update
      (Function.update (Function.update (Function.update registers 0x1C 0x0C) 0x16 0x05) 0x18 0x19)
        0x1E 0x00) 0x1F 0xBB) 0x1C 0x00 := by
    simp only [settle, settings, configuration_eq, List.cons_append, List.nil_append,
      List.foldl_cons, List.foldl_nil]
    -- the lock first, and then the settings from the inside out
    rw [store_lock chgprotUnlock, store_open _ 0x16 0x05, store_open _ 0x18 0x19,
      store_open _ 0x1E 0x00, store_open _ 0x1F 0xBB, store_lock chgprotLock]
    · rfl
    all_goals simp [regChgCnfg06, chgprotUnlock]
  rw [stored]
  constructor
  · simp [configured, Function.update_apply]
  · intro reg other
    simp only [configured, List.map_cons, List.map_nil, List.mem_cons, not_or] at other
    simp [other]

end Lock

end Max77976

namespace StartUp

open Max77976 (Lock Registers settings configured maskRegisters setting?)

/-! ## What the charger receives -/

/-- The bytes that an operation sends to the charger. -/
def StartOp.toCharger? : StartOp → Option (List UInt8)
  | .platform op => op.toCharger?
  | _ => none

/-- The bytes that it receives: a transfer that fails stores nothing. -/
def StartOp.received? : (op : StartOp) → StartAns op → Option (List UInt8)
  | .platform op, answer => if op.succeeded answer then op.toCharger? else none
  | _, _ => none

/-- The registers after a trace. -/
def registersAfter (lock : Lock) (registers : Registers) (trace : List (Event StartAns)) :
    Registers :=
  trace.foldl (fun registers event =>
    (event.op.received? event.answer).elim registers (lock.write registers)) registers

/-- A register is selected or set, or the masks are written. -/
def Shaped (src : List UInt8) : Prop :=
  src.length ≤ 2 ∨ ∃ value, src = [Max77976.regChgIntMask, value, 0, 0]

/-- What is received was sent. -/
theorem sent_of_received {op : StartOp} {answer : StartAns op} {src : List UInt8}
    (received : src ∈ op.received? answer) : src ∈ op.toCharger? := by
  cases op with
  | platform op => exact (Option.ite_none_right_eq_some.mp received).2
  | _ => cases received

/-- The writes of `max77976_init` besides the masks. -/
abbrev configuring : Schedule StartAns (UInt8 × UInt8) where
  plan := settings
  attempts op := op.toCharger?.bind setting?
  performs op answer := (op.received? answer).bind setting?
  attempted op answer step performed := by
    obtain ⟨src, received, sets⟩ := Option.bind_eq_some_iff.mp performed
    exact Option.bind_eq_some_iff.mpr ⟨src, sent_of_received received, sets⟩

/-- A transfer does to the registers apart from the masks what it sets. -/
theorem write_agree {lock : Lock} {registers settled : Registers} {src : List UInt8}
    (shaped : Shaped src) (agree : ∀ reg ∉ maskRegisters, registers reg = settled reg) :
    ∀ reg ∉ maskRegisters,
      lock.write registers src reg = lock.settle settled (setting? src).toList reg := by
  obtain few | ⟨value, rfl⟩ := shaped
  · match src with
    | [] => exact agree
    | [_] => exact agree
    | [reg, value] => exact Lock.store_congr (by decide) agree reg value
    | _ :: _ :: _ :: _ => simp at few
  · intro reg apart
    simp only [maskRegisters, List.mem_cons, List.not_mem_nil, or_false, not_or] at apart
    obtain ⟨first, second, third⟩ := apart
    have same := agree reg (by simp [maskRegisters, first, second, third])
    change lock.store (lock.store (lock.store registers 0x11 value) 0x12 0) 0x13 0 reg = settled reg
    rw [Lock.store_other third, Lock.store_other second, Lock.store_other first, same]

/-- A trace does to the registers apart from the masks what its settings do. -/
theorem registersAfter_agree {lock : Lock} {trace : List (Event StartAns)}
    (shaped : ∀ event ∈ trace, ∀ src ∈ event.op.toCharger?, Shaped src)
    {registers settled : Registers} (agree : ∀ reg ∉ maskRegisters, registers reg = settled reg) :
    ∀ reg ∉ maskRegisters, registersAfter lock registers trace reg =
      lock.settle settled (configuring.steps trace) reg := by
  induction trace generalizing registers settled with
  | nil => exact agree
  | cons event trace ih =>
    obtain ⟨first, later⟩ := List.forall_mem_cons.mp shaped
    rw [Schedule.steps_cons, Lock.settle, List.foldl_append]
    refine ih later ?_
    change ∀ reg ∉ maskRegisters,
      (event.op.received? event.answer).elim registers (lock.write registers) reg =
        lock.settle settled ((event.op.received? event.answer).bind setting?).toList reg
    cases received : event.op.received? event.answer with
    | none => exact agree
    | some src => exact write_agree (first src (sent_of_received received)) agree

/-! ## The monitor of the configuration -/

/-- The step that follows `max77976_init`. -/
def StartOp.follows : StartOp → Bool
  | .platform (.gpioInit gpio) => gpio == Sn74ahc125rgyr.gpio1
  | _ => false

/-- Watch the settings, and allow what follows them only when all are made. -/
abbrev settling : Monitor StartAns :=
  configuring.monitor fun done op =>
    (∀ src ∈ op.toCharger?, Shaped src) ∧ (op.follows = true → done = settings)

/-- An operation that leaves the settings alone. -/
def StartOp.Spares (op : StartOp) : Prop :=
  (∀ src ∈ op.toCharger?, setting? src = none ∧ Shaped src) ∧ op.follows = false

/-- Operations that do not go to the charger leave its settings alone. -/
theorem StartOp.Spares.apart {op : StartOp} (apart : op.toCharger? = none)
    (before : op.follows = false) : op.Spares := by
  refine ⟨fun src sent => ?_, before⟩
  rw [apart] at sent
  cases sent

/-- The operation of the rest of the firmware leaves the settings alone. -/
abbrev Spares (op : Op) : Prop := (StartOp.platform op).Spares

/-- Such an operation sets nothing. -/
theorem StartOp.Spares.attempts {op : StartOp} (spares : op.Spares) :
    configuring.attempts op = none := by
  change op.toCharger?.bind setting? = none
  cases sent : op.toCharger? with
  | none => rfl
  | some src => exact (spares.1 src sent).1

/-- It is allowed everywhere. -/
theorem settling_spares {done : List (UInt8 × UInt8)} (op : StartOp) (spares : op.Spares)
    (state : settling.State) (same : state = done) :
    settling.allows state op ∧ ∀ answer, settling.next state op answer = done := by
  subst same
  refine Schedule.idle spares.attempts ⟨fun src sent => (spares.1 src sent).2, fun follows => ?_⟩
  rw [spares.2] at follows
  cases follows

/-- The settings before and after a program. -/
abbrev Configures {α : Type} (before after : List (UInt8 × UInt8)) (program : Starting α) : Prop :=
  settling.Leads (· = before) (· = after) program

section Phases

variable {α β : Type} {before middle after done : List (UInt8 × UInt8)}

namespace Configures

/-- One program after another. -/
theorem bind {program : Starting α} {next : α → Starting β}
    (first : Configures before middle program)
    (second : ∀ value, Configures middle after (next value)) :
    Configures before after (program >>= next) :=
  Monitor.Leads.bind first second

/-- Functions of the rest of the firmware one after the other. -/
theorem sequence {function : Firmware α} {next : α → Firmware β}
    (first : Configures before middle (platform function))
    (second : ∀ value, Configures middle after (platform (next value))) :
    Configures before after (platform (function >>= next)) := by
  rw [platform, Program.embed_bind]
  exact first.bind second

/-- Operations that leave the settings alone. -/
theorem within {program : Starting α} (inside : program.Within StartOp.Spares) :
    Configures done done program :=
  Monitor.Keeps.of_kind (fun state op spares => settling_spares op spares state) inside

/-- And those of a function of the rest of the firmware. -/
theorem inside {function : Firmware α} (inside : function.Within Spares) :
    Configures done done (platform function) := within (Program.embed_within.mpr inside)

/-- One such operation before others. -/
theorem step {op : StartOp} {resume : StartAns op → Starting α} (spares : op.Spares)
    (later : ∀ answer, Configures before after (resume answer)) :
    Configures before after (.perform op resume) :=
  (within (.act spares)).bind later

/-- What follows the settings. -/
theorem follow {op : StartOp} {resume : StartAns op → Starting α} (apart : op.toCharger? = none)
    (later : ∀ answer, Configures settings after (resume answer)) :
    Configures settings after (.perform op resume) := by
  have idle : configuring.attempts op = none := congrArg (Option.bind · setting?) apart
  have permitted :
      (∀ src ∈ op.toCharger?, Shaped src) ∧ (op.follows = true → settings = settings) :=
    ⟨by simp [apart], fun _ => rfl⟩
  intro state same
  subst same
  obtain ⟨allowed, unchanged⟩ : settling.allows settings op ∧
    ∀ answer, settling.next settings op answer = settings := Schedule.idle idle permitted
  exact ⟨allowed, fun answer => later answer _ (unchanged answer)⟩

end Configures

/-- Routine operations leave the settings alone. -/
theorem routine_spares (op : Op) (routine : op.Routine) : Spares op := by
  cases op <;> first | exact routine.elim | exact .apart rfl rfl

/-- What an answered transfer sets. -/
theorem performs_write (src : List UInt8) (nostop : Bool) (result : Int) :
    configuring.performs (.platform (.i2cWriteTimeoutUs .i2c1 Max77976.addr src nostop)) result =
      if 0 ≤ result then setting? src else none := by
  by_cases success : 0 ≤ result
  · simp [StartOp.received?, Op.succeeded, Op.toCharger?, success]
  · simp [StartOp.received?, Op.succeeded, success]

/-- A setting that is due is made, or its attempts fail for good. -/
theorem writeReg_configures {reg value : UInt8} (due : done ++ [(reg, value)] <+: settings) :
    Configures done (done ++ [(reg, value)]) (platform (Max77976.writeReg reg value)) := by
  rintro state rfl
  have ignores : (settling.along StartOp.platform).Ignores Op.Routine :=
    fun _ op routine => settling_spares (.platform op) (routine_spares op routine) _ rfl
  refine Monitor.guards_embed.mpr (guards_i2cWriteErrorHandling ignores ?_ ?_ ?_)
  · refine ⟨fun step attempted => ?_, fun src sent => ?_, fun follows => nomatch follows⟩
    · obtain rfl : (reg, value) = step := by
        simpa [StartOp.toCharger?, Op.toCharger?, setting?] using attempted
      exact due
    · obtain rfl : [reg, value] = src := by
        simpa [StartOp.toCharger?, Op.toCharger?] using sent
      exact .inl (Nat.le_refl 2)
  · intro result failed
    have nothing := performs_write [reg, value] false result
    rw [if_neg (Int.not_le.mpr failed)] at nothing
    change state ++ Option.toList (configuring.performs _ _) = state
    rw [nothing]
    exact List.append_nil state
  · intro result success
    have made := performs_write [reg, value] false result
    rw [if_pos success] at made
    change state ++ Option.toList (configuring.performs _ _) = _
    rw [made]
    rfl

/-- Settings that are due are made one after the other. -/
theorem forM_configures {values : List (UInt8 × UInt8)} (due : done ++ values <+: settings) :
    Configures done (done ++ values)
      (platform (values.forM fun (reg, value) => Max77976.writeReg reg value)) := by
  induction values generalizing done with
  | nil =>
    rw [List.append_nil]
    exact fun _ same => same
  | cons value values ih =>
    rw [List.append_cons] at due ⊢
    have first : done ++ [value] <+: settings := (List.prefix_append _ _).trans due
    exact .sequence (writeReg_configures first) fun _ => ih due

end Phases

/-! ## What leaves the settings alone -/

/-- The fuel gauge is another device. -/
theorem gauge_spares : Bq27742G1.Exchanges Spares where
  routine := routine_spares
  write _ _ := .apart rfl rfl
  read _ _ := .apart rfl rfl

/-- So are the motor drivers. -/
theorem motors_spares : Drv8830.Exchanges Spares where
  routine := routine_spares
  write _ _ _ := .apart rfl rfl
  read _ _ _ := .apart rfl rfl

/-- A register is selected, or the masks are written. -/
theorem charger_spares : Max77976.Exchanges Spares := by
  have sent {src wanted : List UInt8} (found : src ∈ (some wanted : Option (List UInt8))) :
      src = wanted := (Option.some.inj found).symm
  constructor
  case routine => exact routine_spares
  case read => exact fun _ _ => .apart rfl rfl
  case select => exact fun reg _ => ⟨fun src found => by
    rw [sent found]
    exact ⟨rfl, .inl (by simp)⟩, rfl⟩
  case mask => exact fun value => ⟨fun src found => by
    rw [sent found]
    exact ⟨rfl, .inr ⟨value, rfl⟩⟩, rfl⟩

/-- The interrupt tests write the masks only. -/
theorem testing_spares : Testing Spares where
  routine := routine_spares
  get _ _ := .apart rfl rfl
  setDir _ _ _ := .apart rfl rfl
  pullUp _ _ := .apart rfl rfl
  load _ := .apart rfl rfl
  store _ _ := .apart rfl rfl
  await _ := .apart rfl rfl

/-- The loop of `main` reads the charger only. -/
theorem serving_spares : Serving Spares where
  gauge := gauge_spares
  charger := charger_spares
  motors := motors_spares
  control _ _ _ := .apart rfl rfl
  attached := .apart rfl rfl
  select _ _ := .apart rfl rfl
  convert := .apart rfl rfl
  count _ _ := .apart rfl rfl
  receive _ := .apart rfl rfl
  send _ := .apart rfl rfl
  acquire := .apart rfl rfl
  release := .apart rfl rfl
  size := .apart rfl rfl
  flush := .apart rfl rfl
  strayRead _ _ _ := .apart rfl rfl
  enter _ := .apart rfl rfl

/-- Setting up leaves the settings alone. -/
theorem setsUp_spares (op : StartOp) (setsUp : op.SetsUp) : op.Spares := by
  cases op with
  | platform op =>
    cases op with
    | gpioInit gpio => exact .apart rfl (beq_false_of_ne setsUp)
    | _ => first | exact setsUp.elim | exact .apart rfl rfl
  | _ => first | exact setsUp.elim | exact .apart rfl rfl

/-- `max77976_init` is in this part of `on_start`. -/
theorem startChargers_configures : Configures [] settings startChargers := by
  have masks : Configures [] [] (platform Max77976.setInterruptMasks) :=
    .inside (Max77976.mask_allowed charger_spares _)
  have clears : Configures [] [] (platform Max77976.getInterruptVals) :=
    .inside (Max77976.getInterruptVals_allowed charger_spares (.apart rfl rfl))
  have unlocks : Configures [] [(0x1C, 0x0C)]
      (platform (Max77976.writeReg Max77976.regChgCnfg06 Max77976.chgprotUnlock)) :=
    writeReg_configures (List.prefix_append [(0x1C, 0x0C)] _)
  have settles : Configures [(0x1C, 0x0C)] ((0x1C, 0x0C) :: Max77976.configuration)
      (platform (Max77976.configuration.forM fun (reg, value) => Max77976.writeReg reg value)) :=
    forM_configures (List.prefix_append _ _)
  have locks : Configures ((0x1C, 0x0C) :: Max77976.configuration) settings
      (platform (Max77976.writeReg Max77976.regChgCnfg06 Max77976.chgprotLock)) :=
    writeReg_configures (List.prefix_refl _)
  have configured : Configures [] settings (platform (do
      Max77976.setInterruptMasks
      let _ ← Max77976.getInterruptVals
      Max77976.writeReg Max77976.regChgCnfg06 Max77976.chgprotUnlock
      Max77976.configuration.forM fun (reg, value) => Max77976.writeReg reg value
      Max77976.writeReg Max77976.regChgCnfg06 Max77976.chgprotLock
      return (0 : Int32))) :=
    .sequence masks fun _ => .sequence clears fun _ => .sequence unlocks fun _ =>
      .sequence settles fun _ => .sequence locks fun _ _ same => same
  have init : Configures [] settings (platform Max77976.init) :=
    .step (.apart rfl rfl) fun _ => .step (.apart rfl rfl) fun _ => .step (.apart rfl rfl) fun _ =>
      .step (.apart rfl rfl) fun _ => .step (.apart rfl rfl) fun _ =>
        .step (.apart rfl rfl) fun _ => configured
  have shifter : Configures settings settings
      (platform (Sn74ahc125rgyr.init Sn74ahc125rgyr.gpio1)) :=
    .follow rfl fun _ => .step (.apart rfl rfl) fun _ => .step (.apart rfl rfl)
      fun _ _ same => same
  refine (Configures.within (i2cStart_setsUp.mono setsUp_spares)).bind fun _ =>
    .step (setsUp_spares _ trivial) fun _ =>
    (Configures.within (turnOnLeds_setsUp.mono setsUp_spares)).bind fun _ =>
    (Configures.within (stwlc38jrmInit_setsUp.mono setsUp_spares)).bind fun _ =>
    (Configures.within (ncp3901Init_setsUp.mono setsUp_spares)).bind fun _ =>
    init.bind fun _ => shifter.bind fun _ =>
    .within (sn74Init_allowed setsUp_spares (.apart rfl rfl) (by decide))

section Robot

variable [DriverHeader]

/-- What the MAX77958 receives goes over the other bus. -/
theorem transfers_spares : Max77958.Transfers Spares where
  routine := routine_spares
  write _ _ := .apart rfl rfl
  read _ := .apart rfl rfl
  load _ := .apart rfl rfl

/-- The driver of the MAX77958 leaves the settings alone. -/
theorem keeping_spares {done : List (UInt8 × UInt8)} :
    Keeping (settling.along StartOp.platform) (· = done) Spares where
  keeps state op spares := settling_spares (.platform op) spares state
  transfers := transfers_spares
  store _ _ := .apart rfl rfl
  await _ := .apart rfl rfl
  storeReply _ := .apart rfl rfl
  loadReply := .apart rfl rfl
  stray _ _ _ := .apart rfl rfl
  enter _ := .apart rfl rfl
  message := .apart rfl rfl
  add _ _ := .apart rfl rfl
  level := .apart rfl rfl
  pop := .of_kind (fun state op spares => settling_spares (.platform op) spares state)
    (Max77958.opcodeQueuePop_within.mono fun op queueing => by
      cases op <;> first | exact queueing.elim | exact .apart rfl rfl)

/-- The tests and what follows them leave the settings alone. -/
theorem standing_spares {done : List (UInt8 × UInt8)} : Standing settling (· = done) Spares where
  controller := keeping_spares
  charger := charger_spares
  drives patience := keeping_spares.inside (testing_spares.driveInterrupt_allowed patience)
  devices := keeping_spares.inside (testing_spares.deviceTests_allowed charger_spares motors_spares)
  null := Configures.within (.act (.apart rfl rfl))
  scan _ block := Configures.within (i2cScan_allowed (.apart rfl rfl)
    (fun _ => .apart rfl rfl) block)

/-- `on_start` from `max77958_init` to the encoders. -/
theorem startRobot_configures {done : List (UInt8 × UInt8)} (buffers : Buffers) :
    Configures done done (startRobot buffers) := by
  have init : (settling.along StartOp.platform).StatefulKeeps (· = done) Max77958.init :=
    keeping_spares.init (.apart rfl rfl) (.apart rfl rfl) (.apart rfl rfl) (.apart rfl rfl)
      (.apart rfl rfl) (.apart rfl rfl)
  have controller : Configures done done (platform ((Max77958.init :
      Max77958.Driver Unit).run buffers)) :=
    fun state same => Monitor.guards_embed.mpr (init buffers state same)
  have gauge : bq27742G1Init.Within StartOp.Spares :=
    bq27742G1Init_allowed setsUp_spares gauge_spares
      (Bq27742G1.initEnd_allowed routine_spares (.apart rfl rfl) (fun _ _ => .apart rfl rfl)
        (.apart rfl rfl) (fun _ => .apart rfl rfl) (.apart rfl rfl))
  have motors : Drv8830.init.Within Spares :=
    drv8830Init_allowed (fun op => setsUp_spares (.platform op)) serving_spares.control
  have encoders : encoderInit.Within StartOp.Spares := encoderInit_setsUp.mono setsUp_spares
  have act {op : Op} (spares : Spares op) : Configures done done (platform (perform op)) :=
    .inside (.act spares)
  refine controller.bind fun _ => (act (.apart rfl rfl)).bind fun _ =>
    (act (.apart rfl rfl)).bind fun _ => (Configures.within gauge).bind fun _ =>
    (Configures.inside (Bq27742G1.fwVersionCheck_allowed gauge_spares)).bind fun _ =>
    (act (.apart rfl rfl)).bind fun _ => (act (.apart rfl rfl)).bind fun _ =>
    (Configures.inside motors).bind fun _ => (act (.apart rfl rfl)).bind fun _ =>
    (Configures.within encoders).bind fun _ => ?_
  iterate 3 refine (act (.apart rfl rfl)).bind fun _ => ?_
  exact fun _ same => same

/-- `main` makes every setting once, before anything that follows `max77976_init`. -/
theorem main_configures (patience : Nat) (blocks : I2c → Vector UInt8 maxDevices)
    (rp2040State : Rp2040State) (rounds : Nat) :
    Configures [] settings (main patience blocks rp2040State rounds) := by
  have started : startPlatform.Within StartOp.Spares := startPlatform_setsUp.mono setsUp_spares
  have motors := turnMotors_allowed routine_spares serving_spares.control serving_spares.count
    Statics.initial.encoders
  have standing : Standing settling (· = settings) Spares := standing_spares
  have start : Configures [] settings (onStart patience blocks rp2040State .initial) :=
    (Configures.within started).bind fun _ => startChargers_configures.bind fun _ =>
      (startRobot_configures _).bind fun _ => (Configures.inside motors).bind fun _ =>
      .bind (standing.robotUnitTests patience _) fun _ =>
      .bind (standing.lookAround blocks _) fun _ _ same => same
  have pause : Configures settings settings (platform (perform (.sleepMs 1000))) :=
    .inside (.act (.apart rfl rfl))
  exact start.bind fun statics => pause.bind fun _ =>
    .inside ((serving_spares.serve_allowed rounds statics.serial).bind fun _ => trivial)

end Robot

/-! ## Every interleaving -/

/-- Whatever pin interrupts, the settings are left alone. -/
theorem handling_spares : Handling Spares where
  routine := routine_spares
  acknowledge _ _ := .apart rfl rfl
  add _ := .apart rfl rfl
  load _ := .apart rfl rfl
  store _ _ := .apart rfl rfl
  get := .apart rfl rfl
  enable _ _ := .apart rfl rfl

section Interleavings

variable [DriverHeader]

/-- Whatever core 1 takes from the call queue, too. -/
theorem calling_spares : Calling Spares where
  gauge := gauge_spares
  charger := charger_spares
  motors := motors_spares
  controls op controls := by
    cases op with
    | i2cWriteTimeoutUs i2c =>
      cases i2c with
      | i2c0 => exact .apart rfl rfl
      | i2c1 => exact controls.elim
    | _ => first | exact .apart rfl rfl | exact controls.elim
  strayed := .apart rfl rfl
  store _ _ _ := .apart rfl rfl
  get := .apart rfl rfl
  enable _ _ := .apart rfl rfl

/-- From the moment that the board is switched on, in every interleaving and whatever the registers
held: once `sn74ahc125rgyr_init`, which follows `max77976_init`, has begun, every setting is in the
charger, the lock is closed, and no other register than these and the masks has changed. -/
theorem charger_configured {patience rounds : Nat} {blocks : I2c → Vector UInt8 maxDevices}
    {rp2040State : Rp2040State} {config : board.recorded.Config} (lock : Lock)
    (initial : Registers)
    (reached : System.Reaches (fun _ _ => True)
      (powerOn (main patience blocks rp2040State rounds)).recording config)
    (past : ∃ event ∈ recordOf config,
      event.op = .platform (.gpioInit Sn74ahc125rgyr.gpio1)) :
    (∀ setting ∈ configured,
      registersAfter lock initial (recordOf config) setting.1 = setting.2) ∧
    lock.opens (registersAfter lock initial (recordOf config) Max77976.regChgCnfg06) = false ∧
    ∀ reg ∉ maskRegisters ++ configured.map Prod.fst,
      registersAfter lock initial (recordOf config) reg = initial reg := by
  have others := @others_performed _ _ _ (fun _ => StartOp.Spares) handling_spares
    calling_spares reached
  have guards := main_configures patience blocks rp2040State rounds [] rfl
  have accepted := (guards.run (core0_run reached)).1
  -- what follows the settings was performed by core 0
  obtain ⟨event, member, same⟩ := past
  obtain ⟨entry, listed, rfl⟩ := List.mem_map.mp member
  have follows : entry.2.op.follows = true := by rw [same]; rfl
  have own : entry.1 = Thread.core0 := by
    by_contra other
    have before := (others entry listed other).2
    rw [follows] at before
    cases before
  have reached : configuring.steps (System.ownTrace config.shared.2 Thread.core0) = settings :=
    Schedule.steps_complete accepted List.nil_prefix (own ▸ System.mem_ownTrace listed)
      fun _ permitted => permitted.2 follows
  have steps : configuring.steps (recordOf config) = settings := by
    rw [← reached]
    exact System.filterMap_ownTrace _ fun entry listed other =>
      Schedule.performs_none (others entry listed other).attempts _
  have shaped : ∀ event ∈ recordOf config, ∀ src ∈ event.op.toCharger?, Shaped src := by
    intro event member src sent
    obtain ⟨entry, listed, rfl⟩ := List.mem_map.mp member
    by_cases own : entry.1 = Thread.core0
    · obtain ⟨_, _, shaped, _⟩ := accepted.allowed (own ▸ System.mem_ownTrace listed)
      exact shaped src sent
    · exact ((others entry listed own).1 src sent).2
  have agree (reg : UInt8) (apart : reg ∉ maskRegisters) :
      registersAfter lock initial (recordOf config) reg = lock.settle initial settings reg := by
    rw [← steps]
    exact registersAfter_agree shaped (fun _ _ => rfl) reg apart
  obtain ⟨stored, kept⟩ := @Lock.settle_settings lock initial
  have settled (setting : UInt8 × UInt8) (listed : setting ∈ configured) :
      registersAfter lock initial (recordOf config) setting.1 = setting.2 := by
    have apart : ∀ setting ∈ configured, setting.1 ∉ maskRegisters := by
      simp [configured, maskRegisters]
    rw [agree _ (apart setting listed), stored setting listed]
  refine ⟨settled, ?_, ?_⟩
  · have closed := settled (Max77976.regChgCnfg06, Max77976.chgprotLock) (by decide)
    exact (congrArg lock.opens closed).trans lock.locks
  · intro reg apart
    rw [List.mem_append, not_or] at apart
    rw [agree reg apart.1, kept reg apart.2]

end Interleavings

/-- A lock that guards the settings. -/
def sampleLock : Lock where
  guards reg := decide (0x16 ≤ reg) && reg != Max77976.regChgCnfg06
  opens value := value == Max77976.chgprotUnlock
  outside := rfl
  unlocks := rfl
  locks := rfl

/-- The start that gets stuck in the self tests has configured the charger. -/
theorem stuck_follows :
    (@recordOf Max77958.sampleHeader (@stuck Max77958.sampleHeader)).any
      (fun event => event.op.follows) = true := by
  decide +kernel

/-- Only the pin of the level shifter follows. -/
theorem eq_of_follows {op : StartOp} (follows : op.follows = true) :
    op = .platform (.gpioInit Sn74ahc125rgyr.gpio1) := by
  unfold StartOp.follows at follows
  split at follows
  · rw [beq_iff_eq.mp follows]
  · cases follows

/-- Guarded registers that held other values have their settings, the lock is closed, and a register
that is not set has kept its own. -/
theorem charger_configured_stuck :
    let _ := Max77958.sampleHeader
    registersAfter sampleLock (fun _ => 0xFF) (recordOf stuck) 0x1F = 0xBB ∧
      sampleLock.opens (registersAfter sampleLock (fun _ => 0xFF) (recordOf stuck) 0x1C) = false ∧
      registersAfter sampleLock (fun _ => 0xFF) (recordOf stuck) 0x17 = 0xFF := by
  let _ := Max77958.sampleHeader
  obtain ⟨event, member, follows⟩ := List.any_eq_true.mp stuck_follows
  obtain ⟨stored, closed, kept⟩ := charger_configured sampleLock (fun _ => 0xFF) reaches_stuck
    ⟨event, member, eq_of_follows follows⟩
  exact ⟨stored (0x1F, 0xBB) (by decide), closed, kept 0x17 (by decide)⟩

end StartUp

end RobotFirmware
