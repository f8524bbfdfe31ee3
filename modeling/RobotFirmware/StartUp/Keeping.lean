import RobotFirmware.StartUp.Footprint

/-!
# What the MAX77958 driver keeps

The driver moves commands from its queue to the call queue, and which command a pop finds is not
fixed by its code. A property of a monitor that is kept by the pops and by the single operations of
the driver is kept by each of its functions, on either core, and by the self tests.
-/

namespace RobotFirmware

open Interaction

namespace Max77958

section Driver

variable [DriverHeader]

/-- A property that the operations of the driver keep under a monitor. What a pop moves is known to
the monitor only. -/
structure Keeping (m : Monitor Ans) (Inv : m.State → Prop) (kind : Op → Prop) : Prop where
  keeps : ∀ state op, kind op → Inv state →
    m.allows state op ∧ ∀ answer, Inv (m.next state op answer)
  transfers : Transfers kind
  store : ∀ flag value, kind (.store flag value)
  await : ∀ flag, kind (.await flag)
  storeReply : ∀ bytes, kind (.storeOpCodeReturnBuf bytes)
  loadReply : kind .loadOpCodeReturnBuf
  stray : ∀ index, 33 ≤ index → index ≤ 1021 → kind (.strayRead index)
  enter : ∀ call, kind (.enter call)
  message : kind (.callQueueTryAdd ⟨.pdMsgResponse, 0⟩)
  add : ∀ entry : QueueEntry, entry.func.isOpcode = true → kind (.opcodeQueueTryAdd entry)
  level : kind .opcodeQueueGetLevel
  pop : m.Keeps Inv opcodeQueuePop

namespace Keeping

variable {m : Monitor Ans} {Inv : m.State → Prop} {kind : Op → Prop}
  (keeping : Keeping m Inv kind)

include keeping

/-- Programs of such operations keep it. -/
theorem inside {α : Type} {program : Firmware α} (inside : program.Within kind) :
    m.Keeps Inv program := .of_kind keeping.keeps inside

/-- So do functions of the driver. -/
theorem driver {α : Type} {function : Driver α} (inside : StatefulWithin kind function) :
    m.StatefulKeeps Inv function := fun memory => .of_kind keeping.keeps (inside memory)

/-- A message keeps it. -/
theorem log (format : String) (args : List LogArg) : m.Keeps Inv (rp2040Log format args) :=
  keeping.inside (log_allowed keeping.transfers.routine _ _)

/-- So does a message of the driver. -/
theorem driverLog (format : String) (args : List LogArg) :
    m.StatefulKeeps Inv (rp2040Log format args : Driver Unit) := .lift (keeping.log _ _)

/-- So does reading registers. -/
theorem readRegisters (reg : UInt8) (len : Nat) :
    m.StatefulKeeps Inv (readRegisters reg len : Driver Unit) :=
  keeping.driver (readRegisters_within keeping.transfers.reads _ _)

/-- So does entering a handler. -/
theorem enters (call : Call) : m.StatefulKeeps Inv (perform (.enter call) : Driver Unit) :=
  .lift (keeping.inside (.act (keeping.enter _)))

/-- A command is added to its queue. -/
theorem opcodeQueueAdd {func : EntryFunc} (opcode : func.isOpcode = true) (data : Int32) :
    m.Keeps Inv (opcodeQueueAdd func data) := by
  have routine := keeping.transfers.routine
  exact keeping.inside ⟨keeping.store _ _, fun _ => ⟨keeping.add ⟨func, data⟩ opcode, fun _ => .ite
    ⟨routine _ trivial, fun _ => ⟨routine _ trivial, fun impossible => nomatch impossible⟩⟩
    ⟨keeping.level, fun _ => ⟨routine _ trivial, fun _ => trivial⟩⟩⟩⟩

/-- It is added and the first one is popped. -/
theorem addAndPop (data : Int32) : m.Keeps Inv (do
    Max77958.opcodeQueueAdd .gpioSet data
    let _ ← opcodeQueuePop) :=
  (keeping.opcodeQueueAdd rfl _).bind fun _ => keeping.pop.bind fun _ _ holds => holds

/-! ### Interrupts -/

/-- The state of the CC pins decides which command is added. -/
theorem actOnCcStat (ccStat : UInt8) : m.Keeps Inv (actOnCcStat ccStat) :=
  .ite ((keeping.log _ _).bind fun _ => keeping.addAndPop _)
    (.ite ((keeping.log _ _).bind fun _ => keeping.addAndPop _)
      (.ite (keeping.log _ _) (keeping.log _ _)))

/-- It is read before. -/
theorem onCcstatChange : m.StatefulKeeps Inv (onCcstatChange : Driver Unit) := by
  have fault (ccStatus1 bit : UInt8) (message : String) :
      m.Keeps Inv (logFault ccStatus1 bit message) :=
    .ite (keeping.log _ _) fun _ holds => holds
  refine (keeping.enters _).bind fun _ => (keeping.driverLog _ _).bind fun _ =>
    (keeping.readRegisters _ _).bind fun _ => .bind .get fun _ => .bind .get fun _ => ?_
  iterate 4 refine (keeping.driverLog _ _).bind fun _ => ?_
  refine Monitor.StatefulKeeps.bind (.lift (keeping.actOnCcStat _)) fun _ => ?_
  iterate 4 refine Monitor.StatefulKeeps.bind (.lift (fault _ _ _)) fun _ => ?_
  exact .lift (fault _ _ _)

/-- A reply pops the next command or sets the flag that there is none. -/
theorem onOpcodeCmdResponse : m.StatefulKeeps Inv (onOpcodeCmdResponse : Driver Unit) := by
  have transfers := keeping.transfers
  have read : StatefulWithin kind (opcodeRead : Driver Unit) :=
    .bind (.modify _) fun _ => .bind (.modify _) fun _ =>
      .bind (writeSendBuf_within transfers _ _) fun _ =>
      .bind (.lift (i2cReadErrorHandling_within (transfers.read _) transfers.routine)) fun _ =>
      .bind (.lift (.act (keeping.storeReply _))) fun _ => .lift (log_allowed transfers.routine _ _)
  have finish : m.StatefulKeeps Inv (RobotFirmware.store .opcodesFinished true : Driver Unit) :=
    .lift (keeping.inside (.act (keeping.store _ _)))
  exact (keeping.enters _).bind fun _ => (keeping.driver read).bind fun _ =>
    Monitor.StatefulKeeps.bind (.lift keeping.pop) fun _ => .ite finish (.pure _)

omit [DriverHeader] keeping in
/-- A handler runs if its bit is set. -/
theorem dispatch {handler : Driver Unit} (keeps : m.StatefulKeeps Inv handler) (reg : Fin 33)
    (mask : UInt8) (bit returnVal : UInt16) :
    m.StatefulKeeps Inv (dispatch reg mask handler bit returnVal : Driver UInt16) :=
  .bind .get fun _ => .ite (keeps.bind fun _ => .pure _) (.pure _)

/-- `max77958_parse_interrupt_vals` keeps it when its handlers do. -/
theorem parseInterruptVals : m.StatefulKeeps Inv (parseInterruptVals : Driver Int32) := by
  have marked (call : Call) (format : String) : m.StatefulKeeps Inv (do
      perform (.enter call)
      rp2040Log format [] : Driver Unit) :=
    (keeping.enters call).bind fun _ => keeping.driverLog _ _
  have message : m.StatefulKeeps Inv (onPdMsgReceived : Driver Unit) :=
    (keeping.enters _).bind fun _ => (keeping.driverLog _ _).bind fun _ =>
      .lift (keeping.inside (callQueueTryAdd_allowed keeping.transfers.routine keeping.message))
  have charger : m.StatefulKeeps Inv (onChgtypeChange : Driver Unit) :=
    (keeping.enters _).bind fun _ => (keeping.driverLog _ _).bind fun _ =>
      (keeping.readRegisters _ _).bind fun _ => .bind .get fun _ => keeping.driverLog _ _
  have none : m.StatefulKeeps Inv (RobotFirmware.store .testMax77958InterruptBool true :
      Driver Unit) := .lift (keeping.inside (.act (keeping.store _ _)))
  refine (keeping.readRegisters _ _).bind fun _ =>
    (dispatch keeping.onOpcodeCmdResponse _ _ _ _).bind fun _ =>
    (dispatch (keeping.driverLog _ _) _ _ _ _).bind fun _ =>
    (dispatch message _ _ _ _).bind fun _ =>
    (dispatch charger _ _ _ _).bind fun _ =>
    (dispatch keeping.onCcstatChange _ _ _ _).bind fun _ =>
    (dispatch (marked .onCcvcnstatChange _) _ _ _ _).bind fun _ =>
    (dispatch (marked .onCcistatChange _) _ _ _ _).bind fun _ =>
    (dispatch (marked .onCcpinstatChange _) _ _ _ _).bind fun _ => ?_
  exact .ite (none.bind fun _ => .pure _) (.pure _)

/-- So does `pd_msg_response`. -/
theorem pdMsgResponse : m.StatefulKeeps Inv (pdMsgResponse : Driver Int32) := by
  have log (format : String) := keeping.log format []
  have req : m.Keeps Inv logVdmReq := log _
  have ack : m.Keeps Inv logVdmAck := (log _).bind fun _ => req
  have busy : m.Keeps Inv logVdmBusy := (log _).bind fun _ => ack
  have nak : m.Keeps Inv logVdmNak := (log _).bind fun _ => busy
  have act (pdStatus0 : UInt8) : m.Keeps Inv (actOnPdStatus pdStatus0) :=
    .ite (log _) (.ite ((log _).bind fun _ => keeping.addAndPop _) (.ite (log _)
      (.ite ((log _).bind fun _ => keeping.addAndPop _) (.ite nak (.ite busy (.ite ack
        (.ite req (log _))))))))
  exact (keeping.readRegisters _ _).bind fun _ => .bind .get fun _ =>
    (keeping.driverLog _ _).bind fun _ =>
      Monitor.StatefulKeeps.bind (.lift (act _)) fun _ => .pure _

/-! ### Core 0 -/

/-- `set_interrupt_masks` keeps it. -/
theorem setInterruptMasks : m.StatefulKeeps Inv (setInterruptMasks : Driver Unit) :=
  keeping.driver (setInterruptMasks_within keeping.transfers.inspects)

/-- So does `set_interrupt_masks_all_masked`. -/
theorem setInterruptMasksAllMasked :
    m.StatefulKeeps Inv (setInterruptMasksAllMasked : Driver Unit) :=
  keeping.driver (setInterruptMasksAllMasked_within keeping.transfers.inspects)

/-- So does `read_reg`. -/
theorem readReg (reg : UInt8) : m.StatefulKeeps Inv (readReg reg : Driver Unit) :=
  keeping.driver (readReg_within keeping.transfers.inspects reg)

/-- So does `test_max77958_status_block_read_all`. -/
theorem testStatusBlockReadAll : m.StatefulKeeps Inv (testStatusBlockReadAll : Driver Unit) :=
  keeping.driver (testStatusBlockReadAll_within keeping.transfers.inspects)

/-- So does `test_max77958_get_id`. -/
theorem testGetId : m.StatefulKeeps Inv (testGetId : Driver Unit) :=
  keeping.driver (testGetId_within keeping.transfers.inspects)

/-- What `max77958_init` establishes, when initialising the pin of the interrupt leads from what
held before to what holds after. -/
theorem initDevice {before : m.State → Prop} {early : Op → Prop}
    (first : Keeping m before early)
    (pinned : m.Leads before Inv (perform (.gpioInit gpioInterrupt)))
    (put : kind (.gpioPut gpioInterrupt false)) (setDir : kind (.gpioSetDir gpioInterrupt false))
    (pullUp : kind (.gpioPullUp gpioInterrupt))
    (enabled : kind (.gpioSetIrqEnabled gpioInterrupt gpioIrqEdgeFall true)) :
    m.StatefulLeads before Inv (initDevice : Driver Unit) := by
  have act {op : Op} (inside : kind op) : m.StatefulKeeps Inv (perform op : Driver (Ans op)) :=
    .lift (keeping.inside (.act inside))
  have add {func : EntryFunc} (opcode : func.isOpcode = true) (data : Int32) :
      m.StatefulKeeps Inv (Max77958.opcodeQueueAdd func data : Driver Unit) :=
    .lift (keeping.opcodeQueueAdd opcode data)
  have pop : m.StatefulKeeps Inv (opcodeQueuePop : Driver Bool) := .lift keeping.pop
  refine Monitor.StatefulLeads.bind first.testGetId fun _ =>
    Monitor.StatefulLeads.bind first.setInterruptMasks fun _ =>
    Monitor.StatefulLeads.bind (.lift pinned) fun _ => .of_keeps ?_
  exact (act put).bind fun _ => (act setDir).bind fun _ => (act pullUp).bind fun _ =>
    (act enabled).bind fun _ => (keeping.readRegisters _ _).bind fun _ =>
    (add rfl _).bind fun _ => (add rfl _).bind fun _ => (add rfl _).bind fun _ =>
    pop.bind fun _ => (keeping.driverLog _ _).bind fun _ => keeping.onCcstatChange

/-- What `max77958_init` keeps. -/
theorem init (queue : kind .opcodeQueueInit) (pin : kind (.gpioInit gpioInterrupt))
    (put : kind (.gpioPut gpioInterrupt false)) (setDir : kind (.gpioSetDir gpioInterrupt false))
    (pullUp : kind (.gpioPullUp gpioInterrupt))
    (enabled : kind (.gpioSetIrqEnabled gpioInterrupt gpioIrqEdgeFall true)) :
    m.StatefulKeeps Inv (Max77958.init : Max77958.Driver Unit) := by
  have created : m.StatefulKeeps Inv (perform .opcodeQueueInit : Driver Unit) :=
    .lift (keeping.inside (.act queue))
  have pinned : m.Leads Inv Inv (perform (.gpioInit gpioInterrupt)) := keeping.inside (.act pin)
  exact (keeping.driverLog _ _).bind fun _ => created.bind fun _ =>
    keeping.initDevice keeping pinned put setDir pullUp enabled

/-! ### The tests -/

/-- A test adds its command, pops one and waits. -/
theorem runOpcode {func : EntryFunc} (opcode : func.isOpcode = true) (data : Int32) :
    m.Keeps Inv (runOpcode func data) :=
  (keeping.opcodeQueueAdd opcode _).bind fun _ => keeping.pop.bind fun _ =>
    keeping.inside (.act (keeping.await _))

/-- A test that waits for a reply and logs what it thinks of it. -/
theorem replied {name : String} {func : EntryFunc} {judge : Vector UInt8 33 → Firmware Unit}
    (opcode : func.isOpcode = true) (logs : ∀ reply, (judge reply).Within kind) :
    m.Keeps Inv (testReply name func >>= judge) := by
  have reply : m.Keeps Inv (testReply name func) :=
    (keeping.log _ _).bind fun _ => (keeping.runOpcode opcode _).bind fun _ =>
      keeping.inside (.act keeping.loadReply)
  exact reply.bind fun reply => keeping.inside (logs reply)

/-- The test of the sink objects decodes as many as the reply counts. -/
theorem readSnkPdos (mtpAccess : Bool) (copy : String) :
    m.Keeps Inv (readSnkPdos mtpAccess copy) := by
  have routine := keeping.transfers.routine
  have byte (reply : Vector UInt8 33) {index : Nat} (near : index ≤ 1021) :
      (replyByte reply index).Within kind := by
    unfold replyByte
    split
    · exact trivial
    · exact .act (keeping.stray _ (by omega) near)
  -- The count is a byte, so the last object ends at 5 + 254 * 4.
  have pdos (reply : Vector UInt8 33) : (logPdos copy reply).Within kind := by
    refine Program.Within.forM fun j listed => ?_
    have few : j < (pdoCount reply).toNat := List.mem_range.mp listed
    have bound := (pdoCount reply).toNat_lt
    have decoded : (decodePdo reply j).Within kind :=
      (byte _ (by omega)).bind fun _ => (byte _ (by omega)).bind fun _ =>
        (byte _ (by omega)).bind fun _ => (byte _ (by omega)).bind fun _ => trivial
    exact decoded.bind fun _ => log_allowed routine _ _
  have stored : m.Keeps Inv (RobotFirmware.store .useMtpAccess mtpAccess) :=
    keeping.inside (.act (keeping.store _ _))
  have loaded : m.Keeps Inv (perform .loadOpCodeReturnBuf) :=
    keeping.inside (.act keeping.loadReply)
  refine stored.bind fun _ => (keeping.runOpcode rfl _).bind fun _ => loaded.bind fun reply =>
    keeping.inside ?_
  have rest : Program.Within kind (do
      rp2040Log ("test_max77958_snk_pdo_request " ++ copy ++ " PDO count = %d\n")
        [.byte (pdoCount reply)]
      logPdos copy reply
      return pdoCount reply) :=
    (log_allowed routine _ _).bind fun _ => (pdos _).bind fun _ => trivial
  exact .ite ((log_allowed routine _ _).bind fun _ => rest) rest

/-- Every test that queues a command. -/
theorem opcodeTests : ∀ test ∈ StartUp.opcodeTests, m.Keeps Inv test := by
  have routine := keeping.transfers.routine
  have log (format : String) (args : List LogArg) := log_allowed routine format args
  have note (condition : Bool) (message : String) (args : List LogArg) :=
    logIf_allowed routine condition message args
  have check (value expected : UInt8) (failed passed close : String) :
      (checkRegister value expected failed passed close).Within kind :=
    .ite (log _ _) (log _ _)
  have config (reply : Vector UInt8 33) : (logCustomerConfig reply).Within kind := by
    unfold logCustomerConfig
    iterate 8 refine (log _ _).bind fun _ => ?_
    exact log _ _
  simp only [StartUp.opcodeTests, List.forall_mem_cons]
  refine ⟨?_, ?_, ?_, ?_, ?_, ?_, ?_, ?_, ?_, by simp⟩
  · exact keeping.replied rfl fun _ => (note _ _ _).bind fun _ => check _ _ _ _ _
  · exact keeping.replied rfl fun _ => (note _ _ _).bind fun _ => check _ _ _ _ _
  · exact keeping.replied rfl fun _ => (note _ _ _).bind fun _ => check _ _ _ _ _
  · exact keeping.replied rfl fun _ => (note _ _ _).bind fun _ => check _ _ _ _ _
  · exact keeping.replied rfl fun _ => (note _ _ _).bind fun _ => check _ _ _ _ _
  · exact keeping.replied rfl fun _ => (note _ _ _).bind fun _ => (note _ _ _).bind fun _ =>
      (note _ _ _).bind fun _ => (note _ _ _).bind fun _ => note _ _ _
  · exact keeping.replied rfl fun _ => (note _ _ _).bind fun _ =>
      .ite ((log _ _).bind fun _ => log _ _) (log _ _)
  · exact (keeping.log _ _).bind fun _ => (keeping.readSnkPdos _ _).bind fun _ =>
      (keeping.readSnkPdos _ _).bind fun _ => keeping.log _ _
  · exact keeping.replied rfl fun _ => (note _ _ _).bind fun _ => (note _ _ _).bind fun _ =>
      (note _ _ _).bind fun _ => (log _ _).bind fun _ => (log _ _).bind fun _ =>
      (log _ _).bind fun _ => (config _).bind fun _ => (log _ _).bind fun _ => log _ _

/-- The tests of the MAX77958, when its pin may be driven. -/
theorem tests {patience : Nat} (driven : m.Keeps Inv (driveInterrupt patience)) :
    m.StatefulKeeps Inv (StartUp.max77958Tests patience) := by
  have opcodes (tests : List (Firmware Unit)) (each : ∀ test ∈ tests, m.Keeps Inv test) :
      m.StatefulKeeps Inv (tests.forM fun test => (test : Driver Unit)) := by
    induction tests with
    | nil => exact .pure _
    | cons test tests ih =>
      have later := ih fun other member => each other (List.mem_cons_of_mem _ member)
      exact Monitor.StatefulKeeps.bind (.lift (each test List.mem_cons_self)) fun _ => later
  have drive : m.StatefulKeeps Inv (driveInterrupt patience : Driver Nat) := .lift driven
  have clear : m.StatefulKeeps Inv (RobotFirmware.store .testMax77958InterruptBool false :
      Driver Unit) := .lift (keeping.inside (.act (keeping.store _ _)))
  have interrupt : m.StatefulKeeps Inv (testInterrupt patience) :=
    (keeping.driverLog _ _).bind fun _ => keeping.setInterruptMasksAllMasked.bind fun _ =>
      drive.bind fun _ => keeping.setInterruptMasks.bind fun _ => clear.bind fun _ =>
      keeping.driverLog _ _
  exact keeping.testGetId.bind fun _ => keeping.testStatusBlockReadAll.bind fun _ =>
    (opcodes _ keeping.opcodeTests).bind fun _ => interrupt

end Keeping

end Driver

end Max77958

namespace StartUp

/-! ## After the motors have turned -/

section Robot

variable [Max77958.DriverHeader]

/-- A property that the functions keep which run once everything is set up. -/
structure Standing (m : Monitor StartAns) (Inv : m.State → Prop) (kind : Op → Prop) : Prop where
  controller : Max77958.Keeping (m.along StartOp.platform) Inv kind
  charger : Max77976.Exchanges kind
  drives : ∀ patience, (m.along StartOp.platform).Keeps Inv (Max77958.driveInterrupt patience)
  devices : (m.along StartOp.platform).Keeps Inv deviceTests
  null : m.Keeps Inv (start .loadNull)
  scan : ∀ i2c block, m.Keeps Inv (i2cScan i2c block)

namespace Standing

variable {m : Monitor StartAns} {Inv : m.State → Prop} {kind : Op → Prop}
  (standing : Standing m Inv kind)

include standing

/-- A function of the rest of the firmware. -/
theorem inside {α : Type} {function : Firmware α} (inside : function.Within kind) :
    m.Keeps Inv (platform function) :=
  fun state holds => Monitor.guards_embed.mpr (standing.controller.inside inside state holds)

/-- A message keeps it. -/
theorem log (format : String) (args : List LogArg) :
    m.Keeps Inv (platform (rp2040Log format args)) :=
  standing.inside (log_allowed standing.charger.routine _ _)

/-- `robot_unit_tests`. -/
theorem robotUnitTests (patience : Nat) (buffers : Max77958.Buffers) :
    m.Keeps Inv (robotUnitTests patience buffers) := by
  have controller : m.Keeps Inv (platform ((max77958Tests patience).run buffers)) :=
    fun state holds => Monitor.guards_embed.mpr
      (standing.controller.tests (standing.drives patience) buffers state holds)
  have identity : m.Keeps Inv testMax77976GetId :=
    (standing.log _ _).bind fun _ =>
      (standing.inside (Max77976.mask_allowed standing.charger _)).bind fun _ =>
      standing.null.bind fun byte =>
      standing.inside (Max77976.testGetId_allowed standing.charger byte)
  have devices : m.Keeps Inv (platform deviceTests) :=
    fun state holds => Monitor.guards_embed.mpr (standing.devices state holds)
  exact (standing.log _ _).bind fun _ => controller.bind fun _ => identity.bind fun _ =>
    devices.bind fun _ => (standing.log _ _).bind fun _ _ holds => holds

/-- `on_start` after the self tests. -/
theorem lookAround (blocks : I2c → Vector UInt8 maxDevices) (buffers : Max77958.Buffers) :
    m.Keeps Inv (lookAround blocks buffers) := by
  have registers : m.Keeps Inv (platform ((do
      Max77958.readReg 0x9
      Max77958.readReg 0xA
      Max77958.readReg 0xD : Max77958.Driver Unit).run buffers)) :=
    fun state holds => Monitor.guards_embed.mpr
      (((standing.controller.readReg _).bind fun _ => (standing.controller.readReg _).bind fun _ =>
        standing.controller.readReg _) buffers state holds)
  exact (standing.scan _ _).bind fun _ => (standing.scan _ _).bind fun _ =>
    registers.bind fun _ => (standing.log _ _).bind fun _ _ holds => holds

end Standing

/-! ## From the moment that the board is switched on -/

/-- A property that every part of the firmware keeps on core 0. -/
structure Powering (m : Monitor StartAns) (Inv : m.State → Prop) (kind : StartOp → Prop) : Prop
    extends Standing m Inv (fun op => kind (.platform op)) where
  keeps : ∀ state op, kind op → Inv state →
    m.allows state op ∧ ∀ answer, Inv (m.next state op answer)
  serving : Serving fun op => kind (.platform op)
  setsUp : ∀ op : StartOp, op.SetsUp → kind op
  strayed : kind (.platform (.strayStore 3))
  setting : ∀ reg value,
    kind (.platform (.i2cWriteTimeoutUs .i2c1 Max77976.addr [reg, value] false))
  shifter : kind (.platform (.gpioInit Sn74ahc125rgyr.gpio1))
  init : (m.along StartOp.platform).StatefulKeeps Inv (Max77958.init : Max77958.Driver Unit)
  finish : Bq27742G1.initEnd.Within fun op => kind (.platform op)

namespace Powering

variable {m : Monitor StartAns} {Inv : m.State → Prop} {kind : StartOp → Prop}
  (powering : Powering m Inv kind)

include powering

/-- A program of such operations keeps it. -/
theorem within {α : Type} {program : Starting α} (inside : program.Within kind) :
    m.Keeps Inv program := .of_kind powering.keeps inside

/-- So does a delay. -/
theorem pause (ms : Nat) : m.Keeps Inv (StartUp.platform (perform (.sleepMs ms))) :=
  powering.inside (.act (powering.charger.routine _ trivial))

/-- `on_start` from `max77958_init` to the encoders. -/
theorem startRobot (buffers : Max77958.Buffers) : m.Keeps Inv (startRobot buffers) := by
  have controller : m.Keeps Inv (StartUp.platform ((Max77958.init :
      Max77958.Driver Unit).run buffers)) :=
    fun state holds => Monitor.guards_embed.mpr (powering.init buffers state holds)
  have gauge := bq27742G1Init_allowed powering.setsUp powering.serving.gauge powering.finish
  have version := Bq27742G1.fwVersionCheck_allowed powering.serving.gauge
  have shifter (gpio : Nat) : (Sn74ahc125rgyr.onEndOfStart gpio).Within
      fun op => kind (.platform op) := .act (powering.setsUp _ Bool.noConfusion)
  have motors := drv8830Init_allowed (fun op => powering.setsUp (.platform op))
    powering.serving.control
  exact controller.bind fun _ => (powering.pause _).bind fun _ => (powering.log _ _).bind fun _ =>
    (powering.within gauge).bind fun _ => (powering.inside version).bind fun _ =>
    (powering.inside (shifter _)).bind fun _ => (powering.inside (shifter _)).bind fun _ =>
    (powering.inside motors).bind fun _ => (powering.pause _).bind fun _ =>
    (powering.within (encoderInit_setsUp.mono powering.setsUp)).bind fun _ =>
    (powering.log _ _).bind fun _ =>
    (powering.pause _).bind fun _ => (powering.log _ _).bind fun _ _ holds => holds

/-- `main` keeps it. -/
theorem main (patience : Nat) (blocks : I2c → Vector UInt8 maxDevices)
    (rp2040State : Rp2040State) (rounds : Nat) :
    m.Keeps Inv (main patience blocks rp2040State rounds) := by
  have platform := startPlatform_setsUp.mono powering.setsUp
  have chargers := startChargers_allowed powering.setsUp powering.charger powering.strayed
    powering.setting powering.shifter
  have turned := turnMotors_allowed powering.charger.routine powering.serving.control
    powering.serving.count Statics.initial.encoders
  have start : m.Keeps Inv (onStart patience blocks rp2040State .initial) :=
    (powering.within platform).bind fun _ => (powering.within chargers).bind fun _ =>
      (powering.startRobot _).bind fun _ =>
      (powering.inside turned).bind fun _ => (powering.robotUnitTests _ _).bind fun _ =>
      (powering.lookAround _ _).bind fun _ _ holds => holds
  refine start.bind fun statics => (powering.pause _).bind fun _ => powering.inside ?_
  exact (powering.serving.serve_allowed rounds statics.serial).bind fun _ => trivial

end Powering

end Robot

end StartUp

end RobotFirmware
