import RobotFirmware.Serial.Reception
import RobotFirmware.StartUp.Scan

/-!
# Footprints at start-up

Which operations the functions behind `on_start` perform, each for any kind of operation that has
what the function needs. Every property of the start-up instantiates the kind.
-/

namespace RobotFirmware

open Interaction

section Logging

variable {kind : Op → Prop} (routine : ∀ op, Op.Routine op → kind op)

include routine

/-- A message that depends on a condition. -/
theorem logIf_allowed (condition : Bool) (message : String) (args : List LogArg) :
    (Max77958.logIf condition message args).Within kind :=
  .ite (log_allowed routine _ _) trivial

/-- A check that raises an error when it fails. -/
theorem assert_allowed {condition : Prop} [Decidable condition] {message : String}
    {args : List LogArg} {α : Type} {rest : Firmware α} (inside : rest.Within kind) :
    Program.Within kind (do
      if condition then
        rp2040Log message args
        assertFalse
      rest) :=
  .ite ⟨routine _ trivial, fun _ => ⟨routine _ trivial, fun impossible => nomatch impossible⟩⟩
    inside

end Logging

/-! ## The fuel gauge -/

namespace Bq27742G1

variable {kind : Op → Prop} (exchanges : Exchanges kind)

include exchanges

/-- `bq27742_g1_clear_shutdown` sends one subcommand. -/
theorem clearShutdown_allowed : clearShutdown.Within kind :=
  (control_allowed exchanges _).bind fun _ => log_allowed exchanges.routine _ _

/-- So does `bq27742_g1_fw_version_check`. -/
theorem fwVersionCheck_allowed : fwVersionCheck.Within kind :=
  (control_allowed exchanges _).bind fun _ => log_allowed exchanges.routine _ _

/-- A block of the data flash is selected by three writes. -/
theorem selectBlock_allowed (subclass block : UInt8) : (selectBlock subclass block).Within kind :=
  (write_allowed exchanges _ _).bind fun _ => (write_allowed exchanges _ _).bind fun _ =>
    (write_allowed exchanges _ _).bind fun _ => ⟨exchanges.routine _ trivial, fun _ => trivial⟩

/-- It is read with its checksum. -/
theorem readDataFlashBlock_allowed (subclass block : UInt8) :
    (readDataFlashBlock subclass block).Within kind :=
  (selectBlock_allowed exchanges _ _).bind fun _ => (readBytes_allowed exchanges _ _).bind fun _ =>
    (readBytes_allowed exchanges _ _).bind fun _ =>
      .ite ⟨exchanges.routine _ trivial, fun _ => trivial⟩ trivial

/-- It is written with its checksum. -/
theorem writeDataFlashBlock_allowed (subclass block : UInt8) (blockData : Block) :
    (writeDataFlashBlock subclass block blockData).Within kind :=
  (selectBlock_allowed exchanges _ _).bind fun _ => (write_allowed exchanges _ _).bind fun _ =>
    write_allowed exchanges _ _

/-- It is read again after it has been written. -/
theorem verifyBlock_allowed (high low : Fin dfBlockLen) (oldPackConfig packConfig : UInt16)
    (oldPackConfigC packConfigC : UInt8) :
    (verifyBlock high low oldPackConfig packConfig oldPackConfigC packConfigC).Within kind :=
  (readDataFlashBlock_allowed exchanges _ _).bind fun _ =>
    .ite (log_allowed exchanges.routine _ _)
      (.ite (log_allowed exchanges.routine _ _) (log_allowed exchanges.routine _ _))

/-- It is written only when its contents are to change. -/
theorem updateBlock_allowed (packConfig : UInt16) (blockData : Block) :
    (updateBlock packConfig blockData).Within kind := by
  have indices : (packConfigIndices packConfig blockData).Within kind :=
    .ite trivial (.ite ⟨exchanges.routine _ trivial, fun _ => trivial⟩ trivial)
  exact indices.bind fun _ => .ite (log_allowed exchanges.routine _ _)
    ((writeDataFlashBlock_allowed exchanges _ _ _).bind fun _ =>
      ⟨exchanges.routine _ trivial, fun _ => verifyBlock_allowed exchanges _ _ _ _ _ _⟩)

/-- `bq27742_g1_configure_host_interrupts` exchanges with the gauge and logs. -/
theorem configureHostInterrupts_allowed : configureHostInterrupts.Within kind := by
  have before : getPackConfiguration.Within kind :=
    (readBytes_allowed exchanges _ _).bind fun _ => trivial
  exact before.bind fun _ => ⟨exchanges.routine _ trivial, fun _ =>
    (readDataFlashBlock_allowed exchanges _ _).bind fun _ =>
      .ite (log_allowed exchanges.routine _ _) (updateBlock_allowed exchanges _ _)⟩

omit exchanges in
/-- The end of `bq27742_g1_init` arms the pin, and queues the handler when it is already low. -/
theorem initEnd_allowed (routine : ∀ op, op.Routine → kind op)
    (looked : kind (.gpioGet gpioInterrupt))
    (enabled : ∀ events enabled, kind (.gpioSetIrqEnabled gpioInterrupt events enabled))
    (loaded : kind (.load .bq27742G1InterruptPending))
    (stored : ∀ value, kind (.store .bq27742G1InterruptPending value))
    (queued : kind (.callQueueTryAdd ⟨.bq27742G1ParseInterruptVals, 0⟩)) :
    initEnd.Within kind := by
  have queue := queueParseInterrupt_allowed looked enabled stored loaded queued
  have log := log_allowed routine "bq27742_g1 init finished\n" []
  exact ⟨enabled _ _, fun _ => ⟨looked, fun _ => .ite
    ⟨routine _ trivial, fun _ => queue.bind fun _ => log⟩ log⟩⟩

end Bq27742G1

/-! ## The charger -/

namespace Max77976

variable {kind : Op → Prop} (exchanges : Exchanges kind)

include exchanges

/-- The interrupt masks are written. -/
theorem mask_allowed (value : UInt8) :
    (i2cWriteErrorHandling .i2c1 addr [regChgIntMask, value, 0, 0] false).Within kind :=
  i2cWriteErrorHandling_within (exchanges.mask _) exchanges.routine

/-- `max77976_init` after its pin has been set up. -/
theorem configure_allowed (strayed : kind (.strayStore 3))
    (write : ∀ reg value, kind (.i2cWriteTimeoutUs .i2c1 addr [reg, value] false)) :
    Program.Within kind (do
      setInterruptMasks
      let _ ← getInterruptVals
      writeReg regChgCnfg06 chgprotUnlock
      configuration.forM fun (reg, value) => writeReg reg value
      writeReg regChgCnfg06 chgprotLock
      return (0 : Int32)) := by
  have written (reg value : UInt8) : (writeReg reg value).Within kind :=
    i2cWriteErrorHandling_within (write reg value) exchanges.routine
  exact (mask_allowed exchanges _).bind fun _ => (getInterruptVals_allowed exchanges strayed).bind
    fun _ => (written _ _).bind fun _ => (Program.Within.forM fun _ _ => written _ _).bind
      fun _ => (written _ _).bind fun _ => trivial

/-- The test of the switching frequency reads a register and sets the masks. -/
theorem testGetFsw_allowed : testGetFsw.Within kind :=
  ⟨exchanges.routine _ trivial, fun _ => (mask_allowed exchanges _).bind fun _ =>
    (i2cWriteErrorHandling_within (exchanges.select _ _) exchanges.routine).bind fun _ =>
      (i2cReadErrorHandling_within (exchanges.read _ _) exchanges.routine).bind fun _ =>
        assert_allowed exchanges.routine ((mask_allowed exchanges _).bind fun _ =>
          log_allowed exchanges.routine _ _)⟩

/-- The rest of `test_max77976_get_id` when the byte behind the null pointer is known. -/
theorem testGetId_allowed (byte : UInt8) : Program.Within kind (do
    i2cWriteErrorHandling .i2c1 addr [byte] true
    let rxdata := (← i2cReadErrorHandling .i2c1 addr 1 false).get ⟨0, Nat.zero_lt_one⟩
    if rxdata ≠ 0x76 then
      rp2040Log "MAX77976 not responding. Exiting.\n" []
      assertFalse
    setInterruptMasks
    rp2040Log "test_max77976_get_id PASSED. Read CHIP_ID %x.\n" [.byte rxdata]) :=
  (i2cWriteErrorHandling_within (exchanges.select _ _) exchanges.routine).bind fun _ =>
    (i2cReadErrorHandling_within (exchanges.read _ _) exchanges.routine).bind fun _ =>
      assert_allowed exchanges.routine ((mask_allowed exchanges _).bind fun _ =>
        log_allowed exchanges.routine _ _)

end Max77976

/-! ## The motor drivers -/

namespace Drv8830

variable {kind : Op → Prop} (exchanges : Exchanges kind)

include exchanges

/-- The test of the fault registers clears them. -/
theorem testGetFaults_allowed : testGetFaults.Within kind :=
  ⟨exchanges.routine _ trivial, fun _ => (clearFaults_allowed exchanges).bind fun _ =>
    log_allowed exchanges.routine _ _⟩

end Drv8830

/-! ## The requests of the phone -/

/-- A kind with what the loop in `main` performs. -/
structure Serving (kind : Op → Prop) : Prop extends Reporting kind where
  control : ∀ (motor : Drv8830.Motor) value nostop,
    kind (.i2cWriteBlocking .i2c0 motor.address [Drv8830.regControl, value] nostop)
  receive : ∀ us, kind (.getcharTimeoutUs us)
  send : ∀ c, kind (.putchar c)
  acquire : kind .rp2040LogAcquireLock
  release : kind .rp2040LogReleaseLock
  size : kind .rp2040GetByteCount
  flush : kind .rp2040LogFlush
  enter : ∀ call, kind (.enter call)

namespace Serving

variable {kind : Op → Prop} (serving : Serving kind)

include serving

/-- A packet is sent byte by byte. -/
theorem putBytes_allowed (bytes : List UInt8) : (putBytes bytes).Within kind := by
  induction bytes with
  | nil => exact trivial
  | cons c bytes ih => exact ⟨serving.send c, fun _ => ih⟩

/-- A packet that is not accepted is answered by a NACK. -/
theorem reset_allowed : StatefulWithin kind resetPacketAndSendNack :=
  .bind (.lift (.act (serving.enter _))) fun _ => .bind (.modify _) fun _ => .bind .get fun _ =>
    .lift (serving.putBytes_allowed _)

/-- The state is collected and sent. -/
theorem sendState_allowed : StatefulWithin kind sendState :=
  .bind .get fun _ => .bind (.lift (serving.toReporting.getState_allowed _)) fun _ =>
    .bind (.modify _) fun _ => .bind .get fun _ => .lift (serving.putBytes_allowed _)

/-- A handler performs what its packet asks for. -/
theorem handlePacket_allowed (packet : IncomingPacketFromAndroid) :
    StatefulWithin kind (handlePacket packet) := by
  have act {op : Op} (inside : kind op) : StatefulWithin kind (perform op : Serial (Ans op)) :=
    .lift (.act inside)
  have send (c : UInt8) := act (serving.send c)
  have log : StatefulWithin kind (handleGetLog packet) :=
    .bind (.modify _) fun _ => .bind .get fun _ => .bind (send _) fun _ => .bind (send _) fun _ =>
      .bind (act serving.acquire) fun _ => .bind (act serving.size) fun _ =>
      .bind (.modify _) fun _ => .bind (send _) fun _ => .bind (send _) fun _ =>
      .bind (act serving.flush) fun _ => .bind (act serving.release) fun _ => send _
  have levels (state : Rp2040State) : (setMotorLevels state).Within kind :=
    ⟨serving.control .left _ _, fun _ => ⟨serving.control .right _ _, fun _ => trivial⟩⟩
  have motors : StatefulWithin kind (handleSetMotorLevel packet) :=
    .bind (.modify _) fun _ => .bind .get fun _ => .bind (.lift (levels _)) fun _ =>
      serving.sendState_allowed
  have state : StatefulWithin kind (handleGetState packet) :=
    .bind (.modify _) fun _ => serving.sendState_allowed
  exact .bind (act (serving.enter _)) fun _ =>
    .ite log (.ite motors (.ite state (.ite (.pure _) (.modify _))))

/-- The last byte decides between the handler and a NACK. -/
theorem finishBlock_allowed : StatefulWithin kind finishBlock := by
  have log (format : String) : StatefulWithin kind (rp2040Log format [] : Serial Unit) :=
    .lift (log_allowed serving.gauge.routine _ _)
  refine .bind (.lift (.act (serving.receive _))) fun _ => .ite (.bind .get fun _ => .ite ?_ ?_) ?_
  · exact .bind (serving.handlePacket_allowed _) fun _ => .modify _
  · exact .bind (log _) fun _ => serving.reset_allowed
  · exact .bind (log _) fun _ => serving.reset_allowed

/-- The loop ends before it would store a fourth byte. -/
theorem readLoop_allowed (fuel : Nat) {count : Nat} (few : count ≤ 3) :
    StatefulWithin kind (readLoop fuel (UInt16.ofNat count) (UInt8.ofNat count)) := by
  intro state
  induction fuel generalizing count state with
  | zero => exact trivial
  | succ fuel ih =>
    by_cases full : count = 3
    · subst full
      rw [Reception.readLoop_full]
      exact trivial
    · have room : count < 3 := by omega
      obtain ⟨incoming, _, same⟩ := Reception.readLoop_run room fuel state
      rw [same]
      refine ⟨serving.receive _, fun (received : Option UInt8) => ?_⟩
      cases received with
      | some c => exact ih (by omega) _
      | none =>
        exact ⟨serving.gauge.routine _ trivial, fun _ =>
          (serving.reset_allowed state).bind fun _ => trivial⟩

/-- `get_block` performs what the loop does. -/
theorem getBlock_allowed : StatefulWithin kind getBlock := by
  refine .bind (.lift (.act (serving.enter _))) fun _ =>
    .bind (.lift (.act (serving.receive _))) fun _ => .ite ?_ (.pure _)
  refine .bind (.modify _) fun _ =>
    .bind (serving.readLoop_allowed readFuel (Nat.zero_le 3)) fun loop => ?_
  cases loop with
  | left => exact serving.finishBlock_allowed
  | returned => exact .pure _
  | exhausted => exact .pure _

/-- The loop in `main`. -/
theorem serve_allowed (rounds : Nat) (state : SerialState) :
    (serve rounds state).Within kind := by
  have round (state : SerialState) : (mainRound state).Within kind :=
    (serving.getBlock_allowed state).bind fun _ =>
      ⟨serving.gauge.routine _ trivial, fun _ => trivial⟩
  exact .iterate round rounds state

end Serving

/-! ## The interrupt tests -/

/-- The pins that interrupt. -/
def interruptPins : List Nat :=
  [Ncp3901.gpioWirelessCharger, Max77976.gpioInterrupt, Max77958.gpioInterrupt,
    Bq27742G1.gpioInterrupt, Drv8830.gpioFault1, Drv8830.gpioFault2]

/-- A kind with what the interrupt tests do while the direction of their pin stays. -/
structure Waiting (kind : Op → Prop) : Prop where
  routine : ∀ op, op.Routine → kind op
  get : ∀ gpio ∈ interruptPins, kind (.gpioGet gpio)
  pullUp : ∀ gpio ∈ interruptPins, kind (.gpioPullUp gpio)
  load : ∀ flag, kind (.load flag)
  store : ∀ flag value, kind (.store flag value)
  await : ∀ flag, kind (.await flag)

namespace Waiting

variable {kind : Op → Prop} (waiting : Waiting kind)

include waiting

/-- The end of `movePin`. -/
theorem checkPin_allowed {gpio : Nat} (listed : gpio ∈ interruptPins) (level : Bool)
    (failed after : String) : Program.Within kind (do
      if (← gpioGet gpio) ≠ level then
        rp2040Log failed [.int gpio, .level (← gpioGet gpio)]
        assertFalse
      rp2040Log after [.int gpio, .level (← gpioGet gpio)]) :=
  ⟨waiting.get _ listed, fun _ => .ite
    ⟨waiting.get _ listed, fun _ => ⟨waiting.routine _ trivial, fun _ =>
      ⟨waiting.routine _ trivial, fun impossible => nomatch impossible⟩⟩⟩
    ⟨waiting.get _ listed, fun _ => ⟨waiting.routine _ trivial, fun _ => trivial⟩⟩⟩

/-- A test polls its flag between delays. -/
theorem waitForTest_allowed (flag : Flag) (timedOut : String) (left : Nat) :
    (waitForTest flag timedOut left).Within kind := by
  induction left with
  | zero =>
    exact ⟨waiting.load _, fun _ => .ite trivial ⟨waiting.routine _ trivial, fun _ =>
      ⟨waiting.routine _ trivial, fun _ => ⟨waiting.routine _ trivial, fun impossible =>
        nomatch impossible⟩⟩⟩⟩
  | succ left ih =>
    exact ⟨waiting.load _, fun _ => .ite trivial ⟨waiting.routine _ trivial, fun _ => ih⟩⟩

/-- So does the test of the MAX77958. -/
theorem waitPatiently_allowed (flag : Flag) (timedOut : String) (patience i : Nat) :
    (Max77958.waitPatiently flag timedOut patience i).Within kind := by
  induction patience generalizing i with
  | zero => exact ⟨waiting.await _, fun _ => trivial⟩
  | succ patience ih =>
    exact ⟨waiting.load _, fun _ => .ite trivial ⟨waiting.routine _ trivial, fun _ =>
      (logIf_allowed waiting.routine _ _ _).bind fun _ => ih _⟩⟩

end Waiting

/-- Every pin that interrupts can be taken and given back, one at a time. -/
structure Borrowing (m : Monitor Ans) (lent : Option Nat → m.State → Prop) (kind : Op → Prop) :
    Prop extends Waiting kind where
  keeps : ∀ taken state op, kind op → lent taken state →
    m.allows state op ∧ ∀ answer, lent taken (m.next state op answer)
  take : ∀ gpio ∈ interruptPins, m.Leads (lent none) (lent (some gpio))
    (perform (.gpioSetDir gpio true))
  give : ∀ gpio ∈ interruptPins, m.Leads (lent (some gpio)) (lent none)
    (perform (.gpioSetDir gpio false))

namespace Borrowing

variable {m : Monitor Ans} {lent : Option Nat → m.State → Prop} {kind : Op → Prop}
  (borrowing : Borrowing m lent kind) {before after taken : Option Nat}

include borrowing

/-- What leaves the directions alone. -/
theorem within {α : Type} {program : Firmware α} (inside : program.Within kind) :
    m.Leads (lent taken) (lent taken) program := .of_keeps (.of_kind (borrowing.keeps taken) inside)

/-- Looking at a pin leaves it where it is. -/
theorem looks {gpio : Nat} (listed : gpio ∈ interruptPins) :
    m.Leads (lent taken) (lent taken) (gpioGet gpio) :=
  borrowing.within (.act (borrowing.get gpio listed))

/-- So does pulling it up. -/
theorem pulls {gpio : Nat} (listed : gpio ∈ interruptPins) :
    m.Leads (lent taken) (lent taken) (perform (.gpioPullUp gpio)) :=
  borrowing.within (.act (borrowing.pullUp gpio listed))

/-- So does setting a flag. -/
theorem stores (flag : Flag) (value : Bool) :
    m.Leads (lent taken) (lent taken) (RobotFirmware.store flag value) :=
  borrowing.within (.act (borrowing.store flag value))

/-- So does a message. -/
theorem logs (format : String) (args : List LogArg) :
    m.Leads (lent taken) (lent taken) (rp2040Log format args) :=
  borrowing.within (log_allowed borrowing.routine _ _)

/-- So does waiting for a response. -/
theorem waits (flag : Flag) (timedOut : String) (left : Nat) :
    m.Leads (lent taken) (lent taken) (waitForTest flag timedOut left) :=
  borrowing.within (borrowing.waitForTest_allowed flag timedOut left)

/-- A pin is looked at before it is moved, and checked afterwards. -/
theorem moves {gpio : Nat} (listed : gpio ∈ interruptPins) {move : Firmware Unit}
    (moved : m.Leads (lent before) (lent after) move) (level : Bool)
    (prior failed later : String) :
    m.Leads (lent before) (lent after) (movePin gpio move level prior failed later) :=
  (borrowing.looks listed).bind fun _ => (borrowing.logs _ _).bind fun _ => moved.bind fun _ =>
    borrowing.within (borrowing.checkPin_allowed listed level failed later)

/-- However long the test of the MAX77958 waits, it gives its pin back. -/
theorem driveInterrupt (patience : Nat) :
    m.Leads (lent none) (lent none) (Max77958.driveInterrupt patience) := by
  have listed : Max77958.gpioInterrupt ∈ interruptPins := by decide
  have last : m.Leads (lent (some Max77958.gpioInterrupt)) (lent none) (do
      rp2040Log "test_max77958_interrupt: after driving low GPIO%d. Current Value:%d\n"
        [.int Max77958.gpioInterrupt, .level (← gpioGet Max77958.gpioInterrupt)]
      let i ← Max77958.waitPatiently .testMax77958Completed
        "ERROR: test_max77958_interrupt timed out\n" patience 0
      perform (.gpioSetDir Max77958.gpioInterrupt false)
      perform (.gpioPullUp Max77958.gpioInterrupt)
      RobotFirmware.store .testMax77958Started false
      RobotFirmware.store .testMax77958Completed false
      return i) :=
    (borrowing.looks listed).bind fun _ => (borrowing.logs _ _).bind fun _ =>
      (borrowing.within (borrowing.waitPatiently_allowed _ _ _ _)).bind fun _ =>
      (borrowing.give _ listed).bind fun _ => (borrowing.pulls listed).bind fun _ =>
      (borrowing.stores _ _).bind fun _ => (borrowing.stores _ _).bind fun _ =>
      borrowing.within trivial
  exact (borrowing.stores _ _).bind fun _ => (borrowing.looks listed).bind fun _ =>
    (borrowing.logs _ _).bind fun _ => (borrowing.take _ listed).bind fun _ =>
    (borrowing.looks listed).bind fun _ => .ite
      ((borrowing.looks listed).bind fun _ => (borrowing.logs _ _).bind fun _ => last) last

/-- The test of the charger gives its pin back. -/
theorem max77976 (exchanges : Max77976.Exchanges kind) :
    m.Leads (lent none) (lent none) Max77976.testInterrupt := by
  have listed : Max77976.gpioInterrupt ∈ interruptPins := by decide
  have masks (value : UInt8) {taken : Option Nat} : m.Leads (lent taken) (lent taken)
      (i2cWriteErrorHandling .i2c1 Max77976.addr [Max77976.regChgIntMask, value, 0, 0] false) :=
    borrowing.within (Max77976.mask_allowed exchanges value)
  exact (borrowing.logs _ _).bind fun _ => (masks _).bind fun _ =>
    (borrowing.stores _ _).bind fun _ =>
    (borrowing.moves listed (borrowing.take _ listed) _ _ _ _).bind fun _ =>
    (borrowing.waits _ _ _).bind fun _ => (borrowing.give _ listed).bind fun _ =>
    (borrowing.pulls listed).bind fun _ => (borrowing.stores _ _).bind fun _ =>
    (borrowing.stores _ _).bind fun _ => (masks _).bind fun _ => borrowing.logs _ _

/-- The pin of the wireless charger stays low between the two halves of its test. -/
theorem ncp3901 : m.Leads (lent none) (lent none) Ncp3901.testInterrupt := by
  have listed : Ncp3901.gpioWirelessCharger ∈ interruptPins := by decide
  have up : m.Leads (lent (some Ncp3901.gpioWirelessCharger)) (lent none) (do
      perform (.gpioSetDir Ncp3901.gpioWirelessCharger false)
      perform (.gpioPullUp Ncp3901.gpioWirelessCharger)) :=
    (borrowing.give _ listed).bind fun _ => borrowing.pulls listed
  exact (borrowing.logs _ _).bind fun _ => (borrowing.stores _ _).bind fun _ =>
    (borrowing.moves listed (borrowing.take _ listed) _ _ _ _).bind fun _ =>
    (borrowing.waits _ _ _).bind fun _ => (borrowing.stores _ _).bind fun _ =>
    (borrowing.stores _ _).bind fun _ => (borrowing.logs _ _).bind fun _ =>
    (borrowing.logs _ _).bind fun _ => (borrowing.stores _ _).bind fun _ =>
    (borrowing.moves listed up _ _ _ _).bind fun _ =>
    (borrowing.waits _ _ _).bind fun _ => borrowing.logs _ _

/-- The second fault pin is taken after the first has been given back. -/
theorem drv8830 : m.Leads (lent none) (lent none) Drv8830.testInterrupt := by
  have first : Drv8830.gpioFault1 ∈ interruptPins := by decide
  have second : Drv8830.gpioFault2 ∈ interruptPins := by decide
  exact (borrowing.logs _ _).bind fun _ => (borrowing.stores _ _).bind fun _ =>
    (borrowing.moves first (borrowing.take _ first) _ _ _ _).bind fun _ =>
    (borrowing.waits _ _ _).bind fun _ => (borrowing.give _ first).bind fun _ =>
    (borrowing.pulls first).bind fun _ => (borrowing.stores _ _).bind fun _ =>
    (borrowing.stores _ _).bind fun _ => (borrowing.logs _ _).bind fun _ =>
    (borrowing.stores _ _).bind fun _ => (borrowing.take _ second).bind fun _ =>
    (borrowing.waits _ _ _).bind fun _ => (borrowing.give _ second).bind fun _ =>
    (borrowing.pulls second).bind fun _ => (borrowing.stores _ _).bind fun _ => borrowing.logs _ _

/-- The tests of the devices other than the MAX77958, each of which gives its pin back. -/
theorem deviceTests (charger : Max77976.Exchanges kind) (motors : Drv8830.Exchanges kind) :
    m.Leads (lent none) (lent none) StartUp.deviceTests :=
  (borrowing.within (Max77976.testGetFsw_allowed charger)).bind fun _ =>
    (borrowing.max77976 charger).bind fun _ => borrowing.ncp3901.bind fun _ =>
    (borrowing.within (Drv8830.testGetFaults_allowed motors)).bind fun _ => borrowing.drv8830

end Borrowing

/-- A kind with what the interrupt tests do. -/
structure Testing (kind : Op → Prop) : Prop extends Waiting kind where
  setDir : ∀ gpio ∈ interruptPins, ∀ out, kind (.gpioSetDir gpio out)

namespace Testing

variable {kind : Op → Prop} (testing : Testing kind)

include testing

/-- No matter which pins are taken. -/
theorem borrowing : Borrowing ⟨Unit, fun _ => kind, fun _ _ _ => ()⟩ (fun _ _ => True) kind where
  toWaiting := testing.toWaiting
  keeps _ _ _ inside _ := ⟨inside, fun _ => trivial⟩
  take _ listed := .act (fun _ _ => testing.setDir _ listed _) fun _ _ _ => trivial
  give _ listed := .act (fun _ _ => testing.setDir _ listed _) fun _ _ _ => trivial

/-- The test of the MAX77958 drives its pin. -/
theorem driveInterrupt_allowed (patience : Nat) :
    (Max77958.driveInterrupt patience).Within kind :=
  Program.within_of_guards (testing.borrowing.driveInterrupt patience () trivial)
    fun _ _ inside => inside

/-- The other tests drive theirs. -/
theorem deviceTests_allowed (charger : Max77976.Exchanges kind) (motors : Drv8830.Exchanges kind) :
    StartUp.deviceTests.Within kind :=
  Program.within_of_guards (testing.borrowing.deviceTests charger motors () trivial)
    fun _ _ inside => inside

end Testing

/-! ## Interrupts and core 1 -/

/-- A kind with what the interrupt handler performs. -/
structure Handling (kind : Op → Prop) : Prop where
  routine : ∀ op, op.Routine → kind op
  acknowledge : ∀ gpio mask, kind (.gpioAcknowledgeIrq gpio mask)
  add : ∀ entry, kind (.callQueueTryAdd entry)
  load : ∀ flag, kind (.load flag)
  store : ∀ flag value, kind (.store flag value)
  get : kind (.gpioGet Bq27742G1.gpioInterrupt)
  enable : ∀ events enabled, kind (.gpioSetIrqEnabled Bq27742G1.gpioInterrupt events enabled)

/-- Whatever pin interrupts, the handler performs only such operations. -/
theorem handler_allowed {kind : Op → Prop} (handling : Handling kind) (gpio : Nat)
    (eventMask : UInt32) : (robotInterruptHandler gpio eventMask).Within kind := by
  have announce {mask : UInt32} {func : EntryFunc} : Program.Within kind (do
      gpioAcknowledgeIrq gpio mask
      callQueueTryAdd func 0
      if ← load .testNcp3901Started then callQueueTryAdd .ncp3901TestResponse 1) :=
    queueFunctions_allowed handling.routine (handling.acknowledge _ _) (handling.add _)
      (handling.load _) (handling.add _)
  exact robotInterruptHandler_allowed handling.routine (handling.acknowledge _)
    (fun _ _ _ => handling.add _) (fun _ _ => handling.load _)
    (fun _ => .ite announce (.ite announce trivial))
    (fun _ => Bq27742G1.onInterrupt_allowed handling.get handling.enable (handling.store _)
      (handling.acknowledge _) (handling.load _) (handling.add _))

/-! ## Parts of the start -/

namespace StartUp

/-- Setting up pins and peripherals, where no pin that interrupts is driven. The first level shifter
is not among the pins, since what precedes it is told apart by it. -/
def StartOp.SetsUp : StartOp → Prop
  | .platform (.rp2040Log ..) => True
  | .platform (.sleepMs _) => True
  | .platform (.gpioInit gpio) => gpio ≠ Sn74ahc125rgyr.gpio1
  | .platform (.gpioPut gpio value) => value = true → gpio ∉ interruptPins
  | .platform (.gpioSetDir gpio out) => out = true → gpio ∉ interruptPins
  | .platform (.gpioPullUp _) => True
  | .platform (.gpioSetIrqEnabled ..) => True
  | .platform _ => False
  | .i2cReadBlocking .. => False
  | .loadNull => False
  | _ => True

/-- Setting up another pin than that of the first level shifter. -/
theorem StartOp.SetsUp.gpioInit {gpio : Nat} (apart : gpio ≠ Sn74ahc125rgyr.gpio1) :
    StartOp.SetsUp (.platform (.gpioInit gpio)) := apart

/-- `on_start` up to the launch of core 1 sets up. -/
theorem startPlatform_setsUp : startPlatform.Within StartOp.SetsUp := by
  repeat refine ⟨trivial, fun _ => ?_⟩
  exact trivial

/-- `i2c_start` sets up. -/
theorem i2cStart_setsUp : i2cStart.Within StartOp.SetsUp := by
  repeat refine ⟨trivial, fun _ => ?_⟩
  exact trivial

/-- `turn_on_leds` sets up. -/
theorem turnOnLeds_setsUp : turnOnLeds.Within StartOp.SetsUp := by
  repeat refine ⟨trivial, fun _ => ?_⟩
  exact trivial

/-- `STWLC38JRM_init` drives a pin that does not interrupt. -/
theorem stwlc38jrmInit_setsUp :
    (stwlc38jrmInit wirelessChgEn wirelessChgVrect).Within StartOp.SetsUp := by
  have apart : wirelessChgEn ∉ interruptPins := by decide
  exact ⟨.gpioInit (by decide), fun _ => ⟨fun _ => apart, fun _ => ⟨fun _ => apart, fun _ =>
    ⟨trivial, fun _ => ⟨fun _ => apart, fun _ => ⟨trivial, fun _ => trivial⟩⟩⟩⟩⟩⟩

/-- So does `ncp3901_init`, which sets up the charger's pin as well. -/
theorem ncp3901Init_setsUp : ncp3901Init.Within StartOp.SetsUp := by
  have apart : gpioOtg ∉ interruptPins := by decide
  exact ⟨.gpioInit (by decide), fun _ => ⟨Bool.noConfusion, fun _ => ⟨Bool.noConfusion, fun _ =>
    ⟨trivial, fun _ => ⟨trivial, fun _ => ⟨.gpioInit (by decide), fun _ =>
      ⟨Bool.noConfusion, fun _ => ⟨fun _ => apart, fun _ => ⟨trivial, fun _ => trivial⟩⟩⟩⟩⟩⟩⟩⟩⟩

/-- The pin of a level shifter is driven, and does not interrupt. -/
theorem sn74Init_allowed {kind : StartOp → Prop} (setsUp : ∀ op : StartOp, op.SetsUp → kind op)
    {gpio : Nat} (shifter : kind (.platform (.gpioInit gpio))) (apart : gpio ∉ interruptPins) :
    (platform (Sn74ahc125rgyr.init gpio)).Within kind :=
  ⟨shifter, fun _ => ⟨setsUp _ fun _ => apart, fun _ => ⟨setsUp _ fun _ => apart,
    fun _ => trivial⟩⟩⟩

/-- `encoder_init` sets up. -/
theorem encoderInit_setsUp : encoderInit.Within StartOp.SetsUp := by
  repeat refine ⟨trivial, fun _ => ?_⟩
  exact trivial

/-- `on_start` from the launch of core 1 to `max77958_init` sets up, and configures the charger. -/
theorem startChargers_allowed {kind : StartOp → Prop} (setsUp : ∀ op : StartOp, op.SetsUp → kind op)
    (charger : Max77976.Exchanges fun op => kind (.platform op))
    (strayed : kind (.platform (.strayStore 3)))
    (write : ∀ reg value,
      kind (.platform (.i2cWriteTimeoutUs .i2c1 Max77976.addr [reg, value] false)))
    (shifter : kind (.platform (.gpioInit Sn74ahc125rgyr.gpio1))) :
    startChargers.Within kind := by
  have configured := Max77976.configure_allowed charger strayed write
  have pin : kind (.platform (.gpioInit Max77976.gpioInterrupt)) := setsUp _ (.gpioInit (by decide))
  have init : (platform Max77976.init).Within kind :=
    ⟨setsUp _ trivial, fun _ => ⟨pin, fun _ => ⟨setsUp _ Bool.noConfusion, fun _ =>
      ⟨setsUp _ Bool.noConfusion, fun _ => ⟨setsUp _ trivial, fun _ => ⟨setsUp _ trivial, fun _ =>
        Program.embed_within.mpr configured⟩⟩⟩⟩⟩⟩
  exact (i2cStart_setsUp.mono setsUp).bind fun _ => ⟨setsUp _ trivial, fun _ =>
    (turnOnLeds_setsUp.mono setsUp).bind fun _ => (stwlc38jrmInit_setsUp.mono setsUp).bind fun _ =>
    (ncp3901Init_setsUp.mono setsUp).bind fun _ => init.bind fun _ =>
    (sn74Init_allowed setsUp shifter (by decide)).bind fun _ =>
    sn74Init_allowed setsUp (setsUp _ (.gpioInit (by decide))) (by decide)⟩

/-- `drv8830_init` sets up its pins and stops the motors. -/
theorem drv8830Init_allowed {kind : Op → Prop}
    (setsUp : ∀ op, StartOp.SetsUp (.platform op) → kind op)
    (control : ∀ (motor : Drv8830.Motor) value nostop,
      kind (.i2cWriteBlocking .i2c0 motor.address [Drv8830.regControl, value] nostop)) :
    Drv8830.init.Within kind := by
  have first : kind (.gpioInit Drv8830.gpioFault1) := setsUp _ (.gpioInit (by decide))
  have second : kind (.gpioInit Drv8830.gpioFault2) := setsUp _ (.gpioInit (by decide))
  have stopped : (do
      Drv8830.setVoltage .left 0
      Drv8830.setVoltage .right 0
      rp2040Log "DRV8830 init complete\n" []).Within kind :=
    ⟨control _ _ _, fun _ => ⟨control _ _ _, fun _ => ⟨setsUp _ trivial, fun _ => trivial⟩⟩⟩
  exact ⟨setsUp _ trivial, fun _ => ⟨first, fun _ => ⟨second, fun _ =>
    ⟨setsUp _ Bool.noConfusion, fun _ => ⟨setsUp _ Bool.noConfusion, fun _ =>
      ⟨setsUp _ Bool.noConfusion, fun _ => ⟨setsUp _ Bool.noConfusion, fun _ =>
        ⟨setsUp _ trivial, fun _ => ⟨setsUp _ trivial, fun _ => ⟨setsUp _ trivial, fun _ =>
          ⟨setsUp _ trivial, fun _ => stopped⟩⟩⟩⟩⟩⟩⟩⟩⟩⟩⟩

/-- `bq27742_g1_init`. -/
theorem bq27742G1Init_allowed {kind : StartOp → Prop}
    (setsUp : ∀ op : StartOp, op.SetsUp → kind op)
    (gauge : Bq27742G1.Exchanges fun op => kind (.platform op))
    (finish : Bq27742G1.initEnd.Within fun op => kind (.platform op)) :
    bq27742G1Init.Within kind := by
  have inside {α : Type} {function : Firmware α}
      (inside : function.Within fun op => kind (.platform op)) :
      (platform function).Within kind := Program.embed_within.mpr inside
  exact (inside (log_allowed gauge.routine _ _)).bind fun _ =>
    (inside (Bq27742G1.clearShutdown_allowed gauge)).bind fun _ =>
    (inside (Bq27742G1.configureHostInterrupts_allowed gauge)).bind fun _ =>
    ⟨setsUp _ (.gpioInit (by decide)), fun _ => ⟨setsUp _ Bool.noConfusion, fun _ =>
      ⟨setsUp _ Bool.noConfusion, fun _ => ⟨setsUp _ trivial, fun _ => inside finish⟩⟩⟩⟩

/-- The part of `on_start` that turns the motors. -/
theorem turnMotors_allowed {kind : Op → Prop} (routine : ∀ op, op.Routine → kind op)
    (control : ∀ (motor : Drv8830.Motor) value nostop,
      kind (.i2cWriteBlocking .i2c0 motor.address [Drv8830.regControl, value] nostop))
    (count : ∀ sm < 2, kind (.quadratureEncoderGetCount sm))
    (encoders : Encoder.EncoderRecord × Encoder.EncoderRecord) :
    (turnMotors encoders).Within kind := by
  have updated (pair : Encoder.EncoderRecord × Encoder.EncoderRecord) :
      (Encoder.quadEncoderUpdate pair).Within kind :=
    ⟨count 0 (by decide), fun _ => ⟨routine _ trivial, fun _ => ⟨count 1 (by decide), fun _ =>
      ⟨routine _ trivial, fun _ => trivial⟩⟩⟩⟩
  exact ⟨control _ _ _, fun _ => ⟨control _ _ _, fun _ =>
    (Program.Within.iterate updated 50 encoders).bind fun _ => ⟨routine _ trivial, fun _ =>
      ⟨control _ _ _, fun _ => ⟨control _ _ _, fun _ => trivial⟩⟩⟩⟩⟩

/-- `i2c_scan`, which only reads from the devices that it asks. -/
theorem i2cScan_allowed {kind : StartOp → Prop} {i2c : I2c}
    (paused : kind (.platform (.sleepMs 10)))
    (probed : ∀ address, kind (.i2cReadBlocking i2c address 1 false))
    (block : Vector UInt8 maxDevices) : (i2cScan i2c block).Within kind := by
  refine (i2cScan_asks i2c block).mono fun op asks => ?_
  obtain rfl | ⟨address, rfl⟩ := asks
  · exact paused
  · exact probed address

end StartUp

end RobotFirmware
