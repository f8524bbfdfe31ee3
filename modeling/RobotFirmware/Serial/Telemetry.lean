import RobotFirmware.Exchange
import RobotFirmware.Serial.Replies
import RobotFirmware.Structure.LittleEndian

/-!
# What a state frame holds

A device answers the receiver with anything, except that the registers of the fuel gauge may
have contents: then a read that succeeds returns them from the register selected last. It
collects the outcomes and the bytes sent. Against it a call of `get_block` sends the outgoing
packet or nothing, and the robot state in that packet is traced to the request and to the gauge.
-/

namespace RobotFirmware

open Interaction
open LittleEndian (word16)

/-- What the host has seen, and which register of the fuel gauge is selected. -/
structure Telemetry where
  /-- The outcomes. -/
  handed : List Outcome
  /-- The bytes sent. -/
  sent : List UInt8
  /-- The register of the fuel gauge that is read next. -/
  selected : UInt8

namespace Telemetry

/-- A read of the fuel gauge that succeeds returns the contents, where they are known. -/
def gives (contents : Option (UInt8 → UInt8)) (telemetry : Telemetry) :
    (op : Op) → Ans op → Prop
  | .i2cReadTimeoutUs .i2c0 addr len _, answer =>
    addr = Bq27742G1.addr → 0 ≤ answer.1 → ∀ registers ∈ contents, ∀ i : Fin len,
      answer.2.get i = registers (telemetry.selected + UInt8.ofNat i)
  | _, _ => True

/-- What an answered operation adds or selects. -/
def next (telemetry : Telemetry) : (op : Op) → Ans op → Telemetry
  | .enter (.handlePacket packetType data), _ =>
    { telemetry with handed := telemetry.handed ++ [.packet packetType data] }
  | .enter .resetPacketAndSendNack, _ =>
    { telemetry with handed := telemetry.handed ++ [.nack] }
  | .putchar c, _ => { telemetry with sent := telemetry.sent ++ [c] }
  | .rp2040LogFlush, printed => { telemetry with sent := telemetry.sent ++ printed }
  | .i2cWriteTimeoutUs .i2c0 addr (command :: _) _, result =>
    if addr = Bq27742G1.addr ∧ 0 ≤ result then { telemetry with selected := command }
    else telemetry
  | _, _ => telemetry

/-- The device with the given contents of the fuel gauge. -/
abbrev device (contents : Option (UInt8 → UInt8)) : Device Ans :=
  ⟨Telemetry, gives contents, next⟩

/-- Nothing has been sent, and some register is selected. -/
def start (selected : UInt8) : Telemetry := ⟨[], [], selected⟩

/-- A device without known contents gives every answer. -/
theorem serves_none (telemetry : Telemetry) (trace : List (Event Ans)) :
    (device none).Serves telemetry trace := by
  induction trace generalizing telemetry with
  | nil => trivial
  | cons event trace ih =>
    refine ⟨?_, ih _⟩
    change gives none telemetry event.op event.answer
    unfold gives
    split
    · rintro _ _ registers ⟨⟩
    · trivial

/-- What an operation adds is what a trace shows of it. -/
theorem next_eq (telemetry : Telemetry) (op : Op) (answer : Ans op) :
    (telemetry.next op answer).handed = telemetry.handed ++ op.outcome?.toList ∧
      (telemetry.next op answer).sent = telemetry.sent ++ op.sent answer := by
  cases op with
  | putchar => simp [next, Op.outcome?, Op.sent]
  | rp2040LogFlush => simp [next, Op.outcome?, Op.sent]
  | enter call => cases call <;> simp [next, Op.outcome?, Op.sent]
  | i2cWriteTimeoutUs i2c addr src nostop =>
    cases i2c <;> cases src <;>
      simp [next, Op.outcome?, Op.sent, apply_ite Telemetry.handed, apply_ite Telemetry.sent]
  | _ => simp [next, Op.outcome?, Op.sent]

/-- The device follows the trace. -/
theorem after_eq (contents : Option (UInt8 → UInt8)) (telemetry : Telemetry)
    (trace : List (Event Ans)) :
    ((device contents).after telemetry trace).handed = telemetry.handed ++ handovers trace ∧
      ((device contents).after telemetry trace).sent = telemetry.sent ++ sentBytes trace := by
  induction trace generalizing telemetry with
  | nil => simp [Device.after, handovers, sentBytes]
  | cons event trace ih =>
    obtain ⟨handed, sent⟩ := telemetry.next_eq event.op event.answer
    obtain ⟨handedLater, sentLater⟩ := ih (telemetry.next event.op event.answer)
    have outcomes : handovers (event :: trace) = event.op.outcome?.toList ++ handovers trace :=
      Reception.filterMap_cons_toList _ _ _
    refine ⟨?_, ?_⟩
    · rw [outcomes, ← List.append_assoc, ← handed]
      exact handedLater
    · rw [sentBytes, List.flatMap_cons, ← List.append_assoc, ← sent]
      exact sentLater

/-! ## Reading the fuel gauge -/

variable {contents : Option (UInt8 → UInt8)} {telemetry : Telemetry} {state : SerialState}

/-- The host has seen what it had seen before. -/
def Unseen (telemetry later : Telemetry) : Prop :=
  later.handed = telemetry.handed ∧ later.sent = telemetry.sent

/-- Routine operations show nothing and select nothing. -/
theorem ignores_routine : (device contents).Ignores Op.Routine := by
  intro telemetry op answer routine
  cases op <;> first | rfl | exact routine.elim

/-- The other devices show the host nothing. -/
theorem ensures_peripheral {α : Type} {program : Firmware α}
    (inside : program.Within Op.Peripheral) :
    (device contents).Ensures telemetry program fun final _ => telemetry.Unseen final := by
  refine Device.ensures_of_within inside (fun reached op answer peripheral _ unseen => ?_)
    ⟨rfl, rfl⟩
  obtain ⟨handed, sent⟩ := reached.next_eq op answer
  have nothing : op.outcome? = none ∧ op.sent answer = [] := by
    cases op <;> first | exact ⟨rfl, rfl⟩ | exact peripheral.elim
  rw [nothing.1] at handed
  rw [nothing.2] at sent
  exact ⟨(handed.trans (List.append_nil _)).trans unseen.1,
    (sent.trans (List.append_nil _)).trans unseen.2⟩

/-- The bytes are those of the registers from a command on. -/
def ReadFrom (registers : UInt8 → UInt8) (command : UInt8) {len : Nat} (bytes : Vector UInt8 len) :
    Prop := ∀ i : Fin len, bytes.get i = registers (command + UInt8.ofNat i)

/-- The first byte read is the register's. -/
theorem ReadFrom.first {registers : UInt8 → UInt8} {command : UInt8} {bytes : Vector UInt8 2}
    (read : ReadFrom registers command bytes) : bytes.get 0 = registers command :=
  (read 0).trans (congrArg registers (UInt8.add_zero command))

/-- Two bytes read are the little-endian word of two registers. -/
theorem ReadFrom.word {registers : UInt8 → UInt8} {command : UInt8} {bytes : Vector UInt8 2}
    (read : ReadFrom registers command bytes) :
    Bq27742G1.word bytes = word16 (registers command) (registers (command + 1)) := by
  have first : bytes[0] = registers command := read.first
  have second : bytes[1] = registers (command + 1) := read 1
  rw [Bq27742G1.word, word16, first, second, UInt16.or_comm]

/-- Reading registers returns their contents. -/
theorem ensures_readBytes (command : UInt8) (len : Nat)
    {post : Telemetry → Vector UInt8 len → Prop}
    (obtained : ∀ bytes : Vector UInt8 len,
      (∀ registers ∈ contents, ReadFrom registers command bytes) →
      post { telemetry with selected := command } bytes) :
    (device contents).Ensures telemetry (Bq27742G1.readBytes command len) post := by
  refine Device.ensures_bind.mpr (ensures_i2cWriteErrorHandling ignores_routine
    (fun result failed => ?_) fun result written => ?_)
  · simp [next, Int.not_le.mpr failed]
  · have selects : telemetry.next (.i2cWriteTimeoutUs .i2c0 Bq27742G1.addr [command] true) result =
        { telemetry with selected := command } := by simp [next, written]
    change (device contents).Ensures
      (telemetry.next (.i2cWriteTimeoutUs .i2c0 Bq27742G1.addr [command] true) result) _ post
    rw [selects]
    exact ensures_i2cReadErrorHandling ignores_routine (fun _ _ _ => rfl)
      fun result bytes success given => obtained bytes (given rfl success)

/-- Logging changes nothing. -/
theorem ensures_log (format : String) (args : List LogArg) {α : Type} {next : Unit → Firmware α}
    {post : Telemetry → α → Prop} (goes : (device contents).Ensures telemetry (next ()) post) :
    (device contents).Ensures telemetry (rp2040Log format args >>= next) post := ⟨fun _ _ => goes⟩

/-- A message about a bit changes nothing. -/
theorem ensures_logBit (value mask : UInt16) (message : String) {α : Type}
    {next : Unit → Firmware α} {post : Telemetry → α → Prop}
    (goes : (device contents).Ensures telemetry (next ()) post) :
    (device contents).Ensures telemetry (Bq27742G1.logBit value mask message >>= next) post := by
  have routine : (Bq27742G1.logBit value mask message).Within Op.Routine :=
    .ite ⟨trivial, fun _ => trivial⟩ trivial
  exact Device.ensures_bind.mpr (ignores_routine.ensures routine fun _ => goes)

/-- What `get_battery_state` makes of the registers. The temperature is the cleared static. -/
def batteryOf (registers : UInt8 → UInt8) : BatteryDetails where
  voltage := word16 (registers 0x08) (registers 0x09)
  safetyStatus := registers 0x1A
  temperature := 0
  stateOfHealth := registers 0x2E
  flags := word16 (registers 0x0A) (registers 0x0B)

/-- `bq27742_g1_get_voltage` returns the word at 0x08. -/
theorem ensures_getVoltage : (device contents).Ensures telemetry Bq27742G1.getVoltage
    fun final value => telemetry.Unseen final ∧
      ∀ registers ∈ contents, value = word16 (registers 0x08) (registers 0x09) :=
  Device.ensures_bind.mpr (ensures_readBytes _ _ fun _ read => ensures_log _ _
    ⟨⟨rfl, rfl⟩, fun registers known => (read registers known).word⟩)

/-- `bq27742_g1_get_safety_stats` returns the byte at 0x1A. -/
theorem ensures_getSafetyStats : (device contents).Ensures telemetry Bq27742G1.getSafetyStats
    fun final value => telemetry.Unseen final ∧ ∀ registers ∈ contents, value = registers 0x1A := by
  refine Device.ensures_bind.mpr (ensures_readBytes _ _ fun bytes read => ensures_log _ _ ?_)
  iterate 6 refine ensures_logBit _ _ _ ?_
  have returned : ∀ registers ∈ contents, bytes[0] = registers 0x1A :=
    fun registers known => (read registers known).first
  refine Device.ensures_ite.mpr ?_
  split_ifs
  · exact ensures_log _ _ ⟨⟨rfl, rfl⟩, returned⟩
  · exact ⟨⟨rfl, rfl⟩, returned⟩

/-- `bq27742_g1_get_temp` returns zero, whatever it reads. -/
theorem ensures_getTemp : (device contents).Ensures telemetry Bq27742G1.getTemp
    fun final value => telemetry.Unseen final ∧ value = 0 :=
  Device.ensures_bind.mpr (ensures_readBytes _ _ fun _ _ => ensures_log _ _ ⟨⟨rfl, rfl⟩, rfl⟩)

/-- `bq27742_g1_get_soh` returns the byte at 0x2E. -/
theorem ensures_getSoh : (device contents).Ensures telemetry Bq27742G1.getSoh
    fun final value => telemetry.Unseen final ∧ ∀ registers ∈ contents, value = registers 0x2E :=
  Device.ensures_bind.mpr (ensures_readBytes _ _ fun _ read => ensures_log _ _ (ensures_log _ _
    ⟨⟨rfl, rfl⟩, fun registers known => (read registers known).first⟩))

/-- `bq27742_g1_get_flags` returns the word at 0x0A. -/
theorem ensures_getFlags : (device contents).Ensures telemetry Bq27742G1.getFlags
    fun final value => telemetry.Unseen final ∧
      ∀ registers ∈ contents, value = word16 (registers 0x0A) (registers 0x0B) := by
  refine Device.ensures_bind.mpr (ensures_readBytes _ _ fun bytes read => ensures_log _ _ ?_)
  iterate 10 refine ensures_logBit _ _ _ ?_
  have returned : ∀ registers ∈ contents,
      Bq27742G1.word bytes = word16 (registers 0x0A) (registers 0x0B) :=
    fun registers known => (read registers known).word
  refine Device.ensures_ite.mpr ?_
  split_ifs
  · exact ensures_log _ _ (ensures_log _ _ ⟨⟨rfl, rfl⟩, returned⟩)
  · exact ensures_log _ _ ⟨⟨rfl, rfl⟩, returned⟩

/-- What has been seen stays seen. -/
theorem Unseen.trans {middle final : Telemetry} (first : telemetry.Unseen middle)
    (later : middle.Unseen final) : telemetry.Unseen final :=
  ⟨later.1.trans first.1, later.2.trans first.2⟩

/-- `get_battery_state` stores what the registers say, and nothing else. -/
theorem ensures_getBatteryState (robot : Rp2040State) :
    (device contents).Ensures telemetry (getBatteryState robot) fun final value =>
      telemetry.Unseen final ∧ value.motorsState = robot.motorsState ∧
        ∀ registers ∈ contents, value.batteryDetails = batteryOf registers := by
  refine Device.ensures_bind.mpr (ensures_getVoltage.mono fun _ voltage ⟨first, isVoltage⟩ => ?_)
  refine Device.ensures_bind.mpr (ensures_getSafetyStats.mono fun _ safety ⟨second, isSafety⟩ => ?_)
  refine Device.ensures_bind.mpr (ensures_getTemp.mono fun _ temperature ⟨third, isZero⟩ => ?_)
  refine Device.ensures_bind.mpr (ensures_getSoh.mono fun _ soh ⟨fourth, isSoh⟩ => ?_)
  refine Device.ensures_bind.mpr (ensures_getFlags.mono fun _ flags ⟨fifth, isFlags⟩ => ?_)
  refine ⟨first.trans (second.trans (third.trans (fourth.trans fifth))), rfl,
    fun registers known => ?_⟩
  rw [isVoltage registers known, isSafety registers known, isZero, isSoh registers known,
    isFlags registers known]
  rfl

/-- The encoders, the motor drivers and the charger leave the control values as they are. -/
theorem ensures_getState (robot : Rp2040State) :
    (device contents).Ensures telemetry (getState robot) fun final value =>
      telemetry.Unseen final ∧
        value.motorsState.controlValues = robot.motorsState.controlValues ∧
        ∀ registers ∈ contents, value.batteryDetails = batteryOf registers := by
  have counts : (device contents).Ensures telemetry (getEncoderCounts robot) fun final value =>
      telemetry.Unseen final ∧
        value.motorsState.controlValues = robot.motorsState.controlValues :=
    ⟨fun _ _ => ⟨fun _ _ => ⟨⟨rfl, rfl⟩, rfl⟩⟩⟩
  have faults (reached : Telemetry) (robot : Rp2040State) :
      (device contents).Ensures reached (getMotorFaults robot) fun final value =>
        reached.Unseen final ∧
          value.motorsState.controlValues = robot.motorsState.controlValues :=
    Device.ensures_bind.mpr ((ensures_peripheral
      (Drv8830.getFaults_allowed Drv8830.exchanges_peripheral)).mono
      fun _ _ unseen => ⟨unseen, rfl⟩)
  have charger (reached : Telemetry) (robot : Rp2040State) :
      (device contents).Ensures reached (getChargerState robot) fun final value =>
        reached.Unseen final ∧ value.motorsState = robot.motorsState :=
    Device.ensures_bind.mpr ((ensures_peripheral
      (Max77976.getChgDetails_allowed Max77976.exchanges_peripheral fun _ _ _ => trivial)).mono
      fun _ _ unseen => by
        simp only [Ncp3901.wirelessChargerAttached, Ncp3901.adc0, stwlc38jrmAdc1,
          Device.ensures_bind, Device.ensures_act, Program.pure_def, Device.ensures_done]
        intros
        exact ⟨unseen, trivial⟩)
  refine Device.ensures_bind.mpr (counts.mono fun _ counted ended => ?_)
  obtain ⟨first, same⟩ := ended
  refine Device.ensures_bind.mpr ((faults _ _).mono fun _ faulty ended => ?_)
  obtain ⟨second, sameFaults⟩ := ended
  refine Device.ensures_bind.mpr ((charger _ _).mono fun _ charged ended => ?_)
  obtain ⟨third, sameCharger⟩ := ended
  refine (ensures_getBatteryState _).mono fun _ value ended => ?_
  obtain ⟨fourth, sameBattery, battery⟩ := ended
  refine ⟨first.trans (second.trans (third.trans fourth)), ?_, battery⟩
  rw [sameBattery, sameCharger, sameFaults, same]

/-! ## A call of `get_block` -/

/-- What is sent for an outcome, by a call that ends with the given statics. -/
inductive Emits (contents : Option (UInt8 → UInt8)) (final : SerialState) :
    Outcome → List UInt8 → Prop where
  /-- A NACK is the outgoing packet. -/
  | nack (marked : final.outgoing.packetType = RobotFirmware.nack) :
      Emits contents final .nack final.outgoing.bytes
  /-- The log is sent in a frame of its own. -/
  | log (data : Vector UInt8 2) (dataSize : UInt16) (payload : List UInt8) :
      Emits contents final (.packet getLog data) (logFrame dataSize payload)
  /-- The state is the outgoing packet, gathered for this request. -/
  | state {packetType : UInt8} {data : Vector UInt8 2}
      (known : packetType = setMotorLevel ∨ packetType = getStateType)
      (echoed : final.outgoing.packetType = packetType)
      (levels : final.outgoing.data.motorsState.controlValues =
        if packetType = setMotorLevel then ⟨data.get 0, data.get 1⟩ else ⟨0, 0⟩)
      (battery : ∀ registers ∈ contents,
        final.outgoing.data.batteryDetails = batteryOf registers) :
      Emits contents final (.packet packetType data) final.outgoing.bytes
  /-- Nothing is sent for any other packet. -/
  | silent {packetType : UInt8} {data : Vector UInt8 2}
      (unknown : packetType ∉ [getLog, setMotorLevel, getStateType]) :
      Emits contents final (.packet packetType data) []

/-- The indices and the incoming packet do not show in what is sent. -/
theorem Emits.of_outgoing {final later : SerialState} {outcome : Outcome} {sent : List UInt8}
    (emits : Emits contents final outcome sent) (same : later.outgoing = final.outgoing) :
    Emits contents later outcome sent := by
  cases emits with
  | nack marked => exact same ▸ .nack (same ▸ marked)
  | log data dataSize payload => exact .log data dataSize payload
  | state known echoed levels battery =>
    rw [← same] at echoed levels battery ⊢
    exact .state known echoed levels battery
  | silent unknown => exact .silent unknown

/-- What is promised of a call: the statics stay steady, and the outcome, if there is one, is
answered by what it emits. -/
def Answers (contents : Option (UInt8 → UInt8)) (final : Telemetry) (state : SerialState) : Prop :=
  Reply.Steady state ∧ (final.handed = [] ∧ final.sent = [] ∨
    ∃ outcome, final.handed = [outcome] ∧ Emits contents state outcome final.sent)

variable {packet : IncomingPacketFromAndroid} {selected : UInt8}

/-- Sending bytes appends them. -/
theorem ensures_putBytes {bytes : List UInt8} {post : Telemetry → Unit → Prop}
    (holds : post { telemetry with sent := telemetry.sent ++ bytes } ()) :
    (device contents).Ensures telemetry (putBytes bytes) post := by
  induction bytes generalizing telemetry with
  | nil => simpa [putBytes] using holds
  | cons c bytes ih =>
    refine ⟨fun _ _ => ih ?_⟩
    simpa [next] using holds

/-- The state is gathered and sent in the outgoing packet. -/
theorem ensures_sendState (steady : Reply.Steady state) :
    (device contents).Ensures telemetry (sendState.run state) fun final value =>
      Reply.Steady value.2 ∧ final.handed = telemetry.handed ∧
        final.sent = telemetry.sent ++ value.2.outgoing.bytes ∧
        value.2.outgoing.packetType = state.outgoing.packetType ∧
        value.2.outgoing.data.motorsState.controlValues =
          state.rp2040State.motorsState.controlValues ∧
        ∀ registers ∈ contents, value.2.outgoing.data.batteryDetails = batteryOf registers := by
  simp only [sendState, StateT.run_bind, StateT.run_get, StateT.run_modify, StateT.run_monadLift,
    monadLift_self, Device.ensures_bind, Program.pure_def, Device.ensures_done]
  refine (ensures_getState _).mono ?_
  rintro reached data ⟨unseen, levels, battery⟩
  refine ensures_putBytes ⟨?_, unseen.1, ?_, trivial, levels, battery⟩
  · exact ⟨⟨steady.marked.start, steady.marked.stop, steady.marked.size, steady.marked.logStart,
      steady.marked.logStop⟩, steady.fresh⟩
  · exact congrArg (· ++ _) unseen.2

/-- Setting the motor levels sends nothing to the host. -/
theorem ensures_setMotorLevels {robot : Rp2040State} {post : Telemetry → Unit → Prop}
    (holds : post telemetry ()) :
    (device contents).Ensures telemetry (setMotorLevels robot) post :=
  ⟨fun _ _ => ⟨fun _ _ => holds⟩⟩

/-- The log is sent in one frame. -/
theorem ensures_handleGetLog (steady : Reply.Steady state) (request : packet.packetType = getLog) :
    (device contents).Ensures telemetry ((handleGetLog packet).run state) fun final value =>
      Reply.Steady value.2 ∧ final.handed = telemetry.handed ∧
        ∃ dataSize payload, final.sent = telemetry.sent ++ logFrame dataSize payload := by
  have low (value : UInt8) : value &&& 255 = value := UInt8.and_neg_one
  simp only [handleGetLog, StateT.run_bind, StateT.run_get, StateT.run_modify,
    StateT.run_monadLift, monadLift_self, Device.ensures_bind, Device.ensures_act,
    Program.pure_def, Device.ensures_done]
  intro _ _ _ _ _ _ dataSize _ _ _ _ _ payload _ _ _ _ _
  refine ⟨⟨⟨steady.marked.start, steady.marked.stop, steady.marked.size, steady.marked.logStart,
    steady.marked.logStop⟩, steady.fresh⟩, rfl, dataSize, payload, ?_⟩
  simp [next, logFrame, steady.marked.logStart, steady.marked.logStop, request, bytes16, low]

/-- A packet is answered. -/
theorem ensures_handlePacket (steady : Reply.Steady state) :
    (device contents).Ensures (start selected) ((handlePacket packet).run state)
      fun final value => Reply.Steady value.2 ∧
        final.handed = [.packet packet.packetType packet.data] ∧
        Emits contents value.2 (.packet packet.packetType packet.data) final.sent := by
  simp only [handlePacket, StateT.run_bind, StateT.run_monadLift, monadLift_self,
    Device.ensures_bind, Device.ensures_act, Program.pure_def, Device.ensures_done,
    Device.ensures_run_ite]
  intro _ _
  split_ifs with log motor telemetry reset
  · refine (ensures_handleGetLog steady log).mono fun final value ended => ?_
    obtain ⟨steady, handed, dataSize, payload, sent⟩ := ended
    refine ⟨steady, handed, ?_⟩
    rw [log, sent]
    exact .log _ dataSize payload
  · simp only [handleSetMotorLevel, StateT.run_bind, StateT.run_modify, StateT.run_get,
      StateT.run_monadLift, monadLift_self, Device.ensures_bind, Program.pure_def,
      Device.ensures_done]
    refine ensures_setMotorLevels ((ensures_sendState (steady.with_outgoing _ _)).mono ?_)
    rintro final value ⟨steady, handed, sent, echoed, levels, battery⟩
    refine ⟨steady, handed, ?_⟩
    rw [sent]
    exact .state (.inl motor) echoed (levels.trans (if_pos motor).symm) battery
  · simp only [handleGetState, StateT.run_bind, StateT.run_modify, Device.ensures_bind,
      Program.pure_def, Device.ensures_done]
    refine (ensures_sendState (steady.with_outgoing _ _)).mono ?_
    rintro final value ⟨steady, handed, sent, echoed, levels, battery⟩
    refine ⟨steady, handed, ?_⟩
    rw [sent]
    exact .state (.inr telemetry) echoed (levels.trans (if_neg motor).symm) battery
  · refine ⟨steady, rfl, .silent ?_⟩
    simp [log, motor, telemetry]
  · refine ⟨steady.with_outgoing _ _, rfl, .silent ?_⟩
    simp [log, motor, telemetry]

/-- A NACK is answered by the outgoing packet. -/
theorem ensures_resetPacketAndSendNack (steady : Reply.Steady state) :
    (device contents).Ensures (start selected) (resetPacketAndSendNack.run state)
      fun final value => Answers contents final value.2 := by
  simp only [resetPacketAndSendNack, StateT.run_bind, StateT.run_modify, StateT.run_get,
    StateT.run_monadLift, monadLift_self, Device.ensures_bind, Device.ensures_act,
    Program.pure_def, Device.ensures_done]
  have marked : Marked { state with
      startIdx := -1, endIdx := -1, incoming := .zero
      outgoing := { state.outgoing with packetType := nack } } :=
    ⟨steady.marked.start, steady.marked.stop, steady.marked.size, steady.marked.logStart,
      steady.marked.logStop⟩
  exact fun _ _ => ensures_putBytes ⟨⟨marked, rfl⟩, .inr ⟨.nack, rfl, .nack rfl⟩⟩

/-- After the loop a packet is handed over or a NACK is sent. -/
theorem ensures_finishBlock (steady : Reply.Steady state) (started : state.startIdx = 0) :
    (device contents).Ensures (start selected) (finishBlock.run state)
      fun final value => Answers contents final value.2 := by
  rw [Reception.finishBlock_run started steady.fresh]
  refine ⟨fun (received : Option UInt8) _ => Device.ensures_ite.mpr ?_⟩
  split_ifs with stop
  · refine Device.ensures_bind.mpr ((ensures_handlePacket steady).mono ?_)
    rintro final value ⟨steady, handed, emits⟩
    exact ⟨steady.of_outgoing rfl rfl rfl, .inr ⟨_, handed, emits.of_outgoing rfl⟩⟩
  · exact ⟨fun _ _ => ensures_resetPacketAndSendNack steady⟩

/-- The loop emits nothing, unless a timeout makes it send a NACK. -/
theorem ensures_readLoop {fuel : Nat} (count : Nat) (enough : 4 ≤ fuel + count) (few : count ≤ 3)
    (steady : Reply.Steady state) (started : state.startIdx = 0) :
    (device contents).Ensures (start selected)
      ((readLoop fuel (UInt16.ofNat count) (UInt8.ofNat count)).run state) fun final value =>
        value.1 = .left ∧ Reply.Steady value.2 ∧ value.2.startIdx = 0 ∧ final = start selected ∨
          value.1 = .returned ∧ Answers contents final value.2 := by
  induction fuel generalizing count state with
  | zero => omega
  | succ fuel ih =>
    by_cases full : count = 3
    · subst full
      rw [Reception.readLoop_full]
      exact .inl ⟨rfl, steady, started, rfl⟩
    · have room : count < 3 := by omega
      obtain ⟨incoming, _, same⟩ := Reception.readLoop_run room fuel state
      rw [same]
      refine ⟨fun (received : Option UInt8) _ => ?_⟩
      cases received with
      | none =>
        exact ⟨fun _ _ => Device.ensures_bind.mpr ((ensures_resetPacketAndSendNack steady).mono
          fun _ _ answers => .inr ⟨rfl, answers⟩)⟩
      | some c =>
        exact ih (count + 1) (by omega) (by omega) (steady.of_outgoing rfl rfl steady.fresh) started

/-- A call of `get_block` answers its outcome. -/
theorem ensures_getBlock (steady : Reply.Steady state) :
    (device contents).Ensures (start selected) (getBlock.run state)
      fun final value => Answers contents final value.2 := by
  simp only [getBlock, StateT.run_bind, StateT.run_modify, StateT.run_monadLift, monadLift_self,
    Device.ensures_bind, Device.ensures_act, Program.pure_def, Device.ensures_done,
    Device.ensures_run_ite]
  intro _ _ c _
  split_ifs with found
  · have started : Reply.Steady { state with startIdx := 0 } :=
      steady.of_outgoing rfl rfl steady.fresh
    refine (ensures_readLoop 0 (by decide) (by decide) started rfl).mono ?_
    rintro final ⟨loopEnd, later⟩ (⟨rfl, steady, started, rfl⟩ | ⟨rfl, answers⟩)
    · exact ensures_finishBlock steady started
    · exact answers
  · exact ⟨steady, .inl ⟨rfl, rfl⟩⟩

/-- A call that returns, from any state that the receiver reaches, answers its outcome. -/
theorem call_answers {rp2040State : Rp2040State} {rounds : Nat} {prior trace : List (Event Ans)}
    {final : SerialState} (reached : (receiver rp2040State rounds).Runs prior (.done state))
    (returned : (getBlock.run state).Runs trace (.done ((), final)))
    (serves : (device contents).Serves (start selected) trace) :
    Reply.Steady final ∧ (handovers trace = [] ∧ sentBytes trace = [] ∨
      ∃ outcome, handovers trace = [outcome] ∧
        Emits contents final outcome (sentBytes trace)) := by
  have steady : Reply.Steady state :=
    Reply.serve_steady ⟨init_marked rp2040State .static, rfl⟩ reached
  obtain ⟨handed, sent⟩ := after_eq contents (start selected) trace
  have answers := (ensures_getBlock steady).ends returned serves
  rw [Answers, handed, sent] at answers
  exact answers

end Telemetry

end RobotFirmware
