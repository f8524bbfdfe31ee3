import RobotFirmware.Serial.LogFrame
import RobotFirmware.Serial.Receiver

/-!
# Replies to requests

A call of `get_block` that finds a start marker ends with one outcome of the reference scanner.
A monitor collects what the call sends, and shows that it is one complete frame of the right
kind for a NACK and for the requests `GET_LOG`, `SET_MOTOR_LEVEL` and `GET_STATE`, and nothing
for every other type.
-/

namespace RobotFirmware

open Interaction

/-! ## Reply frames -/

/-- A state frame. -/
def stateFrame (packetType : UInt8) (data : Rp2040State) : List UInt8 :=
  startMarker :: packetType :: bytes16 (UInt16.ofNat Rp2040State.size) ++ data.bytes ++ [endMarker]

/-- A log frame. -/
def logFrame (dataSize : UInt16) (payload : List UInt8) : List UInt8 :=
  startMarker :: getLog :: bytes16 dataSize ++ payload ++ [endMarker]

/-- The bytes of a marked packet are a state frame. -/
theorem Marked.bytes_eq {state : SerialState} (marked : Marked state) :
    state.outgoing.bytes = stateFrame state.outgoing.packetType state.outgoing.data := by
  simp [OutgoingPacketToAndroid.bytes, stateFrame, marked.start, marked.stop, marked.size]

/-- The size of the log that an operation counts. -/
def Op.counted? : (op : Op) → Ans op → Option UInt16
  | .rp2040GetByteCount, count => some count
  | _, _ => none

/-- The log bytes that an operation prints. -/
def Op.printed? : (op : Op) → Ans op → Option (List UInt8)
  | .rp2040LogFlush, printed => some printed
  | _, _ => none

/-- The sizes of the log counted in a trace. -/
def counts (trace : List (Event Ans)) : List UInt16 :=
  trace.filterMap fun event => event.op.counted? event.answer

/-- The log bytes printed in a trace. -/
def prints (trace : List (Event Ans)) : List (List UInt8) :=
  trace.filterMap fun event => event.op.printed? event.answer

/-- What a call of `get_block` showed to the host. -/
structure Reply where
  /-- The first event read. -/
  first : Option (Option UInt8)
  /-- The outcomes. -/
  handed : List Outcome
  /-- The bytes sent. -/
  sent : List UInt8
  /-- The sizes of the log that were counted. -/
  counted : List UInt16
  /-- The log bytes that were printed. -/
  printed : List (List UInt8)

/-- One complete frame of the kind that an outcome calls for: what is sent, with the sizes that
were counted and the log bytes that were printed for it. -/
def Outcome.Answered (sent : List UInt8) (counted : List UInt16) (printed : List (List UInt8)) :
    Outcome → Prop
  | .nack => ∃ data, sent = stateFrame RobotFirmware.nack data
  | .packet packetType _ =>
    if packetType = getLog then
      ∃ dataSize payload, counted = [dataSize] ∧ printed = [payload] ∧
        sent = logFrame dataSize payload
    else if packetType = setMotorLevel ∨ packetType = getStateType then
      ∃ data, sent = stateFrame packetType data
    else if packetType = resetState then
      ∃ data, sent = stateFrame resetState data ∨ sent = stateFrame RobotFirmware.nack data
    else
      ∃ data, sent = stateFrame RobotFirmware.nack data

/-- A NACK, or a packet of a type that `handle_packet` answers. -/
def Outcome.Supported : Outcome → Prop
  | .nack => True
  | .packet packetType _ => packetType ∈ [getLog, setMotorLevel, getStateType]

/-- Nothing is no answer. -/
theorem Outcome.not_answered_nil (outcome : Outcome) {counted : List UInt16}
    {printed : List (List UInt8)} : ¬ outcome.Answered [] counted printed := by
  cases outcome with
  | nack => simp [Answered, stateFrame]
  | packet packetType data =>
    simp only [Answered]
    split_ifs <;> simp [logFrame, stateFrame]

namespace Reply

/-- Nothing has been read or sent. -/
def start : Reply := ⟨none, [], [], [], []⟩

/-- What an answered operation adds. -/
def next (reply : Reply) : (op : Op) → Ans op → Reply
  | .getcharTimeoutUs _, c => { reply with first := reply.first <|> some c }
  | .enter (.handlePacket packetType data), _ =>
    { reply with handed := reply.handed ++ [.packet packetType data] }
  | .enter .resetPacketAndSendNack, _ => { reply with handed := reply.handed ++ [.nack] }
  | .putchar c, _ => { reply with sent := reply.sent ++ [c] }
  | .rp2040GetByteCount, count => { reply with counted := reply.counted ++ [count] }
  | .rp2040LogFlush, printed =>
    { reply with sent := reply.sent ++ printed, printed := reply.printed ++ [printed] }
  | _, _ => reply

/-- Collects a reply and allows everything. -/
abbrev collector : Monitor Ans := ⟨Reply, fun _ _ => True, next⟩

/-- What an operation adds is what a trace shows of it. -/
theorem next_eq (reply : Reply) (op : Op) (answer : Ans op) :
    reply.next op answer =
      ⟨reply.first <|> op.input? answer, reply.handed ++ op.outcome?.toList,
        reply.sent ++ op.sent answer, reply.counted ++ (op.counted? answer).toList,
        reply.printed ++ (op.printed? answer).toList⟩ := by
  have unchanged : reply = ⟨reply.first <|> none, reply.handed ++ [], reply.sent ++ [],
      reply.counted ++ [], reply.printed ++ []⟩ := by simp
  cases op with
  | getcharTimeoutUs => simp [next, Op.input?, Op.outcome?, Op.sent, Op.counted?, Op.printed?]
  | putchar => simp [next, Op.input?, Op.outcome?, Op.sent, Op.counted?, Op.printed?]
  | rp2040GetByteCount => simp [next, Op.input?, Op.outcome?, Op.sent, Op.counted?, Op.printed?]
  | rp2040LogFlush => simp [next, Op.input?, Op.outcome?, Op.sent, Op.counted?, Op.printed?]
  | enter call =>
    cases call with
    | handlePacket => simp [next, Op.input?, Op.outcome?, Op.sent, Op.counted?, Op.printed?]
    | resetPacketAndSendNack =>
      simp [next, Op.input?, Op.outcome?, Op.sent, Op.counted?, Op.printed?]
    | _ => exact unchanged
  | _ => exact unchanged

/-- The collector follows the trace. -/
theorem after_eq (reply : Reply) (trace : List (Event Ans)) :
    collector.after reply trace =
      ⟨reply.first <|> (inputs trace).head?, reply.handed ++ handovers trace,
        reply.sent ++ sentBytes trace, reply.counted ++ counts trace,
        reply.printed ++ prints trace⟩ := by
  induction trace generalizing reply with
  | nil => simp [inputs, handovers, sentBytes, counts, prints]
  | cons event trace ih =>
    have moved : collector.next reply event.op event.answer = _ :=
      next_eq reply event.op event.answer
    rw [Monitor.after_cons, ih, moved]
    simp only [inputs, handovers, sentBytes, counts, prints, Reception.filterMap_cons_toList,
      List.flatMap_cons, List.append_assoc, Reply.mk.injEq, and_true]
    cases reply.first <;> cases event.op.input? event.answer <;> rfl

/-! ## `get_block` under the collector -/

/-- What stays in the statics between packets. -/
structure Steady (state : SerialState) : Prop where
  /-- The outgoing packets are marked. -/
  marked : Marked state
  /-- No end marker has been seen. -/
  fresh : state.endIdx = -1

/-- The type of the outgoing packet and the robot state are free. -/
theorem Steady.with_outgoing {state : SerialState} (steady : Steady state) (packetType : UInt8)
    (rp2040State : Rp2040State) :
    Steady { state with
      outgoing := { state.outgoing with packetType := packetType }
      rp2040State := rp2040State } :=
  ⟨⟨steady.marked.start, steady.marked.stop, steady.marked.size, steady.marked.logStart,
    steady.marked.logStop⟩, steady.fresh⟩

/-- The markers are those of the outgoing packets. -/
theorem Steady.of_outgoing {state after : SerialState} (steady : Steady state)
    (outgoing : after.outgoing = state.outgoing)
    (outgoingLog : after.outgoingLog = state.outgoingLog) (fresh : after.endIdx = -1) :
    Steady after := by
  obtain ⟨start, stop, size, logStart, logStop⟩ := steady.marked
  rw [← outgoing] at start stop size
  rw [← outgoingLog] at logStart logStop
  exact ⟨⟨start, stop, size, logStart, logStop⟩, fresh⟩

/-- The collector does not see the other devices. -/
theorem ignores_peripheral : collector.Ignores Op.Peripheral := by
  intro reply op peripheral
  cases op <;> first | exact ⟨trivial, fun _ => rfl⟩ | exact peripheral.elim

variable {reply : Reply} {state : SerialState} {packet : IncomingPacketFromAndroid}
  {first : Option (Option UInt8)}

/-- Sending bytes appends them. -/
theorem guards_putBytes {bytes : List UInt8} {post : Reply → Unit → Prop}
    (holds : post { reply with sent := reply.sent ++ bytes } ()) :
    collector.Guards reply (putBytes bytes) post := by
  induction bytes generalizing reply with
  | nil => simpa [putBytes] using holds
  | cons c bytes ih =>
    refine ⟨trivial, fun _ => ih ?_⟩
    simpa [next] using holds

/-- Sending the state sends one state frame. -/
theorem guards_sendState (steady : Steady state) :
    collector.Guards reply (sendState.run state) fun final value =>
      Steady value.2 ∧ ∃ data, final =
        { reply with sent := reply.sent ++ stateFrame state.outgoing.packetType data } := by
  obtain ⟨⟨start, stop, size, logStart, logStop⟩, fresh⟩ := steady
  simp [sendState]
  refine ignores_peripheral.guards (reporting_peripheral.getState_allowed _) fun data =>
    guards_putBytes ?_
  have marked : Marked { state with
      rp2040State := data, outgoing := { state.outgoing with data := data } } :=
    ⟨start, stop, size, logStart, logStop⟩
  exact ⟨⟨marked, fresh⟩, data, by rw [marked.bytes_eq]⟩

/-- What a call has sent when its outcome is produced. -/
structure Sends (outcome : Outcome) (reply : Reply) : Prop where
  /-- There is one outcome. -/
  handed : reply.handed = [outcome]
  /-- A supported outcome is answered. -/
  answered : outcome.Supported → outcome.Answered reply.sent reply.counted reply.printed
  /-- Any other outcome is not. -/
  silent : ¬ outcome.Supported → reply.sent = []

/-- A state frame that echoes the type answers the requests for the state. -/
theorem Sends.of_state {packetType : UInt8} {data : Vector UInt8 2} (rp2040State : Rp2040State)
    (known : packetType = setMotorLevel ∨ packetType = getStateType) :
    Sends (.packet packetType data)
      ⟨first, [.packet packetType data], stateFrame packetType rp2040State, [], []⟩ := by
  have notLog : packetType ≠ getLog := by
    obtain rfl | rfl := known <;> decide
  refine ⟨rfl, fun _ => ?_, fun other => absurd ?_ other⟩
  · simp only [Outcome.Answered, if_neg notLog, if_pos known]
    exact ⟨rp2040State, rfl⟩
  · obtain rfl | rfl := known <;> simp [Outcome.Supported]

/-- `GET_LOG` is answered with a log frame. -/
theorem guards_handleGetLog (steady : Steady state) (request : packet.packetType = getLog)
    {handed : List Outcome} :
    collector.Guards ⟨first, handed, [], [], []⟩ ((handleGetLog packet).run state)
      fun final value => Steady value.2 ∧ ∃ dataSize payload,
        final = ⟨first, handed, logFrame dataSize payload, [dataSize], [payload]⟩ := by
  obtain ⟨⟨start, stop, size, logStart, logStop⟩, fresh⟩ := steady
  have low (value : UInt8) : value &&& 255 = value := UInt8.and_neg_one
  simp [handleGetLog, next, request]
  intro dataSize payload
  refine ⟨⟨⟨start, stop, size, logStart, logStop⟩, fresh⟩, ?_⟩
  simp [logFrame, logStart, logStop, bytes16, low]

/-- Setting the motor levels sends nothing to the host. -/
theorem guards_setMotorLevels {rp2040State : Rp2040State} {post : Reply → Unit → Prop}
    (holds : post reply ()) : collector.Guards reply (setMotorLevels rp2040State) post := by
  simpa [setMotorLevels, Drv8830.setMotorControl, next] using holds

/-- A packet is answered when its type is supported. -/
theorem guards_handlePacket (steady : Steady state) :
    collector.Guards ⟨first, [], [], [], []⟩ ((handlePacket packet).run state) fun final value =>
      Steady value.2 ∧ final.first = first ∧
        Sends (.packet packet.packetType packet.data) final := by
  simp only [handlePacket, StateT.run_bind, StateT.run_monadLift, monadLift_self,
    Monitor.guards_bind, Monitor.guards_act, Program.pure_def, Monitor.guards_done, true_and,
    Monitor.guards_run_ite]
  intro _
  split_ifs with log motor telemetry reset
  · refine (guards_handleGetLog steady log).mono fun final value ended => ?_
    obtain ⟨steady, dataSize, payload, rfl⟩ := ended
    refine ⟨steady, rfl, rfl, fun _ => ?_, fun other => absurd ?_ other⟩
    · simp only [Outcome.Answered, if_pos log]
      exact ⟨dataSize, payload, rfl, rfl, rfl⟩
    · simp [Outcome.Supported, log]
  · simp only [handleSetMotorLevel, StateT.run_bind, StateT.run_modify, StateT.run_get,
      StateT.run_monadLift, monadLift_self, Monitor.guards_bind, Program.pure_def,
      Monitor.guards_done]
    refine guards_setMotorLevels ((guards_sendState (steady.with_outgoing _ _)).mono ?_)
    rintro final value ⟨steady, data, rfl⟩
    exact ⟨steady, rfl, .of_state data (.inl motor)⟩
  · simp only [handleGetState, StateT.run_bind, StateT.run_modify, Monitor.guards_bind,
    Program.pure_def,
      Monitor.guards_done]
    refine (guards_sendState (steady.with_outgoing _ _)).mono ?_
    rintro final value ⟨steady, data, rfl⟩
    exact ⟨steady, rfl, .of_state data (.inr telemetry)⟩
  · refine ⟨steady, rfl, rfl, fun supported => ?_, fun _ => rfl⟩
    simp [Outcome.Supported, log, motor, telemetry] at supported
  · refine ⟨steady.with_outgoing _ _, rfl, rfl, fun supported => ?_, fun _ => rfl⟩
    simp [Outcome.Supported, log, motor, telemetry] at supported

/-- A NACK is one state frame. -/
theorem guards_resetPacketAndSendNack (steady : Steady state) :
    collector.Guards ⟨first, [], [], [], []⟩ (resetPacketAndSendNack.run state) fun final value =>
      Steady value.2 ∧ final.first = first ∧ Sends .nack final := by
  simp only [resetPacketAndSendNack, StateT.run_bind, StateT.run_modify, StateT.run_get,
    StateT.run_monadLift, monadLift_self, Monitor.guards_bind, Monitor.guards_act, true_and,
    Program.pure_def, Monitor.guards_done]
  have marked : Marked { state with
      startIdx := -1, endIdx := -1, incoming := .zero
      outgoing := { state.outgoing with packetType := nack } } :=
    ⟨steady.marked.start, steady.marked.stop, steady.marked.size, steady.marked.logStart,
      steady.marked.logStop⟩
  refine fun _ => guards_putBytes ⟨⟨marked, rfl⟩, rfl, rfl, fun _ => ?_, fun other => ?_⟩
  · exact ⟨state.outgoing.data, by rw [marked.bytes_eq]; rfl⟩
  · exact absurd trivial other

/-- After the loop a packet is handed over or a NACK is sent. -/
theorem guards_finishBlock (steady : Steady state) (started : state.startIdx = 0) (event) :
    collector.Guards ⟨some event, [], [], [], []⟩ (finishBlock.run state) fun final value =>
      Steady value.2 ∧ final.first = some event ∧ ∃ outcome, Sends outcome final := by
  rw [Reception.finishBlock_run started steady.fresh]
  refine ⟨trivial, fun (received : Option UInt8) => Monitor.guards_ite.mpr ?_⟩
  split_ifs with stop
  · refine Monitor.guards_bind.mpr ((guards_handlePacket steady).mono ?_)
    rintro final value ⟨steady, same, sends⟩
    exact ⟨steady.of_outgoing rfl rfl rfl, same, _, sends⟩
  · refine ⟨trivial, fun _ => (guards_resetPacketAndSendNack steady).mono ?_⟩
    rintro final value ⟨steady, same, sends⟩
    exact ⟨steady, same, _, sends⟩

/-- The loop sends nothing, unless a timeout makes it send a NACK. -/
theorem guards_readLoop {fuel : Nat} (count : Nat) (enough : 4 ≤ fuel + count) (few : count ≤ 3)
    (steady : Steady state) (started : state.startIdx = 0) (event) :
    collector.Guards ⟨some event, [], [], [], []⟩
      ((readLoop fuel (UInt16.ofNat count) (UInt8.ofNat count)).run state) fun final value =>
        Steady value.2 ∧ (value.1 = .left ∧ value.2.startIdx = 0 ∧
            final = ⟨some event, [], [], [], []⟩ ∨
          value.1 = .returned ∧ final.first = some event ∧ Sends .nack final) := by
  induction fuel generalizing count state with
  | zero => omega
  | succ fuel ih =>
    by_cases full : count = 3
    · subst full
      rw [Reception.readLoop_full]
      exact ⟨steady, .inl ⟨rfl, started, rfl⟩⟩
    · have room : count < 3 := by omega
      obtain ⟨incoming, _, same⟩ := Reception.readLoop_run room fuel state
      rw [same]
      refine ⟨trivial, fun (received : Option UInt8) => ?_⟩
      cases received with
      | none =>
        refine ⟨trivial, fun _ => Monitor.guards_bind.mpr
          ((guards_resetPacketAndSendNack steady).mono ?_)⟩
        rintro final value ⟨steady, same, sends⟩
        exact ⟨steady, .inr ⟨rfl, same, sends⟩⟩
      | some c =>
        exact ih (count + 1) (by omega) (by omega) (steady.of_outgoing rfl rfl steady.fresh) started

/-- A call of `get_block` that finds a start marker produces one outcome. -/
theorem guards_getBlock (steady : Steady state) :
    collector.Guards start (getBlock.run state) fun final value =>
      Steady value.2 ∧
        (final.first = some (some startMarker) → ∃ outcome, Sends outcome final) := by
  simp only [getBlock, StateT.run_bind, StateT.run_modify, StateT.run_monadLift, monadLift_self,
    Monitor.guards_bind, Monitor.guards_act, true_and, Program.pure_def, Monitor.guards_done,
    Monitor.guards_run_ite]
  intro _ c
  split_ifs with found
  · have started : Steady { state with startIdx := 0 } :=
      steady.of_outgoing rfl rfl steady.fresh
    refine (guards_readLoop 0 (by decide) (by decide) started rfl c).mono ?_
    rintro final ⟨loopEnd, later⟩ ⟨steady, ⟨rfl, started, rfl⟩ | ⟨rfl, same, sends⟩⟩
    · refine (guards_finishBlock steady started c).mono ?_
      rintro final value ⟨steady, _, sends⟩
      exact ⟨steady, fun _ => sends⟩
    · exact ⟨steady, fun _ => ⟨_, sends⟩⟩
  · exact ⟨steady, fun same => absurd (Option.some.inj same) found⟩

/-- Rounds of the loop in `main` keep the statics steady. -/
theorem serve_steady {rounds : Nat} {trace : List (Event Ans)} {final : SerialState}
    (steady : Steady state) (run : (serve rounds state).Runs trace (.done final)) :
    Steady final := by
  induction rounds generalizing state trace with
  | zero =>
    obtain ⟨_, same⟩ := run.of_done
    obtain rfl := Program.done.inj same
    exact steady
  | succ rounds ih =>
    obtain ⟨middle, round, later, once, others, _⟩ := run.bind_done
    obtain ⟨⟨_, after⟩, call, wait, whole, slept, _⟩ := once.bind_done
    obtain ⟨_, _, _, _, ended, _⟩ := slept.bind_done
    obtain ⟨_, same⟩ := ended.of_done
    obtain rfl := Program.done.inj same
    exact ih ((guards_getBlock steady).ends whole).1 others

end Reply

open Reply (collector)

/-- A call of `get_block` that finds a start marker and returns has one outcome of the reference
scanner, and sends exactly one complete frame of the right kind for it if and only if it is a
NACK or a packet of a supported type. -/
theorem answered_iff_supported {rp2040State : Rp2040State} {rounds : Nat}
    {prior trace : List (Event Ans)} {state final : SerialState}
    (reached : (receiver rp2040State rounds).Runs prior (.done state))
    (returned : (getBlock.run state).Runs trace (.done ((), final)))
    (attempt : (inputs trace).head? = some (some startMarker)) :
    ∃ outcome, Scanner.idle.outcomes (inputs trace) = [outcome] ∧
      (outcome.Answered (sentBytes trace) (counts trace) (prints trace) ↔ outcome.Supported) := by
  have steady : Reply.Steady state :=
    Reply.serve_steady ⟨init_marked rp2040State .static, rfl⟩ reached
  obtain ⟨_, one⟩ := (Reply.guards_getBlock steady).ends returned
  have collected : collector.after Reply.start trace =
      ⟨(inputs trace).head?, handovers trace, sentBytes trace, counts trace, prints trace⟩ := by
    rw [Reply.after_eq]
    simp [Reply.start]
  rw [collected] at one
  obtain ⟨outcome, handed, answered, silent⟩ := one attempt
  have between : Reception.start.Between state := ⟨⟨rfl, rfl, rfl⟩, steady.fresh⟩
  obtain ⟨accepted, resting⟩ := (Reception.guards_getBlock between).run returned
  have produced := (Reception.accounts accepted).2.1
  have nothing : (Reception.monitor.after Reception.start trace).due =
      none := resting.resting.produced
  rw [nothing, Option.toList_none, List.append_nil] at produced
  refine ⟨outcome, produced.symm.trans handed, fun replied => ?_, answered⟩
  by_contra unsupported
  have unsent : sentBytes trace = [] := silent unsupported
  rw [unsent] at replied
  exact outcome.not_answered_nil replied

end RobotFirmware
