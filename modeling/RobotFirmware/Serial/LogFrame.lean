import RobotFirmware.Rp2040Log
import RobotFirmware.SerialCommManager

/-!
# The frame of the log

`handle_packet` answers `GET_LOG` with a header that states the number of log bytes, the bytes
that `rp2040_log_flush` prints, and an end marker. It holds the lock of the log from the count
to the flush, so that both see the log after the same history of messages and earlier requests.
-/

namespace RobotFirmware

open Interaction
open CircularBufferLog (History kept)

/-- The markers and the size that `serial_comm_manager_init` stores in the outgoing packets. -/
structure Marked (state : SerialState) : Prop where
  /-- The start marker of a state frame. -/
  start : state.outgoing.startMarker = startMarker
  /-- The end marker of a state frame. -/
  stop : state.outgoing.endMarker = endMarker
  /-- The size in a state frame. -/
  size : state.outgoing.dataSize = UInt16.ofNat Rp2040State.size
  /-- The start marker of a log frame. -/
  logStart : state.outgoingLog.startMarker = startMarker
  /-- The end marker of a log frame. -/
  logStop : state.outgoingLog.endMarker = endMarker

/-- Start-up marks the packets. -/
theorem init_marked (rp2040State : Rp2040State) (state : SerialState) :
    Marked (serialCommManagerInit rp2040State state) := ⟨rfl, rfl, rfl, rfl, rfl⟩

/-- The bytes that an operation sends to the host. -/
def Op.sent : (op : Op) → Ans op → List UInt8
  | .putchar c, _ => [c]
  | .rp2040LogFlush, printed => printed
  | _, _ => []

/-- The bytes that a trace sends to the host. -/
def sentBytes (trace : List (Event Ans)) : List UInt8 :=
  trace.flatMap fun event => event.op.sent event.answer

/-- Answers from a log with a history; the operations that `GET_LOG` does not need have none. -/
def logAnswer (history : History) : (op : Op) → Option (Ans op × History)
  | .enter _ => some ((), history)
  | .putchar _ => some ((), history)
  | .rp2040LogAcquireLock => some ((), history)
  | .rp2040LogReleaseLock => some ((), history)
  | .rp2040GetByteCount => some (history.log.rp2040GetByteCount, history)
  | .rp2040LogFlush => some (history.log.rp2040LogFlush.1, history.flush)
  | _ => none

/-- The reply to a request when the log has the given history. -/
def replyWithLog (packet : IncomingPacketFromAndroid) (state : SerialState) (history : History) :
    List UInt8 :=
  sentBytes (((handlePacket packet).run state).drive logAnswer history).1

/-- A log frame whose header states the number of log bytes before the end marker. -/
def LogFramed (reply : List UInt8) : Prop :=
  ∃ (dataSize : UInt16) (payload : List UInt8),
    reply = startMarker :: getLog :: bytes16 dataSize ++ payload ++ [endMarker] ∧
      dataSize.toNat = payload.length

/-- The two bytes of a size determine it. -/
theorem bytes16_injective {first second : UInt16} (same : bytes16 first = bytes16 second) :
    first = second := by
  simp only [bytes16, List.cons.injEq, and_true] at same
  obtain ⟨low, high⟩ := same
  have lowNat := congrArg UInt8.toNat low
  have highNat := congrArg UInt8.toNat high
  simp only [UInt16.toNat_toUInt8, UInt16.toNat_shiftRight] at lowNat highNat
  apply UInt16.toNat_inj.mp
  have firstSmall := first.toNat_lt
  have secondSmall := second.toNat_lt
  simp [Nat.shiftRight_eq_div_pow] at highNat
  omega

/-- A log frame is well formed when its header states the length of its payload. -/
theorem logFramed_iff (dataSize : UInt16) (payload : List UInt8) :
    LogFramed (startMarker :: getLog :: bytes16 dataSize ++ payload ++ [endMarker]) ↔
      dataSize.toNat = payload.length := by
  constructor
  · rintro ⟨found, rest, same, framed⟩
    simp only [List.cons_append, List.cons.injEq, true_and, List.append_assoc] at same
    obtain ⟨sizes, payloads⟩ := List.append_inj same rfl
    obtain rfl := bytes16_injective sizes
    obtain rfl := List.append_cancel_right payloads
    exact framed
  · exact fun framed => ⟨dataSize, payload, rfl, framed⟩

section Replies

variable {state : SerialState} {packet : IncomingPacketFromAndroid}

/-- The reply to `GET_LOG`: a header with the count, what the flush prints, an end marker. -/
theorem replyWithLog_eq (marked : Marked state) (request : packet.packetType = getLog)
    (history : History) :
    replyWithLog packet state history =
      startMarker :: getLog :: bytes16 history.log.rp2040GetByteCount ++
        history.log.rp2040LogFlush.1 ++ [endMarker] := by
  have low (value : UInt8) : value &&& 255 = value := UInt8.and_neg_one
  simp [replyWithLog, handlePacket, request, handleGetLog, Program.act, Program.drive, logAnswer,
    sentBytes, Op.sent, marked.logStart, marked.logStop, bytes16, low]

/-- The header states the number of log bytes exactly when every slot of the log has been used
and the log bytes fit into 16 bits. -/
theorem getLog_framed_iff (marked : Marked state) (request : packet.packetType = getLog)
    (history : History) (noNul : ∀ text ∈ history.texts, 0 ∉ text) :
    LogFramed (replyWithLog packet state history) ↔
      logBufferLineCount ≤ history.texts.length ∧
        (history.stored.map fun text => min text.length 127).sum < 65536 := by
  rw [replyWithLog_eq marked request, logFramed_iff, history.count_eq_flush_length noNul]
  simp only [kept, List.length_take, min_comm]
  rfl

end Replies

/-- The request for the log. -/
def getLogRequest : IncomingPacketFromAndroid :=
  { IncomingPacketFromAndroid.zero with
    startMarker := startMarker, packetType := getLog, endMarker := endMarker }

/-- The same message, logged again and again. -/
def repeated (text : List UInt8) : Nat → History
  | 0 => .start
  | count + 1 => .message (repeated text count) text

/-- It is the only one. -/
theorem texts_repeated (text : List UInt8) (count : Nat) :
    (repeated text count).texts = .replicate count text := by
  induction count with
  | zero => rfl
  | succ count ih => rw [repeated, History.texts, ih, ← List.replicate_succ']

/-- After two thousand messages every slot has been used, and the announced size is right. -/
theorem getLog_framed_iff_repeated :
    LogFramed (replyWithLog getLogRequest (serialCommManagerInit .zero .static)
      (repeated [111, 110, 10] 2000)) := by
  have texts := texts_repeated [111, 110, 10] 2000
  have noNul : ∀ text ∈ (repeated [111, 110, 10] 2000).texts, 0 ∉ text := by
    intro text member
    obtain rfl := List.eq_of_mem_replicate (texts ▸ member)
    decide
  refine (getLog_framed_iff (init_marked _ _) rfl _ noNul).mpr ⟨?_, ?_⟩
  · rw [texts, List.length_replicate]
    decide
  · rw [History.stored, texts, List.length_replicate, List.drop_replicate, List.map_replicate,
      List.sum_replicate_nat]
    decide

/-- A log that holds one message of `on_start`. -/
def onStart : History := .message .start [111, 110, 95, 115, 116, 97, 114, 116, 10]

/-- Not every history gives a frame whose header states the number of log bytes: one message
is announced as 64518 bytes. -/
theorem getLog_misframed :
    ¬ ∀ (state : SerialState) (packet : IncomingPacketFromAndroid) (history : History),
      Marked state → packet.packetType = getLog → (∀ text ∈ history.texts, 0 ∉ text) →
      LogFramed (replyWithLog packet state history) := by
  intro framed
  have misframed := framed _ getLogRequest onStart (init_marked .zero .static) rfl (by decide)
  rw [replyWithLog_eq (init_marked _ _) rfl, logFramed_iff,
    onStart.count_eq_flush_length (by decide)] at misframed
  exact absurd misframed.1 (by decide)

end RobotFirmware
