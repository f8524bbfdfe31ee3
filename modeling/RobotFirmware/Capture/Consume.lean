import RobotFirmware.Structure.Lines
import RobotFirmware.Capture.Attached

/-!
# The lines that the capture tool passes on

`consume_uart_lines` reads chunks, splits what it has into lines and passes them to the callback of
the phase, until the callback accepts or the deadline passes. What it has not passed on by then it
keeps in locals, which are gone when it returns. `run_interactive_cycles` calls it once for each
phase.

A run is given by what each poll of the serial line yields until the end, where nothing may be
there. Calls return one after the other, and only the last one may end without being accepted, so
its deadline is the end of the polls. Decoding is that of ASCII.
-/

namespace RobotFirmware

open Text

namespace Capture

/-- A byte of the log. -/
structure Ascii where
  /-- Its value. -/
  byte : UInt8
  /-- It is ASCII. -/
  isAscii : byte < 128

/-- `decode("utf-8", "replace")`. -/
def decode (chunk : List Ascii) : Str := chunk.map fun ascii => Char.ofUInt8 ascii.byte

/-- The ASCII characters of a text as bytes. -/
def encode (text : Str) : List Ascii :=
  text.filterMap fun c => if ascii : c.toUInt8 < 128 then some ⟨c.toUInt8, ascii⟩ else none

/-- `pending = lines.pop()`: the last line is kept back unless it ends with a line feed or a
carriage return. -/
def popPending (lines : List Str) : List Str × Str :=
  match lines.getLast? with
  | none => (lines, [])
  | some last =>
    if last.getLast? = some '\n' ∨ last.getLast? = some '\r' then (lines, [])
    else (lines.dropLast, last)

/-- The loop over the lines of a chunk. -/
structure Passing (σ : Type) where
  /-- The lines passed to the callback. -/
  passed : List Str
  /-- What the callback remembers. -/
  status : σ
  /-- Whether the callback accepted. -/
  accepted : Bool
  /-- The lines that the loop did not reach. -/
  rest : List Str

/-- Pass lines to the callback until it accepts. -/
def passLines {σ : Type} (callback : σ → Str → σ × Bool) : σ → List Str → Passing σ
  | status, [] => ⟨[], status, false, []⟩
  | status, rawLine :: lines =>
    let line := strip rawLine
    if line.isEmpty then passLines callback status lines
    else
      let (status, accepted) := callback status line
      if accepted then ⟨[line], status, true, lines⟩
      else
        let later := passLines callback status lines
        { later with passed := line :: later.passed }

/-- A call of `consume_uart_lines`. -/
structure Reading (σ : Type) where
  /-- The lines passed to the callback. -/
  passed : List Str
  /-- The text that it returns. -/
  text : Str
  /-- Whether the callback accepted. -/
  accepted : Bool
  /-- What the callback remembers. -/
  status : σ
  /-- What its locals hold when it returns: lines it did not pass on, and a line kept back. -/
  left : Str
  /-- The polls after it. -/
  polls : List (List Ascii)

/-- The loop in `consume_uart_lines`. -/
def consumeUartLines {σ : Type} (callback : σ → Str → σ × Bool) :
    σ → Str → List (List Ascii) → Reading σ
  | status, pending, [] => ⟨[], [], false, status, pending, []⟩
  | status, pending, chunk :: polls =>
    if chunk.isEmpty then consumeUartLines callback status pending polls
    else
      let (lines, pending) := popPending (splitlines true (pending ++ decode chunk))
      let passing := passLines callback status lines
      if passing.accepted then
        ⟨passing.passed, decode chunk, true, passing.status, passing.rest.flatten ++ pending, polls⟩
      else
        let later := consumeUartLines callback passing.status pending polls
        { later with passed := passing.passed ++ later.passed, text := decode chunk ++ later.text }

/-! ## The phases -/

/-- `saw_startup`. -/
def sawStartup (_ : Unit) (line : Str) : Unit × Bool :=
  ((), occursIn "on_start complete".toList line)

/-- `wait_for_startup`. -/
def waitForStartup (polls : List (List Ascii)) : Reading Unit :=
  consumeUartLines sawStartup () [] polls

/-- The `status` of `wait_for_detach`. -/
structure DetachStatus where
  /-- `vbus_off`. -/
  vbusOff : Bool
  /-- `detached`. -/
  detached : Bool
  /-- `last_role`. -/
  lastRole : Option Str

/-- `saw_detach`. -/
def sawDetach (status : DetachStatus) (line : Str) : DetachStatus × Bool :=
  let status := if occursIn vbusOffText line then { status with vbusOff := true } else status
  let status :=
    if occursIn " pcb_power=".toList line || occursIn "state=".toList line then
      let role := parseRoleLine line
      { status with
        lastRole := some line
        detached := status.detached || role.state = some 0 ||
          role.pcbPower = some "UNKNOWN".toList }
    else status
  (status, status.detached && status.vbusOff)

/-- `wait_for_detach`. -/
def waitForDetach (polls : List (List Ascii)) : Reading DetachStatus :=
  consumeUartLines sawDetach ⟨false, false, none⟩ [] polls

/-- `wait_for_reattach`. -/
def waitForReattach (polls : List (List Ascii)) : Reading AttachStatus :=
  consumeUartLines sawDesired .initial [] polls

/-- What a call leaves to say about the lines. -/
structure Call where
  /-- The lines passed to the callback. -/
  passed : List Str
  /-- The text read. -/
  text : Str
  /-- What its locals held when it returned. -/
  left : Str

/-- The call of a reading. -/
def Reading.call {σ : Type} (reading : Reading σ) : Call := ⟨reading.passed, reading.text,
    reading.left⟩

/-- The calls of a run of `run_interactive_cycles`, with its return code. -/
structure Session where
  /-- The calls of `consume_uart_lines`, in order. -/
  calls : List Call
  /-- The last value returned. -/
  code : Nat

/-- One more call before a session. -/
def Session.after (session : Session) (call : Call) : Session :=
  { session with calls := call :: session.calls }

/-- The loop over the cycles. -/
def runCycles : Nat → List (List Ascii) → Session
  | 0, _ => ⟨[], 0⟩
  | cycles + 1, polls =>
    let detach := waitForDetach polls
    if !detach.accepted then ⟨[detach.call], 1⟩
    else
      let attach := waitForReattach detach.polls
      if !attach.accepted then ⟨[detach.call, attach.call], 1⟩
      else ((runCycles cycles attach.polls).after attach.call).after detach.call

/-- `run_interactive_cycles`. -/
def runInteractiveCycles (cycles : Nat) (polls : List (List Ascii)) : Session :=
  let startup := waitForStartup polls
  if !startup.accepted then ⟨[startup.call], 1⟩
  else if (desiredBaselineFromText startup.text).1 then
    (runCycles cycles startup.polls).after startup.call
  else
    let baseline := waitForReattach startup.polls
    if !baseline.accepted then ⟨[startup.call, baseline.call], 1⟩
    else ((runCycles cycles baseline.polls).after baseline.call).after startup.call

/-- The text that `run_interactive_cycles` returns. -/
def Session.text (session : Session) : Str := (session.calls.map Call.text).flatten

/-- The lines passed to the callbacks, in order. -/
def Session.passed (session : Session) : List Str := (session.calls.map Call.passed).flatten

end Capture

end RobotFirmware
