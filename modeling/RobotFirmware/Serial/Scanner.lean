import RobotFirmware.SerialCommManager

/-!
# The reference scanner

What the receiver is for, as an automaton over received bytes and timeouts: idle until a start
marker, then a type, two data bytes and an end marker. The first timeout or a wrong end marker
gives a NACK and the scanner is idle again.

Data bytes are not escaped, so a scanner that starts in the middle of a frame may take a data
byte for a start marker. A frame without such a data byte brings it back to the frame
boundary, wherever it was.
-/

namespace RobotFirmware

/-- What the receiver does at the end of a reception. -/
inductive Outcome where
  /-- The packet is handed over. -/
  | packet (packetType : UInt8) (data : Vector UInt8 2)
  /-- A NACK is sent. -/
  | nack
  deriving DecidableEq

/-- Where the scanner stands in a frame. -/
inductive Scanner where
  /-- Before a start marker. -/
  | idle
  /-- Before the packet type. -/
  | type
  /-- Before the first data byte. -/
  | first (packetType : UInt8)
  /-- Before the second data byte. -/
  | second (packetType data0 : UInt8)
  /-- Before the end marker. -/
  | last (packetType data0 data1 : UInt8)
  deriving DecidableEq

namespace Scanner

/-- A byte, or a timeout, is taken in. -/
def next : Scanner → Option UInt8 → Scanner
  | .idle, input => if input = some startMarker then .type else .idle
  | .type, some c => .first c
  | .first packetType, some c => .second packetType c
  | .second packetType data0, some c => .last packetType data0 c
  | .type, none => .idle
  | .first _, none => .idle
  | .second _ _, none => .idle
  | .last _ _ _, _ => .idle

/-- What taking it in leads to. -/
def outcome? : Scanner → Option UInt8 → Option Outcome
  | .idle, _ => none
  | .last packetType data0 data1, input =>
    some (if input = some endMarker then .packet packetType #v[data0, data1] else .nack)
  | _, some _ => none
  | _, none => some .nack

/-- Where a sequence of inputs leads. -/
def after (scanner : Scanner) (inputs : List (Option UInt8)) : Scanner := inputs.foldl next scanner

/-- The outcomes of a sequence of inputs. -/
def outcomes : Scanner → List (Option UInt8) → List Outcome
  | _, [] => []
  | scanner, input :: inputs => (scanner.outcome? input).toList ++ outcomes
    (scanner.next input) inputs

/-- Nothing moves the scanner. -/
@[simp] theorem after_nil (scanner : Scanner) : scanner.after [] = scanner := rfl

/-- The first input moves it first. -/
@[simp] theorem after_cons (scanner : Scanner) (input : Option UInt8)
    (inputs : List (Option UInt8)) :
    scanner.after (input :: inputs) = (scanner.next input).after inputs := rfl

/-- Nothing has no outcome. -/
@[simp] theorem outcomes_nil (scanner : Scanner) : scanner.outcomes [] = [] := rfl

/-- The outcome of the first input comes first. -/
@[simp] theorem outcomes_cons (scanner : Scanner) (input : Option UInt8)
    (inputs : List (Option UInt8)) :
    scanner.outcomes (input :: inputs) =
      (scanner.outcome? input).toList ++ (scanner.next input).outcomes inputs := rfl

/-- Inputs are taken in pieces. -/
theorem after_append (scanner : Scanner) (first later : List (Option UInt8)) :
    scanner.after (first ++ later) = (scanner.after first).after later :=
  List.foldl_append

/-- The outcomes of the pieces follow each other. -/
theorem outcomes_append (scanner : Scanner) (first later : List (Option UInt8)) :
    scanner.outcomes (first ++ later) =
      scanner.outcomes first ++ (scanner.after first).outcomes later := by
  induction first generalizing scanner with
  | nil => rfl
  | cons input first ih => simp only [List.cons_append, outcomes_cons, ih, after_cons,
      List.append_assoc]

end Scanner

/-- A frame of the host. -/
structure Frame where
  /-- The packet type. -/
  packetType : UInt8
  /-- The first data byte. -/
  data0 : UInt8
  /-- The second data byte. -/
  data1 : UInt8
  /-- The type is one of the four known ones. -/
  known : packetType ≤ 3

namespace Frame

/-- The bytes of a frame. -/
def bytes (frame : Frame) : List UInt8 :=
  [startMarker, frame.packetType, frame.data0, frame.data1, endMarker]

/-- The frame as the receiver hands it over. -/
def handedOver (frame : Frame) : Outcome := .packet frame.packetType #v[frame.data0, frame.data1]

/-- No data byte looks like a start marker. -/
def Plain (frame : Frame) : Prop := frame.data0 ≠ startMarker ∧ frame.data1 ≠ startMarker

instance (frame : Frame) : Decidable frame.Plain := inferInstanceAs (Decidable (_ ∧ _))

/-- The frames behind the first plain one. -/
def behindPlain (frames : List Frame) : List Frame :=
  (frames.dropWhile fun frame => !decide frame.Plain).tail

/-- The bytes of frames sent back to back, as inputs. -/
def inputs (frames : List Frame) : List (Option UInt8) := (frames.flatMap bytes).map some

/-- A known type is no start marker. -/
theorem type_ne_start (frame : Frame) : frame.packetType ≠ startMarker := by
  intro same
  have known := frame.known
  rw [same] at known
  exact absurd known (by decide)

/-- A frame brings an idle scanner back to idle. -/
theorem after_idle (frame : Frame) : Scanner.idle.after (frame.bytes.map some) = .idle := by
  simp [bytes, Scanner.next]

/-- An idle scanner hands a frame over. -/
theorem outcomes_idle (frame : Frame) :
    Scanner.idle.outcomes (frame.bytes.map some) = [frame.handedOver] := by
  simp [bytes, Scanner.next, Scanner.outcome?, handedOver]

/-- A frame without a start marker among its data brings every scanner to the frame boundary. -/
theorem Plain.after {frame : Frame} (plain : frame.Plain) (scanner : Scanner) :
    scanner.after (frame.bytes.map some) = .idle := by
  have apart : endMarker ≠ startMarker := by decide
  cases scanner <;>
    simp [bytes, Scanner.next, plain.1, plain.2, frame.type_ne_start, apart]

/-- An idle scanner hands over every frame, in order. -/
theorem outcomes_frames (frames : List Frame) :
    Scanner.idle.outcomes (inputs frames) = frames.map handedOver := by
  induction frames with
  | nil => rfl
  | cons frame frames ih =>
    have split : inputs (frame :: frames) = frame.bytes.map some ++ inputs frames := by
      simp [inputs]
    rw [split, Scanner.outcomes_append, outcomes_idle, after_idle, ih]
    rfl

end Frame

/-- After any inputs, every frame behind a plain one is handed over. -/
theorem Scanner.outcomes_plain (scanner : Scanner) (earlier : List (Option UInt8)) {frame : Frame}
    (plain : frame.Plain) (later : List Frame) :
    ∃ before, scanner.outcomes (earlier ++ Frame.inputs (frame :: later)) =
      before ++ later.map Frame.handedOver := by
  have split : earlier ++ Frame.inputs (frame :: later) =
      (earlier ++ frame.bytes.map some) ++ Frame.inputs later := by
    simp [Frame.inputs]
  refine ⟨scanner.outcomes (earlier ++ frame.bytes.map some), ?_⟩
  rw [split, outcomes_append, after_append, plain.after, Frame.outcomes_frames]

/-- After any inputs, every frame behind the first plain one is handed over. -/
theorem Scanner.outcomes_behindPlain (scanner : Scanner) (earlier : List (Option UInt8))
    (frames : List Frame) :
    ∃ before, scanner.outcomes (earlier ++ Frame.inputs frames) =
      before ++ (Frame.behindPlain frames).map Frame.handedOver := by
  unfold Frame.behindPlain
  cases found : frames.dropWhile fun frame => !decide frame.Plain with
  | nil => exact ⟨_, (List.append_nil _).symm⟩
  | cons frame later =>
    have plain : frame.Plain := by
      have stopped := List.head_dropWhile_not (fun frame : Frame => !decide frame.Plain)
        (l := frames) (by simp [found])
      simpa [found] using stopped
    obtain ⟨skipped, split⟩ := List.dropWhile_suffix (fun frame : Frame => !decide frame.Plain)
      (l := frames)
    rw [found] at split
    have inputs : earlier ++ Frame.inputs frames =
        (earlier ++ Frame.inputs skipped) ++ Frame.inputs (frame :: later) := by
      simp [← split, Frame.inputs]
    rw [inputs]
    exact scanner.outcomes_plain _ plain later

end RobotFirmware
