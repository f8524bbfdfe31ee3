import RobotFirmware.Serial.Reception

/-!
# The receiver refines the reference scanner

Any number of calls of `get_block`, on any bytes and timeouts, hands over and refuses exactly
what the reference scanner does. It follows where the receiver finds the frames of a host
that sends them back to back.
-/

namespace RobotFirmware

open Interaction

/-- A program that waits for the next event, or has returned. -/
def AwaitsInput {α : Type} (program : Firmware α) : Prop :=
  program.isDone = true ∨ ∃ us, program.next? = some (.getcharTimeoutUs us)

/-- What `main` runs after start-up: some calls of `get_block`. -/
def receiver (rp2040State : Rp2040State) (rounds : Nat) : Firmware SerialState :=
  serve rounds (serialCommManagerInit rp2040State .static)

variable {rp2040State : Rp2040State} {rounds : Nat} {trace : List (Event Ans)}
  {rest : Firmware SerialState}

/-- A run of the receiver is accepted, and what is left of it is guarded. -/
theorem receiver_run (run : (receiver rp2040State rounds).Runs trace rest) :
    Reception.monitor.Accepts .start trace ∧
      Reception.monitor.Guards (Reception.monitor.after .start trace) rest Reception.Between :=
  (Reception.guards_serve rounds (Reception.start_between rp2040State)).run run

/-- A program that waits has produced every outcome and written every motor level, if it comes
to rest so. -/
theorem awaits_settled {α : Type} {reception : Reception} {program : Firmware α}
    {post : Reception → α → Prop} (guards : Reception.monitor.Guards reception program post)
    (rests : ∀ final value, post final value → final.Resting) (awaits : AwaitsInput program) :
    reception.due = none ∧ reception.levels = [] := by
  cases program with
  | done value =>
    have resting := rests _ _ guards
    exact ⟨resting.produced, resting.written⟩
  | perform op resume =>
    obtain returned | ⟨us, next⟩ := awaits
    · cases returned
    · obtain rfl : op = .getcharTimeoutUs us := Option.some.inj next
      obtain ⟨produced, written, _⟩ := guards.1
      exact ⟨produced, written⟩

/-- Within a call, the reads are counted. -/
theorem Reception.next_taken {reception : Reception} {op : Op} (answer : Ans op)
    (same : op ≠ .enter .getBlock) :
    (reception.next op answer).taken = reception.taken + (op.input? answer).toList.length := by
  cases op with
  | enter call => cases call <;> first | rfl | exact absurd rfl same
  | i2cWriteTimeoutUs => simp [next, apply_ite Reception.taken, Op.input?]
  | i2cWriteBlocking => simp [next, apply_ite Reception.taken, Op.input?]
  | _ => rfl

/-- Within a call, the reads never exceed the most. -/
theorem Reception.taken_le {reception : Reception} {call : List (Event Ans)}
    (accepted : monitor.Accepts reception call)
    (same : ∀ event ∈ call, event.op ≠ .enter .getBlock) (room : reception.taken ≤ maxTaken) :
    reception.taken + (inputs call).length ≤ maxTaken := by
  induction call generalizing reception with
  | nil => exact room
  | cons event call ih =>
    obtain ⟨allowed, later⟩ := accepted
    obtain ⟨op, answer⟩ := event
    have counted : (reception.next op answer).taken =
        reception.taken + (op.input? answer).toList.length :=
      next_taken answer (same _ List.mem_cons_self)
    have split : inputs (⟨op, answer⟩ :: call) = (op.input? answer).toList ++ inputs call :=
      filterMap_cons_toList _ _ _
    have few : (reception.next op answer).taken ≤ maxTaken := by
      rw [counted]
      cases op with
      | getcharTimeoutUs us => exact allowed.2.2
      | _ => exact room
    have rounds : (reception.next op answer).taken + (inputs call).length ≤ maxTaken :=
      ih later (fun event member => same event (List.mem_cons_of_mem _ member)) few
    rw [split, List.length_append]
    omega

/-- The calls of `handle_packet` and the NACKs are those of the reference scanner, except for
one that is still being produced; no byte is stored outside `data`; and no call of `get_block`
reads more than five events. -/
theorem receiver_refines_scanner (run : (receiver rp2040State rounds).Runs trace rest) :
    (∃ due : Option Outcome,
      handovers trace ++ due.toList = Scanner.idle.outcomes (inputs trace) ∧
        (AwaitsInput rest → due = none)) ∧
    (∀ event ∈ trace, ∀ index, event.op ≠ .strayStore index) ∧
    ∀ first call, trace = first ++ ⟨.enter .getBlock, ()⟩ :: call →
      (∀ event ∈ call, event.op ≠ .enter .getBlock) → (inputs call).length ≤ 5 := by
  obtain ⟨accepted, guards⟩ := receiver_run run
  refine ⟨⟨_, (Reception.accounts accepted).2.1, fun awaits =>
    (awaits_settled guards (fun _ _ => Reception.Between.resting) awaits).1⟩, ?_, ?_⟩
  · intro event member index stray
    obtain ⟨reached, allowed⟩ := accepted.allowed member
    rw [stray] at allowed
    exact allowed
  · rintro first call rfl same
    obtain ⟨_, _, later⟩ := (Monitor.accepts_append _ _ _ _).mp accepted
    have few := Reception.taken_le later same (Nat.zero_le _)
    simpa [Reception.next, Reception.maxTaken] using few

/-! ## Runs on a script of inputs -/

/-- Answers from a list of inputs, and for motor drivers that accept every level. -/
def script : List (Option UInt8) → (op : Op) → Option (Ans op × List (Option UInt8))
  | c :: later, .getcharTimeoutUs _ => some (c, later)
  | later, .enter _ => some ((), later)
  | later, .putchar _ => some ((), later)
  | later, .rp2040Log .. => some ((), later)
  | later, .sleepMs _ => some ((), later)
  | later, .i2cWriteBlocking _ _ src _ => some (src.length, later)
  | _, _ => none

/-- Answers from a list of inputs, and for devices that acknowledge every transfer. -/
def acknowledging : List (Option UInt8) → (op : Op) → Option (Ans op × List (Option UInt8))
  | later, .i2cWriteTimeoutUs _ _ src _ => some ((src.length : Int), later)
  | later, .i2cReadTimeoutUs _ _ len _ => some (((len : Int), .replicate len 0x10), later)
  | later, .cexceptionTry => some ((), later)
  | later, .load _ => some (false, later)
  | later, .gpioGet _ => some (false, later)
  | later, .adcSelectInput _ => some ((), later)
  | later, .adcRead => some ((7 : UInt16), later)
  | later, .quadratureEncoderGetCount _ => some ((5 : Int32), later)
  | later, .strayRead _ => some ((0xAB : UInt8), later)
  | later, op => script later op

/-- A call of `get_block` after some rounds of the loop in `main`. -/
def callAfter (rounds : Nat) (earlier received : List (Option UInt8)) :
    List (Event Ans) × Firmware (Unit × SerialState) × List (Option UInt8) :=
  let served := (receiver .zero rounds).drive acknowledging earlier
  (getBlock.run (served.2.1.valueD .static)).drive acknowledging received

/-- The call is one from a state that is reached. -/
theorem callAfter_runs (rounds : Nat) (earlier received : List (Option UInt8))
    (returned : ((receiver .zero rounds).drive acknowledging earlier).2.1.isDone = true) :
    ∃ prior state, (receiver .zero rounds).Runs prior (.done state) ∧
      (getBlock.run state).Runs (callAfter rounds earlier received).1
        (callAfter rounds earlier received).2.1 := by
  have run := Program.drive_runs acknowledging earlier (receiver .zero rounds)
  rw [Program.eq_done_valueD returned .static] at run
  exact ⟨_, _, run, Program.drive_runs acknowledging received _⟩

/-- A frame whose type only resets the state is handed over as it came. -/
theorem receiver_refines_scanner_resetState :
    let trace := ((receiver .zero 1).drive script [some 0xFE, some 2, some 0xFE, some 7, some
      0xFF]).1
    handovers trace = [.packet 2 #v[0xFE, 7]] ∧
      ∃ due : Option Outcome, handovers trace ++ due.toList =
        Scanner.idle.outcomes (inputs trace) := by
  refine ⟨by decide, ?_⟩
  obtain ⟨⟨due, same, _⟩, _⟩ := receiver_refines_scanner
    (Program.drive_runs script [some 0xFE, some 2, some 0xFE, some 7, some 0xFF] (receiver .zero 1))
  exact ⟨due, same⟩

/-! ## Resynchronisation -/

/-- After any garbage, all but at most `lost` frames sent back to back are handed over. -/
def Resynchronises (lost : Nat) : Prop :=
  ∀ (rp2040State : Rp2040State) (rounds : Nat) (garbage : List UInt8) (frames : List Frame)
    (trace : List (Event Ans)) (rest : Firmware SerialState),
    (receiver rp2040State rounds).Runs trace rest → AwaitsInput rest →
    inputs trace = garbage.map some ++ Frame.inputs frames →
    ∃ received : List Frame, received.Sublist frames ∧
      (received.map Frame.handedOver).Sublist (handovers trace) ∧
      frames.length ≤ received.length + lost

/-- Every frame behind the first one without a start marker among its data is handed over. -/
theorem receiver_resynchronises (run : (receiver rp2040State rounds).Runs trace rest)
    (awaits : AwaitsInput rest) (garbage : List UInt8) (frames : List Frame)
    (received : inputs trace = garbage.map some ++ Frame.inputs frames) :
    ∃ before, handovers trace =
      before ++ (Frame.behindPlain frames).map Frame.handedOver := by
  obtain ⟨accepted, guards⟩ := receiver_run run
  have produced := (Reception.accounts accepted).2.1
  rw [(awaits_settled guards (fun _ _ => Reception.Between.resting) awaits).1, received,
    Option.toList_none, List.append_nil] at produced
  rw [produced]
  exact Scanner.outcomes_behindPlain _ _ frames

/-- A start marker as garbage spoils the first of three frames; the frame behind the plain one
is handed over. -/
theorem receiver_resynchronises_third :
    let frames : List Frame :=
      [⟨2, 0xFE, 7, by decide⟩, ⟨2, 7, 9, by decide⟩, ⟨2, 1, 2, by decide⟩]
    let trace := ((receiver .zero 9).drive script ([some 0xFE] ++ Frame.inputs frames)).1
    ∃ before, handovers trace = before ++ [.packet 2 #v[1, 2]] := by
  intro frames trace
  have run := Program.drive_runs script ([some 0xFE] ++ Frame.inputs frames) (receiver .zero 9)
  exact receiver_resynchronises run (.inr ⟨100, rfl⟩) [0xFE] frames (by decide)

/-- A host that sets the left motor to full speed again and again. -/
def fullSpeed : Frame := ⟨setMotorLevel, 0xFE, 0x00, by decide⟩

/-- The inputs of a call that takes the left motor's level for a start marker. -/
def misread : List (Option UInt8) := [some 0xFE, some 0x00, some 0xFF, some 0xFE, some 0x01]

/-- The serial protocol after a NACK. -/
def refusing : SerialState :=
  let state := serialCommManagerInit .zero .static
  { state with incoming := .zero, outgoing := { state.outgoing with packetType := nack } }

/-- The first call takes the garbage and the first bytes of a frame for a frame of its own. -/
theorem mainRound_misaligned :
    ∃ trace, (mainRound (serialCommManagerInit .zero .static)).Runs trace (.done refusing) ∧
      inputs trace = [some 0xFE, some 0x00, some 0x00, some 0xFE, some 0x01] ∧
      handovers trace = [.nack] := by
  have ended : ((mainRound (serialCommManagerInit .zero .static)).drive script
      [some 0xFE, some 0x00, some 0x00, some 0xFE, some 0x01]).2.1 = .done refusing := rfl
  exact ⟨_, ended ▸ Program.drive_runs script _ _, by decide, by decide⟩

/-- Each later call misreads the frames in the same way. -/
theorem mainRound_misread :
    ∃ trace, (mainRound refusing).Runs trace (.done refusing) ∧
      inputs trace = misread ∧ handovers trace = [.nack] := by
  have ended : ((mainRound refusing).drive script misread).2.1 = .done refusing := rfl
  exact ⟨_, ended ▸ Program.drive_runs script _ _, by decide, by decide⟩

/-- The last call waits for the rest of a frame. -/
theorem mainRound_waiting :
    ∃ trace rest, (mainRound refusing).Runs trace rest ∧ AwaitsInput rest ∧ rest.isDone = false ∧
      inputs trace = [some 0xFE, some 0x00, some 0xFF] ∧ handovers trace = [] :=
  ⟨_, _, Program.drive_runs script [some 0xFE, some 0x00, some 0xFF] _, .inr ⟨100, rfl⟩, rfl,
    by decide, by decide⟩

/-- A sequence waits where its first part does. -/
theorem AwaitsInput.bind {α β : Type} {program : Firmware α} (awaits : AwaitsInput program)
    (running : program.isDone = false) (next : α → Firmware β) :
        AwaitsInput (program >>= next) := by
  cases program with
  | done value => cases running
  | perform op resume =>
    obtain returned | waiting := awaits
    · cases returned
    · exact .inr waiting

/-- What a trace shows of a repeated part. -/
theorem filterMap_replicate {α β : Type} (f : α → Option β) (count : Nat) (part : List α) :
    (List.replicate count part).flatten.filterMap f =
      (List.replicate count (part.filterMap f)).flatten := by
  rw [List.filterMap_flatten, List.map_replicate]

/-- What the misaligned receiver reads of full-speed frames. -/
theorem inputs_fullSpeed (count : Nat) :
    Frame.inputs (List.replicate (count + 1) fullSpeed) =
      [some 0xFE, some 0x01] ++ (List.replicate count misread).flatten ++
        [some 0xFE, some 0x00, some 0xFF] := by
  have each (frames : List Frame) : Frame.inputs (fullSpeed :: frames) =
      [some 0xFE, some 0x01, some 0xFE, some 0x00, some 0xFF] ++ Frame.inputs frames := by
    simp [Frame.inputs, Frame.bytes, fullSpeed, startMarker, setMotorLevel, endMarker]
  induction count with
  | zero => rw [List.replicate_one, each]; rfl
  | succ count ih =>
    rw [List.replicate_succ, each, ih, List.replicate_succ (a := misread)]
    simp [misread]

/-- A host that keeps a motor at full speed is never understood by a misaligned receiver. -/
theorem not_resynchronises : ¬ ∃ lost, Resynchronises lost := by
  rintro ⟨lost, resynchronises⟩
  obtain ⟨first, starts, garbled, refused⟩ := mainRound_misaligned
  obtain ⟨again, repeats, misreads, refusedAgain⟩ := mainRound_misread
  obtain ⟨last, rest, stops, awaits, running, reads, silent⟩ := mainRound_waiting
  -- one call on the garbage, `lost` calls on frames, and one that waits for the rest of a frame
  have run : (receiver .zero (lost + 1 + 1)).Runs
      (first ++ ((List.replicate lost again).flatten ++ last))
          (rest >>= fun state => .done state) :=
    starts.bind ((repeats.iterate lost 1).append stops.bind_left)
  have received : inputs (first ++ ((List.replicate lost again).flatten ++ last)) =
      [0xFE, 0x00, 0x00].map some ++ Frame.inputs (List.replicate (lost + 1) fullSpeed) := by
    unfold inputs at *
    rw [List.filterMap_append, List.filterMap_append, filterMap_replicate, garbled, misreads, reads,
      inputs_fullSpeed]
    simp
  have refusedAll : handovers (first ++ ((List.replicate lost again).flatten ++ last)) =
      List.replicate (lost + 1) .nack := by
    unfold handovers at *
    rw [List.filterMap_append, List.filterMap_append, filterMap_replicate, refused, refusedAgain,
      silent]
    simp [List.replicate_succ]
  obtain ⟨kept, _, handed, few⟩ := resynchronises _ _ _ _ _ _ run (awaits.bind running _) received
  rw [refusedAll] at handed
  cases kept with
  | nil =>
    rw [List.length_replicate, List.length_nil] at few
    omega
  | cons frame kept =>
    have member := handed.subset (List.mem_cons_self (a := frame.handedOver))
    cases List.eq_of_mem_replicate member

end RobotFirmware
