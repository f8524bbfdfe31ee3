import RobotFirmware.Capture.Consume

/-!
# Lines between the phases

Each call passes on the lines of the text up to some line break and holds the rest when it
returns. So over a session every complete line of the text read is passed on once, whole and in
order, exactly when no call leaves anything behind that belongs to a complete line.
-/

namespace RobotFirmware

open Text

namespace Capture

section Calls

variable {σ : Type} {callback : σ → Str → σ × Bool}

/-- What is kept back is the rest of the text. -/
theorem popPending_flatten (lines : List Str) :
    (popPending lines).1.flatten ++ (popPending lines).2 = lines.flatten := by
  unfold popPending
  split
  · exact List.append_nil _
  · rename_i last found
    split_ifs
    · exact List.append_nil _
    · have whole := List.dropLast_append_getLast? last found
      rw [← whole, List.dropLast_concat, List.flatten_append, List.flatten_singleton]

/-- The lines that are not kept back have their ends. -/
theorem popPending_closed {lines : List Str} (raw : RawLines lines) :
    ∀ line ∈ (popPending lines).1, Closed line := by
  unfold popPending
  split
  · rename_i none
    rw [List.getLast?_eq_none_iff.mp none]
    exact List.forall_mem_nil _
  · rename_i last found
    split_ifs with ends
    · have breaks : ¬ ∀ c ∈ last, isLineBreak c = false := by
        intro single
        obtain feed | return_ := ends
        · exact Bool.noConfusion (single _ (List.mem_of_getLast? feed))
        · exact Bool.noConfusion (single _ (List.mem_of_getLast? return_))
      have closed : Closed last := (raw.getLast? found).resolve_right breaks
      have whole := List.dropLast_append_getLast? last found
      rw [← whole]
      exact List.forall_mem_append.mpr ⟨raw.dropLast, by simpa using closed⟩
    · exact raw.dropLast

/-- The loop over lines passes on those shown of the lines that it reached, and reaches all of them
unless the callback accepts. -/
theorem passLines_passed (status : σ) (lines : List Str) :
    ∃ reached, lines = reached ++ (passLines callback status lines).rest ∧
      (passLines callback status lines).passed = shown reached ∧
      ((passLines callback status lines).accepted = false →
        (passLines callback status lines).rest = []) := by
  induction lines generalizing status with
  | nil => exact ⟨[], rfl, rfl, fun _ => rfl⟩
  | cons rawLine lines ih =>
    unfold passLines
    dsimp only
    split_ifs with empty accepts
    · obtain ⟨reached, split, passed, all⟩ := ih status
      refine ⟨rawLine :: reached, congrArg (rawLine :: ·) split, ?_, all⟩
      rw [passed, shown_blank (strip_eq_nil.mp (List.isEmpty_iff.mp empty))]
    · refine ⟨[rawLine], rfl, ?_, fun refused => refused.elim⟩
      exact (shown_cons empty []).symm
    · obtain ⟨reached, split, passed, all⟩ := ih (callback status (strip rawLine)).1
      refine ⟨rawLine :: reached, congrArg (rawLine :: ·) split, ?_, all⟩
      rw [passed, shown_cons empty]

/-- A call passes on the lines shown of what it read up to a line break, and holds the rest. -/
def Lawful (pending text : Str) (passed : List Str) (left : Str) : Prop :=
  ∃ seen, pending ++ text = seen ++ left ∧ passed = visible seen ∧ Ends seen

/-- Calls are lawful. -/
theorem consumeUartLines_lawful (status : σ) (pending : Str) (polls : List (List Ascii)) :
    Lawful pending (consumeUartLines callback status pending polls).text
      (consumeUartLines callback status pending polls).passed
      (consumeUartLines callback status pending polls).left := by
  induction polls generalizing status pending with
  | nil => exact ⟨[], List.append_nil _, rfl, .inl rfl⟩
  | cons chunk polls ih =>
    have raw := splitlines_raw (pending ++ decode chunk)
    have closed := popPending_closed raw
    have whole := popPending_flatten (splitlines true (pending ++ decode chunk))
    rw [splitlines_flatten] at whole
    unfold consumeUartLines
    dsimp only
    generalize popPending (splitlines true (pending ++ decode chunk)) = popped at closed whole ⊢
    obtain ⟨lines, kept⟩ := popped
    obtain ⟨reached, split, passed, all⟩ := @passLines_passed σ callback status lines
    rw [split] at closed whole
    obtain ⟨inside, _⟩ := List.forall_mem_append.mp closed
    split_ifs with empty accepts
    · exact ih status pending
    · refine ⟨reached.flatten, ?_, ?_, ends_flatten inside⟩
      · rw [← whole, List.flatten_append, List.append_assoc]
      · rw [passed, visible_flatten inside]
    · obtain ⟨seen, later, shows, ends⟩ := ih (passLines callback status lines).status kept
      have none : (passLines callback status lines).rest = [] :=
        all (Bool.eq_false_iff.mpr accepts)
      refine ⟨reached.flatten ++ seen, ?_, ?_, (ends_flatten inside).append ends⟩
      · rw [none, List.append_nil] at whole
        rw [← List.append_assoc, ← whole, List.append_assoc, later, List.append_assoc]
      · rw [passed, shows, visible_append (ends_flatten inside), visible_flatten inside]

/-- A call reads the text of its polls, and leaves the others. -/
theorem consumeUartLines_reads (status : σ) (pending : Str) (polls : List (List Ascii)) :
    (consumeUartLines callback status pending polls).text ++
      decode (consumeUartLines callback status pending polls).polls.flatten =
        decode polls.flatten := by
  induction polls generalizing status pending with
  | nil => rfl
  | cons chunk polls ih =>
    have joined : decode (chunk :: polls).flatten = decode chunk ++ decode polls.flatten :=
      List.map_append
    unfold consumeUartLines
    dsimp only
    split_ifs with empty accepts
    · rw [ih, joined, List.isEmpty_iff.mp empty]
      rfl
    · exact joined.symm
    · rw [joined, List.append_assoc, ih]

end Calls

/-! ## Sessions -/

/-- What a session does to the stream: its calls are lawful, and read a first part of it. -/
structure Follows (session : Session) (polls : List (List Ascii)) : Prop where
  /-- Each call is lawful. -/
  lawful : ∀ call ∈ session.calls, Lawful [] call.text call.passed call.left
  /-- The calls read the text in order. -/
  reads : ∃ unread, decode polls.flatten = session.text ++ unread

/-- One more call before a session that reads what it left. -/
theorem Follows.after {session : Session} {polls : List (List Ascii)} {σ : Type}
    {callback : σ → Str → σ × Bool} {status : σ}
    (follows : Follows session (consumeUartLines callback status [] polls).polls) :
    Follows (session.after (consumeUartLines callback status [] polls).call) polls := by
  obtain ⟨unread, rest⟩ := follows.reads
  refine ⟨List.forall_mem_cons.mpr ⟨consumeUartLines_lawful _ _ _, follows.lawful⟩, unread, ?_⟩
  rw [← consumeUartLines_reads status [] polls, rest, ← List.append_assoc]
  rfl

/-- A session without calls. -/
theorem follows_nil (code : Nat) (polls : List (List Ascii)) : Follows ⟨[], code⟩ polls :=
  ⟨List.forall_mem_nil _, _, rfl⟩

/-- The cycles read what is left for them. -/
theorem runCycles_follows (cycles : Nat) (polls : List (List Ascii)) :
    Follows (runCycles cycles polls) polls := by
  induction cycles generalizing polls with
  | zero => exact follows_nil 0 polls
  | succ cycles ih =>
    unfold runCycles
    dsimp only
    split_ifs
    · exact (follows_nil 1 _).after
    · exact (follows_nil 1 _).after.after
    · exact (ih _).after.after

/-- A run of `run_interactive_cycles` reads the stream. -/
theorem runInteractiveCycles_follows (cycles : Nat) (polls : List (List Ascii)) :
    Follows (runInteractiveCycles cycles polls) polls := by
  unfold runInteractiveCycles
  dsimp only
  split_ifs
  · exact (follows_nil 1 _).after
  · exact (runCycles_follows _ _).after
  · exact (follows_nil 1 _).after.after
  · exact (runCycles_follows _ _).after.after

/-- No call leaves text behind that belongs to a complete line of the text read: what it holds when
it returns is blank, or no line ends in it and in the text of the later calls. -/
def LeavesNothing : List Call → Prop
  | [] => True
  | call :: later =>
    (Blank call.left ∨ completeLines (call.left ++ (later.map Call.text).flatten) = []) ∧
      LeavesNothing later

/-- The lines passed on have no more ink than the complete lines. -/
theorem inkOf_passed_le {calls : List Call}
    (lawful : ∀ call ∈ calls, Lawful [] call.text call.passed call.left) :
    inkOf (calls.map Call.passed).flatten ≤ inkOf (completeLines
      (calls.map Call.text).flatten) := by
  induction calls with
  | nil => exact Nat.zero_le _
  | cons call calls ih =>
    obtain ⟨first, later⟩ := List.forall_mem_cons.mp lawful
    obtain ⟨seen, split, passed, ends⟩ := first
    have text : call.text = seen ++ call.left := split
    have grows := inkOf_completeLines_le call.left (calls.map Call.text).flatten
    rw [List.map_cons, List.flatten_cons, List.map_cons, List.flatten_cons, inkOf_append, passed,
      text,
      List.append_assoc, completeLines_append ends, inkOf_append]
    exact Nat.add_le_add_left (Nat.le_trans (ih later) grows) _

/-- Lawful calls pass on the complete lines of their text exactly when they leave nothing behind. -/
theorem passed_eq_completeLines_iff {calls : List Call}
    (lawful : ∀ call ∈ calls, Lawful [] call.text call.passed call.left) :
    (calls.map Call.passed).flatten = completeLines (calls.map Call.text).flatten ↔
      LeavesNothing calls := by
  induction calls with
  | nil => exact iff_of_true rfl trivial
  | cons call calls ih =>
    obtain ⟨first, later⟩ := List.forall_mem_cons.mp lawful
    obtain ⟨seen, split, passed, ends⟩ := first
    have text : call.text = seen ++ call.left := split
    have fewer := inkOf_passed_le later
    have grows := inkOf_completeLines_le call.left (calls.map Call.text).flatten
    rw [List.map_cons, List.flatten_cons, List.map_cons, List.flatten_cons, passed, text,
      List.append_assoc, completeLines_append ends, List.append_cancel_left_eq, LeavesNothing]
    have same (clean : Blank call.left ∨
        completeLines (call.left ++ (calls.map Call.text).flatten) = []) :
        (calls.map Call.passed).flatten =
            completeLines (call.left ++ (calls.map Call.text).flatten) ↔
          (calls.map Call.passed).flatten = completeLines (calls.map Call.text).flatten := by
      obtain blank | none := clean
      · rw [completeLines_blank blank]
      · have nothing : completeLines (calls.map Call.text).flatten = [] := by
          rw [none] at grows
          exact shown_eq_nil (Nat.le_zero.mp grows)
        rw [none, nothing]
    constructor
    · intro whole
      have clean := blank_of_inkOf_le (Nat.le_trans (Nat.le_of_eq (congrArg inkOf whole).symm)
          fewer)
      exact ⟨clean, (ih later).mp ((same clean).mp whole)⟩
    · rintro ⟨clean, rest⟩
      exact (same clean).mpr ((ih later).mpr rest)

/-- A session reads a first part of the stream. Every complete non-empty line of it is passed on
once, whole and in order, exactly when no call leaves anything behind that belongs to one. -/
theorem lines_passed_iff (cycles : Nat) (polls : List (List Ascii)) :
    (∃ unread, decode polls.flatten = (runInteractiveCycles cycles polls).text ++ unread) ∧
      ((runInteractiveCycles cycles polls).passed =
          completeLines (runInteractiveCycles cycles polls).text ↔
        LeavesNothing (runInteractiveCycles cycles polls).calls) := by
  have follows := runInteractiveCycles_follows cycles polls
  exact ⟨follows.reads, passed_eq_completeLines_iff follows.lawful⟩

/-- A chunk with the line that ends the start-up phase and one more. -/
def startupChunk : List Ascii :=
  encode "on_start complete\nMAX77958_DIAG: setting VBUS GPIO4/GPIO5 on\n".toList

/-- The second line of this chunk is passed on to no phase. -/
theorem line_lost : ¬ ∀ (cycles : Nat) (polls : List (List Ascii)),
    (runInteractiveCycles cycles polls).passed =
      completeLines (runInteractiveCycles cycles polls).text := by
  intro passed
  have lines : (runInteractiveCycles 1 [startupChunk]).passed.length = 1 ∧
      (completeLines (runInteractiveCycles 1 [startupChunk]).text).length = 2 := by
    decide +kernel
  rw [passed] at lines
  exact absurd (lines.1.symm.trans lines.2) (by decide)

end Capture

end RobotFirmware
