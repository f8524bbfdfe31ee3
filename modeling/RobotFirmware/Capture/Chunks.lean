import RobotFirmware.Capture.Phases

/-!
# How the log arrives

The lines that a call passes on are those of the text up to its last settled line, whatever the
chunks in which the text arrives. A line is settled by a line feed or a carriage return. The other
separators end a line too, but what ends with one of them is kept back with the next chunk in front
of it. A carriage return is settled before the line feed after it arrives, which is then blank.
-/

namespace RobotFirmware

open Text

namespace Capture

/-! ## Listeners -/

/-- What a listener hears of the lines offered to it. -/
structure Heard (σ : Type) where
  /-- The lines that it hears. -/
  lines : List Str
  /-- What it remembers. -/
  status : σ
  /-- Whether it accepted the last one. -/
  accepted : Bool

section Listeners

variable {σ : Type}

/-- Offer lines to a listener until it accepts one. -/
def hear (callback : σ → Str → σ × Bool) : σ → List Str → Heard σ
  | status, [] => ⟨[], status, false⟩
  | status, line :: lines =>
    let (status, accepted) := callback status line
    if accepted then ⟨[line], status, true⟩
    else
      let later := hear callback status lines
      { later with lines := line :: later.lines }

/-- What is heard later, unless the listener has accepted. -/
def Heard.andThen (heard : Heard σ) (later : σ → Heard σ) : Heard σ :=
  if heard.accepted then heard
  else { later heard.status with lines := heard.lines ++ (later heard.status).lines }

/-- Lines are heard one part after the other. -/
theorem hear_append (callback : σ → Str → σ × Bool) (status : σ) (lines later : List Str) :
    hear callback status (lines ++ later) =
      (hear callback status lines).andThen fun status => hear callback status later := by
  induction lines generalizing status with
  | nil => rfl
  | cons line lines ih =>
    rw [List.cons_append, hear, hear]
    dsimp only
    by_cases accepts : (callback status line).2 = true
    · rw [if_pos accepts, if_pos accepts]
      rfl
    · rw [if_neg accepts, if_neg accepts, ih]
      unfold Heard.andThen
      dsimp only
      split_ifs <;> rfl

/-- What the callback hears in the loop over lines. -/
def Passing.heard (passing : Passing σ) : Heard σ :=
  ⟨passing.passed, passing.status, passing.accepted⟩

/-- What the callback hears in a call. -/
def Reading.heard (reading : Reading σ) : Heard σ :=
  ⟨reading.passed, reading.status, reading.accepted⟩

/-- The callback hears the lines shown. -/
theorem passLines_heard (callback : σ → Str → σ × Bool) (status : σ) (lines : List Str) :
    (passLines callback status lines).heard = hear callback status (shown lines) := by
  induction lines generalizing status with
  | nil => rfl
  | cons rawLine lines ih =>
    unfold passLines
    dsimp only
    by_cases empty : (strip rawLine).isEmpty = true
    · have blank : Blank rawLine := strip_eq_nil.mp (List.isEmpty_iff.mp empty)
      rw [if_pos empty, shown_blank blank, ih]
    · rw [if_neg empty, shown_cons empty, hear]
      dsimp only
      by_cases accepts : (callback status (strip rawLine)).2 = true
      · rw [if_pos accepts, if_pos accepts]
        rfl
      · have later := ih (callback status (strip rawLine)).1
        rw [if_neg accepts, if_neg accepts, ← later]
        rfl

/-- After a chunk the callback hears the lines that are not kept back, and then the later ones. -/
theorem consumeUartLines_heard_cons (callback : σ → Str → σ × Bool) (status : σ) (pending : Str)
    {chunk : List Ascii} (polls : List (List Ascii)) (arrives : chunk.isEmpty = false) :
    (consumeUartLines callback status pending (chunk :: polls)).heard =
      (hear callback status (shown (popPending (splitlines true
          (pending ++ decode chunk))).1)).andThen
        fun status => (consumeUartLines callback status
          (popPending (splitlines true (pending ++ decode chunk))).2 polls).heard := by
  rw [← passLines_heard, consumeUartLines, if_neg (Bool.eq_false_iff.mp arrives)]
  dsimp only
  unfold Heard.andThen Passing.heard
  dsimp only
  split_ifs with accepts
  · rw [accepts]
    rfl
  · rfl

end Listeners

/-! ## What is kept back -/

/-- A line feed or a carriage return comes last. -/
def Settles (text : Str) : Prop := text.getLast? = some '\n' ∨ text.getLast? = some '\r'

/-- A line that is kept back: only its last character may end it, and does not settle it. -/
structure KeptBack (line : Str) : Prop where
  /-- No line break stands before the last character. -/
  single : ∀ c ∈ line.dropLast, isLineBreak c = false
  /-- The line is not settled. -/
  unsettled : ¬ Settles line

/-- A text divided behind its last settled line. -/
structure Divides (text front back : Str) : Prop where
  /-- The parts are the text. -/
  whole : front ++ back = text
  /-- The lines in front have their ends. -/
  ends : Ends front
  /-- The rest is kept back. -/
  kept : KeptBack back
  /-- When nothing is kept back, the last line is settled. -/
  settled : back = [] → front = [] ∨ Settles front

/-- Nothing is kept back of nothing. -/
theorem keptBack_nil : KeptBack [] := by
  refine ⟨List.forall_mem_nil _, ?_⟩
  rintro (feed | return_)
  · cases feed
  · cases return_

/-- What is kept back is kept back again. -/
theorem KeptBack.divides {line : Str} (kept : KeptBack line) : Divides line [] line where
  whole := rfl
  ends := .inl rfl
  kept := kept
  settled _ := .inl rfl

/-- A text is settled by its last character. -/
theorem Settles.last {text : Str} {c : Char} (settles : Settles (text ++ [c])) :
    c = '\n' ∨ c = '\r' := by
  simpa [Settles] using settles

/-- Of two divisions of a text, neither has more in front than the other. -/
theorem Divides.not_longer {text front back more rest : Str} (first : Divides text front back)
    (second : Divides text (front ++ more) rest) : more = [] := by
  by_contra longer
  obtain ⟨body, c, rfl⟩ := List.eq_nil_or_concat' more |>.resolve_left longer
  -- The last character of the longer part is a line break, and stands in what is kept back.
  have breaks : isLineBreak c = true := by
    obtain empty | ⟨start, last, same, breaks⟩ := second.ends
    · simp at empty
    · rw [← List.append_assoc] at same
      obtain ⟨_, rfl⟩ := List.append_inj' same rfl |>.imp id List.singleton_inj.mp
      exact breaks
  have inside : back = (body ++ [c]) ++ rest := by
    have same := first.whole.trans second.whole.symm
    rwa [List.append_assoc, List.append_cancel_left_eq] at same
  cases rest with
  | nil =>
    rw [List.append_nil] at inside
    subst inside
    obtain none | settles := second.settled rfl
    · simp at none
    · rw [← List.append_assoc] at settles
      refine first.kept.unsettled ?_
      obtain rfl | rfl := settles.last
      · exact .inl (List.getLast?_concat)
      · exact .inr (List.getLast?_concat)
  | cons d rest =>
    have before : c ∈ back.dropLast := by
      rw [inside, List.dropLast_append_of_ne_nil (List.cons_ne_nil d rest)]
      simp
    rw [first.kept.single c before] at breaks
    cases breaks

/-- A text is divided in one way. -/
theorem Divides.unique {text front back front' back' : Str} (first : Divides text front back)
    (second : Divides text front' back') : front = front' := by
  obtain ⟨more, rfl, _⟩ | ⟨more, rfl, _⟩ :=
    List.append_eq_append_iff.mp (first.whole.trans second.whole.symm)
  · rw [first.not_longer second, List.append_nil]
  · rw [second.not_longer first, List.append_nil]

/-- A text is divided when what is kept back is divided with more text behind it. -/
theorem Divides.append {text front back more front' back' : Str} (first : Divides text front back)
    (second : Divides (back ++ more) front' back') :
    Divides (text ++ more) (front ++ front') back' where
  whole := by rw [List.append_assoc, second.whole, ← List.append_assoc, first.whole]
  ends := first.ends.append second.ends
  kept := second.kept
  settled := by
    rintro rfl
    obtain rfl | settles := second.settled rfl
    · have nothing : back = [] := (List.append_eq_nil_iff.mp second.whole.symm).1
      rw [List.append_nil]
      exact first.settled nothing
    · refine .inr (settles.imp (fun feed => ?_) fun return_ => ?_)
      · rw [List.getLast?_append, feed]
        rfl
      · rw [List.getLast?_append, return_]
        rfl

/-- An unsettled last line is kept back. -/
theorem keptBack_of_raw {lines : List Str} {last : Str} (raw : RawLines lines)
    (found : lines.getLast? = some last) (unsettled : ¬ Settles last) : KeptBack last where
  unsettled := unsettled
  single := by
    obtain ⟨body, ending, rfl, single, ends⟩ | single := raw.getLast? found
    · cases ends with
      | single breaks => rwa [List.dropLast_concat]
      | pair => exact absurd (.inl (by simp)) unsettled
    · exact fun c member => single c (List.mem_of_mem_dropLast member)

/-- The loop over chunks divides the text behind its last settled line. -/
theorem popPending_divides (text : Str) :
    Divides text (popPending (splitlines true text)).1.flatten
      (popPending (splitlines true text)).2 := by
  have raw := splitlines_raw text
  have nonempty := splitlines_nonempty text
  have whole := popPending_flatten (splitlines true text)
  rw [splitlines_flatten] at whole
  refine ⟨whole, ends_flatten (popPending_closed raw), ?_, ?_⟩
  · unfold popPending
    split
    · exact keptBack_nil
    · rename_i last found
      split_ifs with settles
      · exact keptBack_nil
      · exact keptBack_of_raw raw found settles
  · unfold popPending
    split
    · rename_i none
      rw [List.getLast?_eq_none_iff.mp none]
      exact fun _ => .inl rfl
    · rename_i last found
      split_ifs with settles
      · have same : (splitlines true text).flatten.getLast? = last.getLast? := by
          rw [← List.dropLast_append_getLast? last found, List.flatten_append,
            List.flatten_singleton, List.getLast?_append]
          obtain feed | return_ := settles
          · rw [feed]
            rfl
          · rw [return_]
            rfl
        exact fun _ => .inr (by rwa [Settles, same])
      · exact fun empty => absurd empty (nonempty last (List.mem_of_getLast? found))

/-! ## Calls -/

/-- A call passes on the lines shown of its text up to the last settled line. -/
theorem consumeUartLines_heard {σ : Type} (callback : σ → Str → σ × Bool) (status : σ)
    (polls : List (List Ascii)) {pending front back : Str} (kept : KeptBack pending)
    (divides : Divides (pending ++ decode polls.flatten) front back) :
    (consumeUartLines callback status pending polls).heard =
      hear callback status (visible front) := by
  induction polls generalizing status pending front back with
  | nil =>
    have nothing : front = [] := divides.unique (by simpa [decode] using kept.divides)
    rw [nothing]
    rfl
  | cons chunk polls ih =>
    have joined : decode (chunk :: polls).flatten = decode chunk ++ decode polls.flatten :=
      List.map_append
    cases empty : chunk.isEmpty with
    | true =>
      have nothing : decode chunk = [] := by rw [List.isEmpty_iff.mp empty]; rfl
      rw [joined, nothing, List.nil_append] at divides
      rw [consumeUartLines, if_pos empty]
      exact ih status kept divides
    | false =>
      have first := popPending_divides (pending ++ decode chunk)
      have closed := popPending_closed (splitlines_raw (pending ++ decode chunk))
      rw [consumeUartLines_heard_cons callback status pending polls empty]
      generalize popPending (splitlines true (pending ++ decode chunk)) = popped at first closed ⊢
      obtain ⟨lines, held⟩ := popped
      have rest := popPending_divides (held ++ decode polls.flatten)
      have together := first.append rest
      rw [List.append_assoc, ← joined] at together
      rw [divides.unique together, visible_append first.ends, visible_flatten closed, hear_append]
      congr 1
      funext status
      exact ih status first.kept rest

/-- A text up to its last settled line. -/
def settledText (text : Str) : Str := (popPending (splitlines true text)).1.flatten

/-- The callback of a new call hears the lines shown of the stream up to the last settled line. -/
theorem consumeUartLines_stream {σ : Type} (callback : σ → Str → σ × Bool) (status : σ)
    (chunks : List (List Ascii)) :
    (consumeUartLines callback status [] chunks).heard =
      hear callback status (visible (settledText (decode chunks.flatten))) :=
  consumeUartLines_heard callback status chunks keptBack_nil (popPending_divides _)

/-- However a stream arrives, a call passes on the same lines, and its callback accepts at the same
line or never. -/
theorem consumeUartLines_chunking {σ : Type} (callback : σ → Str → σ × Bool) (status : σ)
    (stream : List Ascii) (chunks chunks' : List (List Ascii)) (arrives : chunks.flatten = stream)
    (arrives' : chunks'.flatten = stream) :
    (consumeUartLines callback status [] chunks).passed =
        (consumeUartLines callback status [] chunks').passed ∧
      (consumeUartLines callback status [] chunks).accepted =
        (consumeUartLines callback status [] chunks').accepted ∧
      (consumeUartLines callback status [] chunks).status =
        (consumeUartLines callback status [] chunks').status := by
  have same : (consumeUartLines callback status [] chunks).heard =
      (consumeUartLines callback status [] chunks').heard := by
    rw [consumeUartLines_stream, consumeUartLines_stream, arrives, arrives']
  exact ⟨congrArg Heard.lines same, congrArg Heard.accepted same, congrArg Heard.status same⟩

/-- Three lines in four chunks: a form feed ends the first one, the carriage return and the line
feed of the second one arrive apart, and so do the parts of the third one. -/
def startupChunks : List (List Ascii) :=
  [encode "boot\x0c".toList, encode "stage 2\r".toList, encode "\non_start comp".toList,
    encode "lete\n".toList]

/-- The start-up phase hears the three lines, as from a single chunk. -/
theorem consumeUartLines_chunking_startup :
    (consumeUartLines sawStartup () [] startupChunks).passed.length = 3 ∧
      (consumeUartLines sawStartup () [] startupChunks).passed =
        (consumeUartLines sawStartup () [] [startupChunks.flatten]).passed := by
  refine ⟨by decide +kernel, ?_⟩
  exact (consumeUartLines_chunking sawStartup () startupChunks.flatten startupChunks
    [startupChunks.flatten] rfl (by simp)).1

end Capture

end RobotFirmware
