import RobotFirmware.Structure.Text

/-!
# Lines that a reader is shown

A reader that strips the lines of a text and skips the empty ones sees the pieces between the line
breaks, so it does not matter that a carriage return and a line feed together end one line. The
lines shown of a text that ends with a line break are those of any two parts of it, cut at a line
break. White space adds nothing to them, and every other character of a complete line is in one
of them.
-/

namespace Text

/-! ## White space -/

/-- Only white space. -/
def Blank (text : Str) : Prop := ∀ c ∈ text, isSpace c = true

/-- The number of characters that are no white space. -/
def ink (text : Str) : Nat := text.countP fun c => !isSpace c

/-- A text without ink is blank. -/
theorem ink_eq_zero {text : Str} : ink text = 0 ↔ Blank text := by
  simp only [ink, Blank, List.countP_eq_zero, Bool.not_eq_true', Bool.not_eq_false]

/-- Ink adds up. -/
theorem ink_append (text later : Str) : ink (text ++ later) = ink text + ink later :=
  List.countP_append

/-- White space in front is stripped. -/
theorem dropWhile_blank {space text : Str} (blank : Blank space) :
    (space ++ text).dropWhile isSpace = text.dropWhile isSpace := by
  induction space with
  | nil => rfl
  | cons c space ih =>
    obtain ⟨first, later⟩ := List.forall_mem_cons.mp blank
    rw [List.cons_append, List.dropWhile_cons, if_pos first, ih later]

/-- White space in front of a text does not show. -/
theorem strip_append_left {space text : Str} (blank : Blank space) :
    strip (space ++ text) = strip text := by
  rw [strip, strip, dropWhile_blank blank]

/-- Nothing is left of white space. -/
theorem strip_blank {space : Str} (blank : Blank space) : strip space = [] := by
  rw [← List.append_nil space, strip_append_left blank]
  rfl

/-- White space behind a text does not show. -/
theorem strip_append_right {space text : Str} (blank : Blank space) :
    strip (text ++ space) = strip text := by
  have mirrored : Blank space.reverse := fun c member => blank c (List.mem_reverse.mp member)
  have behind (line : Str) : (line ++ space).rdropWhile isSpace = line.rdropWhile isSpace := by
    rw [List.rdropWhile, List.reverse_append, dropWhile_blank mirrored, List.rdropWhile]
  have nothing : space.dropWhile isSpace = [] := List.dropWhile_eq_nil_iff.mpr blank
  rw [strip, strip, List.dropWhile_append]
  split_ifs with empty
  · rw [nothing, List.isEmpty_iff.mp empty]
  · exact behind _

/-- Stripping takes only white space away. -/
theorem ink_strip (text : Str) : ink (strip text) = ink text := by
  have front (text : Str) : ink (text.dropWhile isSpace) = ink text := by
    have none : ink (text.takeWhile isSpace) = 0 :=
      ink_eq_zero.mpr fun c member => List.mem_takeWhile_imp member
    rw [← Nat.zero_add (ink (List.dropWhile ..)), ← none, ← ink_append,
      List.takeWhile_append_dropWhile]
  have behind (text : Str) : ink (text.rdropWhile isSpace) = ink text := by
    have none : ink (text.rtakeWhile isSpace) = 0 :=
      ink_eq_zero.mpr fun c member => List.mem_rtakeWhile_imp member
    rw [← Nat.add_zero (ink (List.rdropWhile ..)), ← none, ← ink_append,
      List.rdropWhile_append_rtakeWhile]
  exact (behind _).trans (front text)

/-- Whatever has ink leaves a line. -/
theorem strip_eq_nil {text : Str} : strip text = [] ↔ Blank text := by
  refine ⟨fun nothing => ink_eq_zero.mp ?_, strip_blank⟩
  rw [← ink_strip, nothing]
  rfl

/-! ## Lines shown -/

/-- The lines that are shown: stripped, without those of which nothing is left. -/
def shown (lines : List Str) : List Str := (lines.map strip).filter fun line => !line.isEmpty

/-- The lines shown of a text. -/
def visible (text : Str) : List Str := shown (text.splitOnP isLineBreak)

/-- The lines shown of a text without what follows its last line break. -/
def completeLines (text : Str) : List Str := shown (text.splitOnP isLineBreak).dropLast

/-- The text is empty or ends with a line break. -/
def Ends (text : Str) : Prop := text = [] ∨ ∃ body c, text = body ++ [c] ∧ isLineBreak c = true

/-- Lines are shown one by one. -/
theorem shown_append (lines later : List Str) :
    shown (lines ++ later) = shown lines ++ shown later := by
  rw [shown, List.map_append, List.filter_append]
  rfl

/-- Blank lines are not shown. -/
theorem shown_blank {line : Str} (blank : Blank line) (lines : List Str) :
    shown (line :: lines) = shown lines := by
  rw [shown, List.map_cons, strip_blank blank]
  rfl

/-- A line of which something is left is shown. -/
theorem shown_cons {line : Str} (left : ¬ (strip line).isEmpty = true) (lines : List Str) :
    shown (line :: lines) = strip line :: shown lines := by
  rw [shown, List.map_cons, List.filter_cons, if_pos (by simpa using left)]
  rfl

/-- A line break at the end shows no further line. -/
theorem visible_break {c : Char} (body : Str) (breaks : isLineBreak c = true) :
    visible (body ++ [c]) = visible body := by
  rw [visible, List.splitOnP_append_cons _ _ breaks, shown_append]
  exact List.append_nil _

/-- A text up to a line break is shown for itself. -/
theorem visible_append {text : Str} (ends : Ends text) (later : Str) :
    visible (text ++ later) = visible text ++ visible later := by
  obtain rfl | ⟨body, c, rfl, breaks⟩ := ends
  · rfl
  · rw [visible_break body breaks, List.append_assoc, List.singleton_append, visible,
      List.splitOnP_append_cons _ _ breaks, shown_append]
    rfl

/-- The lines up to a line break are complete. -/
theorem completeLines_append {text : Str} (ends : Ends text) (later : Str) :
    completeLines (text ++ later) = visible text ++ completeLines later := by
  obtain rfl | ⟨body, c, rfl, breaks⟩ := ends
  · rfl
  · rw [visible_break body breaks, List.append_assoc, List.singleton_append, completeLines,
      List.splitOnP_append_cons _ _ breaks, List.dropLast_append_of_ne_nil
        (List.splitOnP_ne_nil _ _), shown_append]
    rfl

/-- A text without a line break holds no complete line. -/
theorem completeLines_single {text : Str} (single : ∀ c ∈ text, isLineBreak c = false) :
    completeLines text = [] := by
  rw [completeLines, List.splitOnP_eq_singleton single]
  rfl

/-- A text is cut behind its last line break. -/
theorem exists_ends (text : Str) : ∃ front back, text = front ++ back ∧ Ends front ∧
    ∀ c ∈ back, isLineBreak c = false := by
  induction text using List.reverseRecOn with
  | nil => exact ⟨[], [], rfl, .inl rfl, by simp⟩
  | append_singleton text c ih =>
    cases breaks : isLineBreak c with
    | true => exact ⟨text ++ [c], [], (List.append_nil _).symm, .inr
      ⟨text, c, rfl, breaks⟩, by simp⟩
    | false =>
      obtain ⟨front, back, rfl, ends, single⟩ := ih
      refine ⟨front, back ++ [c], List.append_assoc _ _ _, ends, ?_⟩
      simpa [or_imp, forall_and, breaks] using single

/-! ## Ink of lines -/

/-- The ink of lines together. -/
def inkOf : List Str → Nat
  | [] => 0
  | line :: lines => ink line + inkOf lines

/-- The ink of lines adds up. -/
theorem inkOf_append (lines later : List Str) :
    inkOf (lines ++ later) = inkOf lines + inkOf later := by
  induction lines with
  | nil => exact (Nat.zero_add _).symm
  | cons line lines ih => rw [List.cons_append, inkOf, inkOf, ih, Nat.add_assoc]

/-- The lines shown have all the ink. -/
theorem inkOf_shown (lines : List Str) : inkOf (shown lines) = inkOf lines := by
  induction lines with
  | nil => rfl
  | cons line lines ih =>
    rw [shown, List.map_cons, List.filter_cons]
    have whole : inkOf (line :: lines) = ink line + inkOf lines := rfl
    rw [whole, ← ih, ← ink_strip]
    split_ifs with left
    · rfl
    · have nothing : strip line = [] := by simpa using left
      rw [nothing]
      exact (Nat.zero_add (inkOf (shown lines))).symm

/-- Lines without ink show nothing. -/
theorem shown_eq_nil {lines : List Str} (none : inkOf (shown lines) = 0) : shown lines = [] := by
  induction lines with
  | nil => rfl
  | cons line lines ih =>
    rw [inkOf_shown] at none
    have parts : ink line + inkOf lines = 0 := none
    have blank : Blank line := ink_eq_zero.mp (by omega)
    rw [shown_blank blank, ih (by rw [inkOf_shown]; omega)]

/-- The pieces between line breaks have all the ink. -/
theorem inkOf_visible (text : Str) : inkOf (visible text) = ink text := by
  rw [visible, inkOf_shown]
  induction text with
  | nil => rfl
  | cons c text ih =>
    rw [List.splitOnP_cons_eq_if_modifyHead]
    have first : ink (c :: text) = ink [c] + ink text := ink_append [c] text
    split_ifs with breaks
    · have none : ink [c] = 0 :=
        ink_eq_zero.mpr (by simpa [Blank] using isSpace_of_isLineBreak breaks)
      rw [first, none, ← ih]
      rfl
    · obtain ⟨line, lines, pieces⟩ :=
        List.exists_cons_of_ne_nil (List.splitOnP_ne_nil isLineBreak text)
      rw [pieces] at ih ⊢
      have split : inkOf (line :: lines) = ink line + inkOf lines := rfl
      have more : inkOf ((c :: line) :: lines) = ink (c :: line) + inkOf lines := rfl
      have longer : ink (c :: line) = ink [c] + ink line := ink_append [c] line
      rw [List.modifyHead_cons, more, first, longer, ← ih, split, Nat.add_assoc]

/-- The complete lines have the ink before the last line break. -/
theorem inkOf_completeLines {front back : Str} (ends : Ends front)
    (single : ∀ c ∈ back, isLineBreak c = false) :
    inkOf (completeLines (front ++ back)) = ink front := by
  rw [completeLines_append ends, completeLines_single single, List.append_nil, inkOf_visible]

/-- Nothing in front of a text takes ink from its complete lines. -/
theorem inkOf_completeLines_le (front text : Str) :
    inkOf (completeLines text) ≤ inkOf (completeLines (front ++ text)) := by
  obtain ⟨start, back, rfl, ends, single⟩ := exists_ends text
  rw [inkOf_completeLines ends single]
  obtain rfl | ⟨body, c, rfl, breaks⟩ := ends
  · exact Nat.zero_le _
  · have longer : Ends (front ++ (body ++ [c])) :=
      .inr ⟨front ++ body, c, (List.append_assoc _ _ _).symm, breaks⟩
    rw [← List.append_assoc, inkOf_completeLines longer single, ink_append front]
    exact Nat.le_add_left _ _

/-- What stands in front of a text without ink for its complete lines is blank, or they are all
incomplete. -/
theorem blank_of_inkOf_le {front text : Str}
    (fewer : inkOf (completeLines (front ++ text)) ≤ inkOf (completeLines text)) :
    Blank front ∨ completeLines (front ++ text) = [] := by
  obtain ⟨start, back, rfl, ends, single⟩ := exists_ends text
  rw [inkOf_completeLines ends single] at fewer
  obtain rfl | ⟨body, c, rfl, breaks⟩ := ends
  · exact .inr (shown_eq_nil (Nat.le_zero.mp fewer))
  · have longer : Ends (front ++ (body ++ [c])) :=
      .inr ⟨front ++ body, c, (List.append_assoc _ _ _).symm, breaks⟩
    rw [← List.append_assoc, inkOf_completeLines longer single, ink_append front] at fewer
    exact .inl (ink_eq_zero.mp (by omega))

/-- White space in front of a text does not change its complete lines. -/
theorem completeLines_blank {front : Str} (blank : Blank front) (text : Str) :
    completeLines (front ++ text) = completeLines text := by
  induction front with
  | nil => rfl
  | cons c front ih =>
    obtain ⟨space, later⟩ := List.forall_mem_cons.mp blank
    rw [← ih later, List.cons_append, completeLines, List.splitOnP_cons_eq_if_modifyHead]
    obtain ⟨line, lines, pieces⟩ :=
      List.exists_cons_of_ne_nil (List.splitOnP_ne_nil isLineBreak (front ++ text))
    have single : Blank [c] := by simpa [Blank] using space
    rw [completeLines, pieces]
    split_ifs with breaks
    · exact shown_blank (List.forall_mem_nil _) _
    · cases lines with
      | nil => rfl
      | cons second lines =>
        change shown ((c :: line) :: (second :: lines).dropLast) = shown (line :: _)
        have stripped : strip (c :: line) = strip line := strip_append_left single
        rw [shown, shown, List.map_cons, List.map_cons, stripped]

/-! ## Lines with their ends -/

/-- What ends a line: one line break, or a carriage return with a line feed. -/
inductive LineEnd : Str → Prop where
  /-- One line break. -/
  | single {c : Char} (breaks : isLineBreak c = true) : LineEnd [c]
  /-- A carriage return and a line feed. -/
  | pair : LineEnd ['\r', '\n']

/-- A line with its end. -/
def Closed (line : Str) : Prop :=
  ∃ body ending, line = body ++ ending ∧ (∀ c ∈ body, isLineBreak c = false) ∧ LineEnd ending

/-- Lines of which only the last one may lack an end. -/
inductive RawLines : List Str → Prop where
  /-- No line. -/
  | nil : RawLines []
  /-- A last line without an end. -/
  | last {line : Str} (single : ∀ c ∈ line, isLineBreak c = false) : RawLines [line]
  /-- A line with its end, and more lines. -/
  | cons {line : Str} {lines : List Str} (closed : Closed line) (rest : RawLines lines) :
      RawLines (line :: lines)

/-- A character in front of a line. -/
theorem Closed.cons {c : Char} {line : Str} (plain : isLineBreak c = false) (closed : Closed line) :
    Closed (c :: line) := by
  obtain ⟨body, ending, rfl, single, ends⟩ := closed
  exact ⟨c :: body, ending, rfl, List.forall_mem_cons.mpr ⟨plain, single⟩, ends⟩

/-- A line with its end ends with a line break. -/
theorem Closed.ends {line : Str} (closed : Closed line) : Ends line := by
  obtain ⟨body, ending, rfl, _, ends⟩ := closed
  cases ends with
  | single breaks => exact .inr ⟨body, _, rfl, breaks⟩
  | pair => exact .inr ⟨body ++ ['\r'], '\n', by simp, rfl⟩

/-- The only line shown of a line with its end is itself. -/
theorem visible_closed {line : Str} (closed : Closed line) : visible line = shown [line] := by
  obtain ⟨body, ending, rfl, single, ends⟩ := closed
  have alone {c : Char} (breaks : isLineBreak c = true) :
      visible (body ++ [c]) = shown [body] := by
    rw [visible_break body breaks, visible, List.splitOnP_eq_singleton single]
  have stripped {space : Str} (blank : Blank space) : shown [body ++ space] = shown [body] := by
    rw [shown, shown, List.map_singleton, List.map_singleton, strip_append_right blank]
  cases ends with
  | single breaks =>
    rw [alone breaks, stripped (by simpa [Blank] using isSpace_of_isLineBreak breaks)]
  | pair =>
    have return_ : Ends (body ++ ['\r']) := .inr ⟨body, '\r', rfl, rfl⟩
    have split : body ++ ['\r', '\n'] = (body ++ ['\r']) ++ ['\n'] := by simp
    have none : visible ['\n'] = [] := rfl
    rw [stripped (by simp [Blank, isSpace]), split, visible_append return_, alone rfl, none,
      List.append_nil]

/-- Lines with their ends are shown as themselves. -/
theorem visible_flatten {lines : List Str} (closed : ∀ line ∈ lines, Closed line) :
    visible lines.flatten = shown lines := by
  induction lines with
  | nil => rfl
  | cons line lines ih =>
    obtain ⟨first, later⟩ := List.forall_mem_cons.mp closed
    rw [List.flatten_cons, visible_append first.ends, visible_closed first, ih later, ←
      shown_append]
    rfl

/-- Texts that end with line breaks do so together. -/
theorem Ends.append {text later : Str} (first : Ends text) (second : Ends later) :
    Ends (text ++ later) := by
  obtain rfl | ⟨body, c, rfl, breaks⟩ := second
  · rwa [List.append_nil]
  · exact .inr ⟨text ++ body, c, (List.append_assoc _ _ _).symm, breaks⟩

/-- Lines with their ends end with a line break. -/
theorem ends_flatten {lines : List Str} (closed : ∀ line ∈ lines, Closed line) :
    Ends lines.flatten := by
  induction lines with
  | nil => exact .inl rfl
  | cons line lines ih =>
    obtain ⟨first, later⟩ := List.forall_mem_cons.mp closed
    exact first.ends.append (ih later)

/-- Only the last line of a text may lack an end. -/
theorem splitlines_raw (text : Str) : RawLines (splitlines true text) := by
  fun_induction splitlines true text with
  | case1 => exact .nil
  | case2 rest ih => exact .cons ⟨[], _, rfl, List.forall_mem_nil _, .pair⟩ ih
  | case3 c rest apart breaks ih =>
    exact .cons ⟨[], _, rfl, List.forall_mem_nil _, .single breaks⟩ ih
  | case4 c rest apart plain none ih =>
    exact .last (by simpa using plain)
  | case5 c rest apart plain line lines split ih =>
    rw [split] at ih
    have first : isLineBreak c = false := Bool.eq_false_iff.mpr plain
    cases ih with
    | last single => exact .last (List.forall_mem_cons.mpr ⟨first, single⟩)
    | cons closed rest => exact .cons (closed.cons first) rest

/-- The lines with their ends are the text. -/
theorem splitlines_flatten (text : Str) : (splitlines true text).flatten = text := by
  fun_induction splitlines true text with
  | case1 => rfl
  | case2 rest ih => rw [List.flatten_cons, ih]; rfl
  | case3 c rest apart breaks ih => rw [List.flatten_cons, ih]; rfl
  | case4 c rest apart plain none ih =>
    rw [none] at ih
    rw [← ih]
    rfl
  | case5 c rest apart plain line lines split ih =>
    rw [split] at ih
    rw [← ih]
    rfl

/-- A line with its end is not empty. -/
theorem splitlines_nonempty (text : Str) : ∀ line ∈ splitlines true text, line ≠ [] := by
  fun_induction splitlines true text with
  | case1 => exact List.forall_mem_nil _
  | case2 rest ih => exact List.forall_mem_cons.mpr ⟨List.cons_ne_nil _ _, ih⟩
  | case3 c rest apart breaks ih => exact List.forall_mem_cons.mpr ⟨List.cons_ne_nil _ _, ih⟩
  | case4 c rest apart plain none ih => exact List.forall_mem_singleton.mpr (List.cons_ne_nil _ _)
  | case5 c rest apart plain line lines split ih =>
    rw [split] at ih
    have later := (List.forall_mem_cons.mp ih).2
    exact List.forall_mem_cons.mpr ⟨List.cons_ne_nil _ _, later⟩

/-- All lines but the last one have their ends. -/
theorem RawLines.dropLast {lines : List Str} (raw : RawLines lines) :
    ∀ line ∈ lines.dropLast, Closed line := by
  induction raw with
  | nil => exact List.forall_mem_nil _
  | last single => exact List.forall_mem_nil _
  | cons closed rest ih =>
    cases rest with
    | nil => exact List.forall_mem_nil _
    | last single => exact List.forall_mem_cons.mpr ⟨closed, List.forall_mem_nil _⟩
    | cons second rest => exact List.forall_mem_cons.mpr ⟨closed, ih⟩

/-- The last line has its end, or is a single line. -/
theorem RawLines.getLast? {lines : List Str} {last : Str} (raw : RawLines lines)
    (found : lines.getLast? = some last) : Closed last ∨ ∀ c ∈ last, isLineBreak c = false := by
  induction raw with
  | nil => cases found
  | last single =>
    obtain rfl := Option.some.inj found
    exact .inr single
  | cons closed rest ih =>
    cases rest with
    | nil =>
      obtain rfl := Option.some.inj found
      exact .inl closed
    | last single => exact ih found
    | cons second rest => exact ih found

end Text
