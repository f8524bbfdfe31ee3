import Mathlib.Data.List.DropRight
import Mathlib.Data.List.Infix

/-!
# Text

Texts as lists of characters, with the operations of Python's `str` and `re` on them: lines,
white space, search. Line boundaries and white space are those of `str.splitlines` and
`str.isspace`, and decimal digits those of Unicode 14.
-/

namespace Text

/-- A text. -/
abbrev Str : Type := List Char

/-- The characters that `str.strip` removes. -/
def isSpace (c : Char) : Bool :=
  (9 ≤ c.toNat && c.toNat ≤ 13) || (0x1C ≤ c.toNat && c.toNat ≤ 0x20) ||
    [0x85, 0xA0, 0x1680, 0x2028, 0x2029, 0x202F, 0x205F, 0x3000].contains c.toNat ||
    (0x2000 ≤ c.toNat && c.toNat ≤ 0x200A)

/-- The characters at which `str.splitlines` splits. -/
def isLineBreak (c : Char) : Bool :=
  (10 ≤ c.toNat && c.toNat ≤ 13) || (0x1C ≤ c.toNat && c.toNat ≤ 0x1E) ||
    [0x85, 0x2028, 0x2029].contains c.toNat

/-- Line breaks are white space. -/
theorem isSpace_of_isLineBreak {c : Char} (breaks : isLineBreak c = true) : isSpace c = true := by
  simp only [isLineBreak, isSpace, Bool.or_eq_true, Bool.and_eq_true, decide_eq_true_eq,
    List.contains_eq_mem, List.mem_cons, List.not_mem_nil, or_false] at breaks ⊢
  omega

/-- `str.splitlines`. A carriage return and the line feed after it end one line. -/
def splitlines (keepends : Bool) : Str → List Str
  | [] => []
  | '\r' :: '\n' :: rest => (if keepends then ['\r', '\n'] else []) :: splitlines keepends rest
  | c :: rest =>
    if isLineBreak c then (if keepends then [c] else []) :: splitlines keepends rest
    else
      match splitlines keepends rest with
      | [] => [[c]]
      | line :: lines => (c :: line) :: lines

/-- `str.strip`. -/
def strip (text : Str) : Str := (text.dropWhile isSpace).rdropWhile isSpace

/-- Whether a text occurs in another one. -/
def occursIn (token text : Str) : Bool := text.tails.any fun rest => token.isPrefixOf rest

/-- What the group of `re.search` matches in a pattern of a literal and a group of one or more
characters of a class: the first place that matches counts, and the group is greedy. -/
def search (literal : Str) (isMember : Char → Bool) : Str → Option Str
  | [] => none
  | c :: rest =>
    let group := ((c :: rest).drop literal.length).takeWhile isMember
    if literal.isPrefixOf (c :: rest) && !group.isEmpty then some group
    else search literal isMember rest

/-- The zeros of the decimal digits. -/
def decimalZeros : List Nat :=
  [0x30, 0x660, 0x6f0, 0x7c0, 0x966, 0x9e6, 0xa66, 0xae6, 0xb66, 0xbe6, 0xc66, 0xce6, 0xd66, 0xde6,
    0xe50, 0xed0, 0xf20, 0x1040, 0x1090, 0x17e0, 0x1810, 0x1946, 0x19d0, 0x1a80, 0x1a90, 0x1b50,
    0x1bb0, 0x1c40, 0x1c50, 0xa620, 0xa8d0, 0xa900, 0xa9d0, 0xa9f0, 0xaa50, 0xabf0, 0xff10, 0x104a0,
    0x10d30, 0x11066, 0x110f0, 0x11136, 0x111d0, 0x112f0, 0x11450, 0x114d0, 0x11650, 0x116c0,
    0x11730, 0x118e0, 0x11950, 0x11c50, 0x11d50, 0x11da0, 0x16a60, 0x16ac0, 0x16b50, 0x1d7ce,
    0x1d7d8, 0x1d7e2, 0x1d7ec, 0x1d7f6, 0x1e140, 0x1e2f0, 0x1e950, 0x1fbf0]

/-- The value of a decimal digit. -/
def decimalValue? (c : Char) : Option Nat :=
  (decimalZeros.find? fun first => first ≤ c.toNat && c.toNat < first + 10).map (c.toNat - ·)

/-- The class `\d`. -/
def isDecimal (c : Char) : Bool := (decimalValue? c).isSome

/-- `int` of decimal digits. -/
def int (digits : Str) : Nat :=
  digits.foldl (fun value c => value * 10 + (decimalValue? c).getD 0) 0

/-- A text in which every line is ended by a line feed. -/
def joinLines (lines : List Str) : Str := (lines.map (· ++ ['\n'])).flatten

/-- The first line of a text. -/
theorem splitlines_line {line rest : Str} (single : ∀ c ∈ line, isLineBreak c = false) :
    splitlines false (line ++ '\n' :: rest) = line :: splitlines false rest := by
  induction line with
  | nil => rfl
  | cons c line ih =>
    obtain ⟨plain, single⟩ := List.forall_mem_cons.mp single
    have later := ih single
    have apart : c ≠ '\r' := fun same => by subst same; exact Bool.noConfusion plain
    rw [List.cons_append, splitlines, if_neg (Bool.eq_false_iff.mp plain), later]
    exact fun _ same => absurd same apart

/-- Lines without line breaks are read back. -/
theorem splitlines_joinLines {lines : List Str}
    (single : ∀ line ∈ lines, ∀ c ∈ line, isLineBreak c = false) :
    splitlines false (joinLines lines) = lines := by
  induction lines with
  | nil => rfl
  | cons line lines ih =>
    obtain ⟨first, later⟩ := List.forall_mem_cons.mp single
    change splitlines false ((line ++ ['\n']) ++ joinLines lines) = _
    rw [List.append_assoc, List.singleton_append, splitlines_line first, ih later]

end Text
