import Mathlib.Data.List.Basic

/-!
# Conveyors

Items are added to a store, lifted from it by a hand that holds one at a time, put on a belt,
and taken from its end. A line is everything that was ever added, spread over these places in
the order of addition; every move of an item yields a line again, so that no item is lost,
doubled or overtaken however the moves are mixed.
-/

namespace Conveyor

/-- Where the items added so far are. -/
structure Line (α : Type) where
  /-- All items, in the order of their addition. -/
  added : List α
  /-- The items that left the belt. -/
  taken : List α
  /-- The items on the belt. -/
  belt : List α
  /-- The item between the store and the belt, if there is one. -/
  hand : List α
  /-- The items in the store. -/
  store : List α
  /-- The hand holds one item at most. -/
  single : hand.length ≤ 1
  /-- Every item is in one place, and none has overtaken another. -/
  inOrder : added = taken ++ belt ++ hand ++ store

namespace Line

variable {α : Type}

/-- Nothing has been added. -/
def empty : Line α := ⟨[], [], [], [], [], Nat.zero_le _, rfl⟩

/-- An item is added to the store. -/
def add (line : Line α) (item : α) : Line α :=
  { line with
    added := line.added ++ [item]
    store := line.store ++ [item]
    inOrder := by rw [line.inOrder]; simp only [List.append_assoc] }

/-- The free hand lifts the first item of the store. -/
def lift (line : Line α) {item : α} {rest : List α} (stored : line.store = item :: rest)
    (free : line.hand = []) : Line α :=
  { line with
    hand := [item]
    store := rest
    single := Nat.le_refl _
    inOrder := by
      rw [line.inOrder, stored, free]
      simp only [List.append_nil, List.append_assoc, List.cons_append, List.nil_append] }

/-- The hand puts what it holds on the belt. -/
def put (line : Line α) : Line α :=
  { line with
    belt := line.belt ++ line.hand
    hand := []
    single := Nat.zero_le _
    inOrder := by rw [line.inOrder]; simp only [List.append_nil, List.append_assoc] }

/-- The first item of the belt is taken. -/
def take (line : Line α) {item : α} {rest : List α} (next : line.belt = item :: rest) : Line α :=
  { line with
    taken := line.taken ++ [item]
    belt := rest
    inOrder := by
      rw [line.inOrder, next]
      simp only [List.append_assoc, List.cons_append, List.nil_append] }

/-- Items are taken in the order of their addition, each at most once. -/
theorem taken_isPrefix (line : Line α) : line.taken <+: line.added :=
  ⟨line.belt ++ line.hand ++ line.store, by rw [line.inOrder]; simp only [List.append_assoc]⟩

/-- With a free hand every item has been taken, is on the belt or is in the store. -/
theorem added_eq (line : Line α) (free : line.hand = []) :
    line.added = line.taken ++ line.belt ++ line.store := by
  rw [line.inOrder, free, List.append_nil]

/-- Once the store and the belt are empty, only the hand may hold an item that was not taken. -/
theorem added_eq_taken (line : Line α) (belt : line.belt = []) (store : line.store = []) :
    line.added = line.taken ++ line.hand := by
  rw [line.inOrder, belt, store, List.append_nil, List.append_nil]

end Line

end Conveyor
