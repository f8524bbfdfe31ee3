import Mathlib.Data.Int.Basic

/-!
# Dials

A position is seen through a dial that only shows it modulo the number of its marks. Between two
readings less than half a turn apart the way the position went is known, and so a position can be
followed by its readings as long as it is read often enough.
-/

namespace Dial

/-- The way from one reading to another, when one way round the dial is shorter than the other;
readings that lie opposite to each other count as none. -/
def turn (marks : Nat) (before after : Int) : Int :=
  let way := (after - before).bmod marks
  if 2 * way.natAbs < marks then way else 0

/-- Only what the dial shows of the two positions matters. -/
theorem turn_emod (marks : Nat) (before after : Int) :
    turn marks (before % marks) (after % marks) = turn marks before after := by
  have way : (after % marks - before % marks).bmod marks = (after - before).bmod marks := by
    rw [Int.bmod_def, Int.bmod_def, ← Int.sub_emod]
  rw [turn, turn, way]

/-- A move of less than half a turn is read off exactly. -/
theorem turn_of_near {marks : Nat} {before after : Int}
    (near : 2 * (after - before).natAbs < marks) : turn marks before after = after - before := by
  have same : (after - before).bmod marks = after - before :=
    Int.bmod_eq_of_le_mul_two (by omega) (by omega)
  rw [turn, same]
  exact if_pos near

/-- Following the readings of a position that moved less than half a turn. -/
theorem turn_reading {marks : Nat} {before after : Int}
    (near : 2 * (after - before).natAbs < marks) :
    turn marks (before % marks) (after % marks) = after - before :=
  (turn_emod marks before after).trans (turn_of_near near)

end Dial
