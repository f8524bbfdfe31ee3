import Mathlib.Algebra.BigOperators.Fin
import Mathlib.Algebra.Group.Fin.Basic
import Mathlib.Algebra.Group.Units.Equiv

/-!
# Ring buffers that overwrite their oldest entry

A ring has a fixed number of slots and a cursor. Pushing stores a value at the cursor and
advances it. Read once round from the cursor, the slots form a window that a push shifts by
one, so the ring always shows the last values pushed, oldest first.
-/

namespace RingBuffer

variable {α : Type} {size : Nat}

/-- Slots and the place of the next push. -/
structure Ring (α : Type) (size : Nat) where
  /-- The stored values. -/
  slot : Fin size → α
  /-- The slot of the next push. -/
  cursor : Fin size

/-- The slots once round from a starting place. -/
def once (slot : Fin size → α) (start : Fin size) : List α :=
  .ofFn fun i => slot (start + i)

/-- The slots from the oldest to the newest. -/
def Ring.window (ring : Ring α size) : List α := once ring.slot ring.cursor

/-- A window has one entry for each slot. -/
@[simp] theorem Ring.window_length (ring : Ring α size) : ring.window.length = size :=
  List.length_ofFn

variable [NeZero size]

/-- Store a value at the cursor and advance it. -/
def Ring.push (ring : Ring α size) (value : α) : Ring α size :=
  ⟨Function.update ring.slot ring.cursor value, ring.cursor + 1⟩

/-- Wherever a round starts, it adds up every slot once. -/
theorem once_sum {M : Type} [AddCommMonoid M] (weight : α → M) (slot : Fin size → α)
    (start : Fin size) :
    ((once slot start).map weight).sum = ∑ i, weight (slot i) := by
  rw [once, List.map_ofFn, List.sum_ofFn]
  exact Equiv.sum_comp (Equiv.addLeft start) fun i => weight (slot i)

/-- Some steps from a place. -/
theorem advance_val (start : Fin size) (count : Nat) :
    ((· + 1)^[count] start).val = (start.val + count) % size := by
  induction count with
  | zero => simp [Nat.mod_eq_of_lt start.isLt]
  | succ count ih =>
    rw [Function.iterate_succ_apply', Fin.val_add, ih, Fin.val_one', ← Nat.add_assoc]
    simp

/-- A round advances from place to place. -/
theorem once_eq_map (slot : Fin size → α) (start : Fin size) :
    once slot start = (List.range size).map fun i => slot ((· + 1)^[i] start) := by
  apply List.ext_getElem
  · simp [once]
  · intro i inside _
    simp only [once, List.getElem_ofFn, List.getElem_map, List.getElem_range]
    congr 1
    apply Fin.ext
    rw [advance_val, Fin.val_add]

/-- Advancing through every place of a ring ends where it started. -/
theorem advance_round (start : Fin size) : (· + 1)^[size] start = start := by
  apply Fin.ext
  rw [advance_val, Nat.add_mod_right, Nat.mod_eq_of_lt start.isLt]

/-- A push drops the oldest entry of the window and appends the new value. -/
theorem Ring.window_push (ring : Ring α size) (value : α) :
    (ring.push value).window = ring.window.tail ++ [value] := by
  obtain ⟨count, rfl⟩ := Nat.exists_eq_add_one_of_ne_zero (NeZero.ne size)
  have shifted (i : Fin count) : ring.cursor + 1 + i.castSucc = ring.cursor + i.succ := by
    rw [add_assoc, add_comm 1, Fin.coeSucc_eq_succ]
  have last : ring.cursor + 1 + Fin.last count = ring.cursor := by
    rw [add_assoc, add_comm 1, Fin.last_add_one, add_zero]
  have apart (i : Fin count) : ring.cursor + i.succ ≠ ring.cursor := by
    rw [Ne, add_eq_left]
    exact Fin.succ_ne_zero i
  simp only [window, once, push]
  rw [List.ofFn_succ', List.ofFn_succ, List.concat_eq_append, List.tail_cons, last,
    Function.update_self]
  congr 2
  funext i
  rw [shifted, Function.update_of_ne (apart i)]

/-- After any number of pushes the window is the end of everything it ever showed. -/
theorem Ring.window_foldl (ring : Ring α size) (values : List α) :
    (values.foldl push ring).window = (ring.window ++ values).drop values.length := by
  induction values generalizing ring with
  | nil => simp
  | cons value values ih =>
    obtain ⟨oldest, rest, shown⟩ : ∃ oldest rest, ring.window = oldest :: rest :=
      List.exists_cons_of_length_pos (by
        rw [window_length]
        exact Nat.pos_of_ne_zero (NeZero.ne size))
    rw [List.foldl_cons, ih, window_push, shown]
    simp

end RingBuffer
