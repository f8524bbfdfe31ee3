import Mathlib.Algebra.BigOperators.Fin
import Mathlib.Data.UInt

/-!
# Sums of bytes

The 8-bit sum of a family of bytes: a loop computes it, and it changes whenever exactly one
byte does.
-/

namespace ByteSum

variable {len : Nat}

/-- A loop over a vector computes the sum of its entries. -/
theorem foldl_toList (bytes : Vector UInt8 len) :
    bytes.toList.foldl (fun sum byte => sum + byte) 0 = ∑ i : Fin len, bytes.get i := by
  have entries : bytes.toList = List.ofFn fun i : Fin len => bytes.get i := by
    refine List.ext_getElem (by simp) fun i inside _ => ?_
    simp [Vector.get]
  rw [entries, ← List.sum_eq_foldl, List.sum_ofFn]

/-- Two families differ at exactly one place. -/
def DifferAtOne (first second : Fin len → UInt8) : Prop :=
  ∃ i, first i ≠ second i ∧ ∀ j, j ≠ i → first j = second j

/-- Changing exactly one byte changes the sum. -/
theorem DifferAtOne.sum_ne {first second : Fin len → UInt8} (differ : DifferAtOne first second) :
    ∑ i, first i ≠ ∑ i, second i := by
  obtain ⟨i, changed, same⟩ := differ
  rw [← Finset.add_sum_erase _ first (Finset.mem_univ i),
    ← Finset.add_sum_erase _ second (Finset.mem_univ i),
    Finset.sum_congr rfl fun j member => same j (Finset.ne_of_mem_erase member)]
  exact fun equal => changed (add_right_cancel equal)

/-- The complement of a byte is its difference from 255. -/
theorem complement_eq (byte : UInt8) : 0xFF - byte = ~~~byte := by
  have small := byte.toNat_lt
  apply UInt8.toNat_inj.mp
  simp only [UInt8.toNat_sub, UInt8.toNat_not]
  simp
  omega

/-- Complements are equal when the bytes are. -/
theorem complement_inj {first second : UInt8} (same : ~~~first = ~~~second) : first = second := by
  rw [← UInt8.not_not (a := first), same, UInt8.not_not]

end ByteSum
