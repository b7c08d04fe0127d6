import AudioHost.Clock.Position
import Mathlib

/-!
# Comparisons of doubles

A double that is not a number is neither less than any other, nor at least as large, nor equal to
it. Positions are compared as doubles are, so that holds of a position too, whichever of the bits
that stand for no number it has.
-/

set_option autoImplicit false

namespace AudioHost

open Float.Model (UnpackedFloat)

theorem compare_swapped (left right : UnpackedFloat) :
    right.compare left = (left.compare right).map Ordering.swap := by
  fun_cases UnpackedFloat.compare left right with
  | case1 => cases right <;> rfl
  | case3 first second => cases first <;> cases second <;> rfl
  | _ => simp_all [UnpackedFloat.compare, Ordering.swap_then, Int.compare_swap, Nat.compare_swap]

theorem compare_eq_none_iff (left right : UnpackedFloat) :
    left.compare right = none ↔ left.isNaN = true ∨ right.isNaN = true := by
  fun_cases UnpackedFloat.compare left right <;> simp_all [UnpackedFloat.isNaN]

/-- Of two doubles one is at least the other, unless one of them is not a number. -/
theorem not_lt_iff_le_or_isNaN (left right : Float) :
    ¬ left < right ↔ right ≤ left ∨ left.isNaN = true ∨ right.isNaN = true := by
  have less : left < right ↔ left.toModel.unpack.compare right.toModel.unpack = some .lt := by
    simp only [LT.lt, Float.lt, decide_eq_true_iff, Float.Model.lt, UnpackedFloat.lt, beq_iff_eq]
  have atMost : right ≤ left ↔
      (right.toModel.unpack.compare left.toModel.unpack).any Ordering.isLE = true :=
    decide_eq_true_iff
  have unordered : left.toModel.unpack.compare right.toModel.unpack = none ↔
      left.isNaN = true ∨ right.isNaN = true := compare_eq_none_iff _ _
  rw [less, atMost, compare_swapped left.toModel.unpack, ← unordered]
  cases left.toModel.unpack.compare right.toModel.unpack with
  | none => simp
  | some ordering => cases ordering <;> simp

namespace Position

variable {left right position : Position}

theorem beq_self_iff : (position == position) = true ↔ position.isNaN = false := by
  have number : position.isNaN = false ↔ position.seconds ≠ .nan := by
    simp [isNaN, Float.isNaN_eq_decide_eq_nan]
  exact Float.beq_self_iff.trans number.symm

instance : PartialEquivBEq Position where
  symm := BEq.symm (α := Float)
  trans := BEq.trans (α := Float)

theorem isNaN_of_beq (equal : (left == right) = true) : left.isNaN = false :=
  beq_self_iff.mp (BEq.trans equal (BEq.symm equal))

theorem bne_self (number : position.isNaN = false) : (position != position) = false := by
  rw [bne, beq_self_iff.mpr number, Bool.not_true]

theorem bne_of_isNaN (other : position.isNaN = true) : (position != position) = true := by
  rw [bne, Bool.not_eq_true', ← Bool.not_eq_true, beq_self_iff, other]
  exact Bool.noConfusion

/-- A comparison does not tell the two zeros apart, but they are not the same position. -/
example : ((0 : Position) == ⟨0x8000000000000000⟩) = true ∧
    (0 : Position) ≠ ⟨0x8000000000000000⟩ := by decide

end Position

end AudioHost
