import Mathlib
import SceneMarkup.Number.Binary

/-!
Contract: finite numbers as numbers that are equal to themselves.

Owns:
- the value that is no number, which is not finite;
- finite numbers, which are therefore defined and equal to themselves.

Does not own: the laws of equality between numbers of 32 bits. They belong to the library, which
gives them to those who import it whole.
-/

namespace SceneMarkup.Number

variable {value : Float32}

theorem ne_nan_of_isFiniteNumber (finite : isFiniteNumber value = true) : value ≠ .nan := by
  rintro rfl
  revert finite
  decide

theorem beq_self_of_isFiniteNumber (finite : isFiniteNumber value = true) :
    (value == value) = true :=
  Float32.beq_self_iff.mpr (ne_nan_of_isFiniteNumber finite)

theorem isNaN_of_isFiniteNumber (finite : isFiniteNumber value = true) : value.isNaN = false := by
  rw [Float32.isNaN_eq_decide_eq_nan]
  exact decide_eq_false (ne_nan_of_isFiniteNumber finite)

end SceneMarkup.Number
