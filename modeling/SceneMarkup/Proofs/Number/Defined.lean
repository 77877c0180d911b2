import SceneMarkup.Node.Basic
import SceneMarkup.Proofs.Number.Equality

/-!
Contract: numbers that are defined, which all but one of the values of 32 bits are.

Owns:
- packing, which leaves every number defined;
- the sum with a finite number, which is undefined only where the other summand is;
- the order of numbers, in which what is undefined has no place;
- sizes, which clamping makes no less than zero.

Does not own: the values of sums.
-/

namespace SceneMarkup.Number

open Float.Model

/-! ### Packed numbers -/

/-- Only a pattern whose exponent bits are all ones and whose mantissa is not empty stands for no
number. -/
theorem bits_of_unpack {format : Float.Model.Format} {bits : BitVec format.numBits}
    (undefined : UnpackedFloat.unpack format bits = .notANumber) :
    UnpackedFloat.unpackExponent bits = -1#_ ∧ UnpackedFloat.unpackMantissa bits ≠ 0#_ := by
  unfold UnpackedFloat.unpack at undefined
  dsimp only at undefined
  split at undefined
  · rename_i ones
    split at undefined
    · cases undefined
    · rename_i nonempty
      exact ⟨ones, nonempty⟩
  · split at undefined
    · split at undefined
      · cases undefined
      · cases undefined
    · cases undefined

theorem ofNat_ne_allOnes {width number : Nat} (small : number + 1 < 2 ^ width) :
    BitVec.ofNat width number ≠ -1#_ := by
  intro same
  have value := congrArg BitVec.toNat same
  rw [BitVec.neg_one_eq_allOnes, BitVec.toNat_allOnes, BitVec.toNat_ofNat,
    Nat.mod_eq_of_lt (by omega)] at value
  omega

/-- A number is packed into a pattern that stands for a number. -/
theorem unpack_pack_ne_notANumber {format : Float.Model.Format} {unpacked : UnpackedFloat}
    (known : unpacked ≠ .notANumber) :
    UnpackedFloat.unpack format (UnpackedFloat.pack format unpacked) ≠ .notANumber := by
  intro undefined
  obtain ⟨ones, nonempty⟩ := bits_of_unpack undefined
  have wide : 0 + 1 < 2 ^ format.exponentBits := Nat.one_lt_two_pow (Nat.ne_of_gt format.he)
  cases unpacked with
  | notANumber => exact known rfl
  | infinity sign => exact nonempty UnpackedFloat.unpackMantissa_packComponents
  | zero sign => exact nonempty UnpackedFloat.unpackMantissa_packComponents
  | finite sign mantissa exponent positive =>
    unfold UnpackedFloat.pack at ones nonempty
    dsimp only at ones nonempty
    split at ones
    · -- What is too large is packed as an infinity, which has no mantissa.
      rename_i overflow
      rw [if_pos overflow] at nonempty
      exact nonempty UnpackedFloat.unpackMantissa_packComponents
    · rename_i fits
      split at ones
      · rw [UnpackedFloat.unpackExponent_packComponents] at ones
        exact ofNat_ne_allOnes (Nat.lt_of_not_le fits) ones
      · rw [UnpackedFloat.unpackExponent_packComponents] at ones
        exact ofNat_ne_allOnes wide ones

theorem isNaN_eq_false_iff {value : Float32} :
    value.isNaN = false ↔ value.toModel.unpack ≠ .notANumber := by
  show value.toModel.unpack.isNaN = false ↔ _
  cases value.toModel.unpack <;> simp [UnpackedFloat.isNaN]

/-! ### Sums -/

theorem round_ne_notANumber (format : Float.Model.Format) (sign : UnpackedFloat.Sign)
    (mantissa : Nat) (exponent : Int) :
    UnpackedFloat.round format sign mantissa exponent ≠ .notANumber := by
  unfold UnpackedFloat.round UnpackedFloat.roundWithAccuracy
  dsimp only
  split
  · exact UnpackedFloat.noConfusion
  · exact UnpackedFloat.noConfusion

theorem normalize_ne_notANumber (format : Float.Model.Format) (mantissa exponent : Int)
    (sign : UnpackedFloat.Sign) :
    UnpackedFloat.normalize format mantissa exponent sign ≠ .notANumber := by
  unfold UnpackedFloat.normalize
  split
  · exact round_ne_notANumber _ _ _ _
  · exact UnpackedFloat.noConfusion
  · exact round_ne_notANumber _ _ _ _

/-- Only of two infinities is a sum undefined. -/
theorem add_ne_notANumber (format : Float.Model.Format) {unpacked other : UnpackedFloat}
    (known : unpacked ≠ .notANumber) (finite : other.isFinite = true) :
    UnpackedFloat.add format unpacked other ≠ .notANumber := by
  cases other with
  | notANumber => cases finite
  | infinity sign => cases finite
  | zero sign =>
    cases unpacked with
    | notANumber => exact absurd rfl known
    | infinity other => exact UnpackedFloat.noConfusion
    | zero other => cases sign <;> cases other <;> exact UnpackedFloat.noConfusion
    | finite other mantissa exponent positive => exact UnpackedFloat.noConfusion
  | finite sign mantissa exponent positive =>
    cases unpacked with
    | notANumber => exact absurd rfl known
    | infinity other => exact UnpackedFloat.noConfusion
    | zero other => exact UnpackedFloat.noConfusion
    | finite other otherMantissa otherExponent otherPositive =>
      exact normalize_ne_notANumber _ _ _ _

theorem isNaN_add {value other : Float32} (known : value.isNaN = false)
    (finite : other.isFinite = true) : (value + other).isNaN = false :=
  isNaN_eq_false_iff.mpr
    (unpack_pack_ne_notANumber (add_ne_notANumber _ (isNaN_eq_false_iff.mp known) finite))

/-! ### Order -/

theorem le_iff_unpack_le {left right : Float32} :
    left ≤ right ↔ left.toModel.unpack.le right.toModel.unpack = true := by
  show decide (left.toModel ≤ right.toModel) = true ↔ _
  exact decide_eq_true_iff

theorem lt_iff_unpack_lt {left right : Float32} :
    left < right ↔ left.toModel.unpack.lt right.toModel.unpack = true := by
  show decide (left.toModel < right.toModel) = true ↔ _
  exact decide_eq_true_iff

theorem nonneg_of_positive {number : Float32} (positive : 0 < number) : 0 ≤ number := by
  rw [lt_iff_unpack_lt, UnpackedFloat.lt, beq_iff_eq] at positive
  rw [le_iff_unpack_le, UnpackedFloat.le, positive]
  rfl

/-- What is undefined is above no number. -/
theorem isNaN_of_le {left right : Float32} (ordered : left ≤ right) : right.isNaN = false := by
  rw [isNaN_eq_false_iff]
  intro undefined
  have incomparable (unpacked : UnpackedFloat) : unpacked.compare .notANumber = none := by
    cases unpacked <;> rfl
  rw [le_iff_unpack_le, UnpackedFloat.le, undefined, incomparable] at ordered
  cases ordered

/-- Whatever number a size is made from, also none, it is no less than zero. -/
theorem zero_le_clampedSize (number : Float32) : 0 ≤ clampedSize number := by
  unfold clampedSize
  split
  · rename_i positive
    exact nonneg_of_positive positive
  · decide

end SceneMarkup.Number
