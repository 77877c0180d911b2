import Mathlib.Data.List.Induction
import Mathlib.Data.Nat.Digits.Defs
import SceneMarkup.Expression.Basic

/-!
Contract: arithmetic on values is exact where it has a result.

Owns:
- whole numbers in text, and the values that count as numbers of 64 bits;
- exact results, where a division leaves a remainder with the sign of the dividend;
- `Computes`, which is what `Operator.apply` does.

Does not own: where operands come from.
-/

namespace SceneMarkup

open SceneMarkup.Text SceneMarkup.Number

/-! ### Statement -/

/-- The number that decimal digits write. -/
def decimalValue (digits : List Char) : Nat :=
  Nat.ofDigits 10 (digits.reverse.map fun digit => digit.toNat - '0'.toNat)

/-- A whole number in text: decimal digits with an optional sign before them. -/
inductive Integer : List Char → Int → Prop where
  | unsigned {digits : List Char} (nonempty : digits ≠ [])
      (decimal : ∀ digit ∈ digits, isDigit digit = true) :
      Integer digits (decimalValue digits)
  | positive {digits : List Char} (nonempty : digits ≠ [])
      (decimal : ∀ digit ∈ digits, isDigit digit = true) :
      Integer ('+' :: digits) (decimalValue digits)
  | negative {digits : List Char} (nonempty : digits ≠ [])
      (decimal : ∀ digit ∈ digits, isDigit digit = true) :
      Integer ('-' :: digits) (-decimalValue digits)

/-- The numbers of 64 bits. -/
def Bounded (number : Int) : Prop := -2 ^ 63 ≤ number ∧ number < 2 ^ 63

/-- The number as which a value counts; blanks may surround it. -/
structure Counts (value : Option String) (number : Int) : Prop where
  written : ∃ text, value = some text ∧ Integer (trim text.toList) number
  bounded : Bounded number

/-- The exact result of an operation. What a division cuts off has the sign of the dividend, so
that the quotient is the one towards zero. -/
inductive Exact : Operator → Int → Int → Int → Prop where
  | plus (left right : Int) : Exact .plus left right (left + right)
  | minus (left right : Int) : Exact .minus left right (left - right)
  | times (left right : Int) : Exact .times left right (left * right)
  | dividedBy {left right quotient remainder : Int} (whole : left = right * quotient + remainder)
      (smaller : remainder.natAbs < right.natAbs) (sameSign : 0 ≤ left * remainder) :
      Exact .dividedBy left right quotient

/-- The text of an operation on values. -/
inductive Computes (operator : Operator) (left right : Option String) : String → Prop where
  | exact {first second result : Int} (leftCounts : Counts left first)
      (rightCounts : Counts right second) (exact : Exact operator first second result)
      (bounded : Bounded result) : Computes operator left right (toString result)
  | zero (nothing : ∀ first second result, Counts left first → Counts right second →
      Exact operator first second result → ¬ Bounded result) : Computes operator left right "0"

/-! ### Numbers in text -/

theorem readDigits_eq (digits : List Char) : readDigits 0 digits = decimalValue digits := by
  induction digits using List.reverseRecOn with
  | nil => rfl
  | append_singleton digits last inductionHypothesis =>
    have step : readDigits 0 (digits ++ [last]) =
        10 * readDigits 0 digits + (last.toNat - '0'.toNat) := by
      rw [readDigits, List.foldl_append]
      rfl
    rw [step, inductionHypothesis, decimalValue, decimalValue, List.reverse_append,
      List.reverse_singleton, List.singleton_append, List.map_cons, Nat.ofDigits_cons,
      Nat.add_comm]

theorem signOf_cases (text : List Char) :
    (∃ digits, text = '-' :: digits ∧ Reading.signOf text = (true, digits)) ∨
      (∃ digits, text = '+' :: digits ∧ Reading.signOf text = (false, digits)) ∨
      Reading.signOf text = (false, text) := by
  unfold Reading.signOf
  split
  · exact .inl ⟨_, rfl, rfl⟩
  · exact .inr (.inl ⟨_, rfl, rfl⟩)
  · exact .inr (.inr rfl)

theorem unbounded?_of_sign {text digits : List Char} {negative : Bool} {number : Int}
    (sign : Reading.signOf text = (negative, digits)) :
    Operand.unbounded? text = some number ↔
      (digits ≠ [] ∧ ∀ digit ∈ digits, isDigit digit = true) ∧
        (if negative then -(decimalValue digits : Int) else decimalValue digits) = number := by
  have refused : (digits.isEmpty || !digits.all isDigit) = true ↔
      ¬(digits ≠ [] ∧ ∀ digit ∈ digits, isDigit digit = true) := by
    simp [or_iff_not_imp_left]
  simp only [Operand.unbounded?, sign, readDigits_eq]
  rw [Option.ite_none_left_eq_some, refused, not_not, Option.some.injEq]

theorem unbounded?_eq_some_iff {text : List Char} {number : Int} :
    Operand.unbounded? text = some number ↔ Integer text number := by
  constructor
  · intro found
    rcases signOf_cases text with ⟨digits, rfl, sign⟩ | ⟨digits, rfl, sign⟩ | sign
    all_goals obtain ⟨⟨nonempty, decimal⟩, rfl⟩ := (unbounded?_of_sign sign).mp found
    · exact .negative nonempty decimal
    · exact .positive nonempty decimal
    · exact .unsigned nonempty decimal
  · intro written
    cases written with
    | unsigned nonempty decimal =>
      have sign : Reading.signOf text = (false, text) := by
        rcases signOf_cases text with ⟨digits, rfl, _⟩ | ⟨digits, rfl, _⟩ | sign
        · exact absurd (decimal '-' List.mem_cons_self) (by decide)
        · exact absurd (decimal '+' List.mem_cons_self) (by decide)
        · exact sign
      exact (unbounded?_of_sign sign).mpr ⟨⟨nonempty, decimal⟩, rfl⟩
    | @positive digits nonempty decimal =>
      have sign : Reading.signOf ('+' :: digits) = (false, digits) := rfl
      exact (unbounded?_of_sign sign).mpr ⟨⟨nonempty, decimal⟩, rfl⟩
    | @negative digits nonempty decimal =>
      have sign : Reading.signOf ('-' :: digits) = (true, digits) := rfl
      exact (unbounded?_of_sign sign).mpr ⟨⟨nonempty, decimal⟩, rfl⟩

theorem fits_iff (number : Int) : Operand.fits number = true ↔ Bounded number := by
  simp [Operand.fits, Bounded]

theorem read?_eq_some_iff {value : Option String} {number : Int} :
    Operand.read? value = some number ↔ Counts value number := by
  simp only [Operand.read?, Option.bind_eq_some_iff, Option.filter_eq_some_iff,
    unbounded?_eq_some_iff, fits_iff]
  constructor
  · rintro ⟨text, present, written, bounded⟩
    exact ⟨⟨text, present, written⟩, bounded⟩
  · rintro ⟨⟨text, present, written⟩, bounded⟩
    exact ⟨text, present, written, bounded⟩

/-! ### Results -/

theorem natAbs_tmod_lt (left : Int) {right : Int} (nonzero : right ≠ 0) :
    (left.tmod right).natAbs < right.natAbs := by
  rw [Int.natAbs_tmod]
  exact Nat.mod_lt _ (Int.natAbs_pos.mpr nonzero)

theorem mul_tmod_nonneg (left right : Int) : 0 ≤ left * left.tmod right := by
  rcases Int.le_total 0 left with positive | negative
  · exact Int.mul_nonneg positive (Int.tmod_nonneg right positive)
  · have opposite := Int.tmod_nonneg right (Int.neg_nonneg_of_nonpos negative)
    rw [Int.neg_tmod] at opposite
    exact Int.mul_nonneg_of_nonpos_of_nonpos negative (Int.nonpos_of_neg_nonneg opposite)

/-- Remainders with the sign of the same dividend are less than a divisor apart. -/
theorem natAbs_sub_lt {dividend first second divisor : Int}
    (sameSign : 0 ≤ dividend * first) (sameSign' : 0 ≤ dividend * second)
    (nonzero : dividend ≠ 0) (smaller : first.natAbs < divisor.natAbs)
    (smaller' : second.natAbs < divisor.natAbs) : (first - second).natAbs < divisor.natAbs := by
  rcases Int.lt_or_gt_of_ne nonzero with negative | positive
  · have sign {remainder : Int} (same : 0 ≤ dividend * remainder) : remainder ≤ 0 := by
      by_contra opposite
      exact absurd (Int.mul_neg_of_neg_of_pos negative (Int.not_le.mp opposite))
        (Int.not_lt.mpr same)
    have firstSign := sign sameSign
    have secondSign := sign sameSign'
    omega
  · have firstSign : 0 ≤ first := nonneg_of_mul_nonneg_right sameSign positive
    have secondSign : 0 ≤ second := nonneg_of_mul_nonneg_right sameSign' positive
    omega

/-- The quotient towards zero is the only one whose remainder has the sign of the dividend. -/
theorem tdiv_eq_of_exact {left right quotient remainder : Int}
    (whole : left = right * quotient + remainder) (smaller : remainder.natAbs < right.natAbs)
    (sameSign : 0 ≤ left * remainder) : right ≠ 0 ∧ left.tdiv right = quotient := by
  have nonzero : right ≠ 0 := by
    rintro rfl
    exact absurd smaller (Nat.not_lt_zero _)
  refine ⟨nonzero, ?_⟩
  -- The divisor divides the difference of the two remainders, which is smaller than it.
  have divided := Int.mul_tdiv_add_tmod left right
  have apart : right * (left.tdiv right - quotient) = remainder - left.tmod right := by
    rw [Int.mul_sub]
    omega
  have close : (remainder - left.tmod right).natAbs < right.natAbs := by
    by_cases zero : left = 0
    · rw [zero, Int.zero_tmod, Int.sub_zero]
      exact smaller
    · exact natAbs_sub_lt sameSign (mul_tmod_nonneg left right) zero smaller
        (natAbs_tmod_lt left nonzero)
  have same := Int.eq_zero_of_dvd_of_natAbs_lt_natAbs ⟨_, apart.symm⟩ close
  rw [same] at apart
  have := (Int.mul_eq_zero.mp apart).resolve_left nonzero
  omega

theorem result?_eq_some_iff {operator : Operator} {left right result : Int} :
    operator.result? left right = some result ↔ Exact operator left right result := by
  constructor
  · intro found
    cases operator with
    | plus =>
      cases found
      exact .plus left right
    | minus =>
      cases found
      exact .minus left right
    | times =>
      cases found
      exact .times left right
    | dividedBy =>
      rw [Operator.result?, Option.ite_none_left_eq_some] at found
      obtain ⟨nonzero, same⟩ := found
      cases same
      exact .dividedBy (Int.mul_tdiv_add_tmod left right).symm (natAbs_tmod_lt left nonzero)
        (mul_tmod_nonneg left right)
  · intro exact
    cases exact with
    | dividedBy whole smaller sameSign =>
      obtain ⟨nonzero, same⟩ := tdiv_eq_of_exact whole smaller sameSign
      rw [Operator.result?, if_neg nonzero, same]
    | _ => rfl

/-! ### Operations on values -/

section Values

variable {operator : Operator} {left right : Option String}

theorem apply_of_exact {first second result : Int} (leftCounts : Counts left first)
    (rightCounts : Counts right second) (exact : Exact operator first second result)
    (bounded : Bounded result) : operator.apply left right = toString result := by
  have kept : (some result).filter Operand.fits = some result :=
    Option.filter_eq_some_iff.mpr ⟨rfl, (fits_iff result).mpr bounded⟩
  rw [Operator.apply, read?_eq_some_iff.mpr leftCounts, read?_eq_some_iff.mpr rightCounts]
  dsimp only
  rw [result?_eq_some_iff.mpr exact, kept]
  rfl

theorem apply_of_nothing (nothing : ∀ first second result, Counts left first →
      Counts right second → Exact operator first second result → ¬ Bounded result) :
    operator.apply left right = "0" := by
  rw [Operator.apply]
  split
  · rename_i first second leftRead rightRead
    have dropped : (operator.result? first second).filter Operand.fits = none := by
      rw [Option.filter_eq_none_iff]
      intro result found fits
      exact nothing first second result (read?_eq_some_iff.mp leftRead)
        (read?_eq_some_iff.mp rightRead) (result?_eq_some_iff.mp found) ((fits_iff result).mp fits)
    rw [dropped]
    rfl
  · rfl

/-- An operation gives its exact result where there is one, and zero elsewhere. -/
theorem apply_eq_iff {text : String} :
    operator.apply left right = text ↔ Computes operator left right text := by
  constructor
  · rintro rfl
    by_cases results : ∃ first second result, Counts left first ∧ Counts right second ∧
        Exact operator first second result ∧ Bounded result
    · obtain ⟨first, second, result, leftCounts, rightCounts, exact, bounded⟩ := results
      rw [apply_of_exact leftCounts rightCounts exact bounded]
      exact .exact leftCounts rightCounts exact bounded
    · have nothing : ∀ first second result, Counts left first → Counts right second →
          Exact operator first second result → ¬ Bounded result :=
        fun first second result leftCounts rightCounts exact bounded =>
          results ⟨first, second, result, leftCounts, rightCounts, exact, bounded⟩
      rw [apply_of_nothing nothing]
      exact .zero nothing
  · intro computes
    cases computes with
    | exact leftCounts rightCounts exact bounded =>
      exact apply_of_exact leftCounts rightCounts exact bounded
    | zero nothing => exact apply_of_nothing nothing

end Values

end SceneMarkup
