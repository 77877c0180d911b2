import SceneMarkup.Color.Resolve
import SceneMarkup.Proofs.Text.Trimming

/-!
Contract: the layout of eight-digit literals matters for these literals alone.

Owns:
- the values that are eight-digit literals;
- the theorem that every other value stands for one colour in both layouts.

Does not own: which documents use which layout.
-/

namespace SceneMarkup.Color

open SceneMarkup.Number SceneMarkup.Text

/-- Whether a value, without the blanks around it, is a `#` with eight hexadecimal digits. -/
def isEightDigits (value : String) : Bool :=
  match trim value.toList with
  | '#' :: digits => digits.length == 8 && digits.all fun digit => (hexValue? digit).isSome
  | _ => false

theorem isEightDigits_trimmed (value : String) :
    isEightDigits (trimmed value) = isEightDigits value := by
  rw [isEightDigits, isEightDigits, trimmed, String.toList_ofList, trim_trim]

theorem isSome_of_hexByte? {high low : Char} {byte : UInt8} (read : hexByte? high low = some byte) :
    (hexValue? high).isSome = true ∧ (hexValue? low).isSome = true := by
  obtain ⟨first, readFirst, rest⟩ := Option.bind_eq_some_iff.mp read
  obtain ⟨second, readSecond, _⟩ := Option.bind_eq_some_iff.mp rest
  exact ⟨Option.isSome_of_eq_some readFirst, Option.isSome_of_eq_some readSecond⟩

theorem ofHexDigits?_layout {digits : List Char}
    (others : ¬ (digits.length = 8 ∧ ∀ digit ∈ digits, (hexValue? digit).isSome = true)) :
    ofHexDigits? .argb digits = ofHexDigits? .rgba digits := by
  unfold ofHexDigits?
  split
  · rfl
  · rfl
  · rename_i c₀ c₁ c₂ c₃ c₄ c₅ c₆ c₇
    cases first : hexByte? c₀ c₁ with
    | none => rfl
    | some first' =>
    cases second : hexByte? c₂ c₃ with
    | none => rfl
    | some second' =>
    cases third : hexByte? c₄ c₅ with
    | none => rfl
    | some third' =>
    cases fourth : hexByte? c₆ c₇ with
    | none => rfl
    | some fourth' =>
      apply absurd _ others
      have firstDigits := isSome_of_hexByte? first
      have secondDigits := isSome_of_hexByte? second
      have thirdDigits := isSome_of_hexByte? third
      have fourthDigits := isSome_of_hexByte? fourth
      simp [firstDigits, secondDigits, thirdDigits, fourthDigits]
  · rfl

/-- A value that is no eight-digit literal stands for one colour in both layouts. -/
theorem resolve_layout {value : String} (others : isEightDigits value = false) :
    resolve value .argb = resolve value .rgba := by
  have same : resolve? value .argb = resolve? value .rgba := by
    unfold resolve?
    unfold isEightDigits at others
    split
    · rename_i digits begins
      rw [begins] at others
      apply ofHexDigits?_layout
      simpa using others
    · rfl
  rw [resolve, resolve, same]

end SceneMarkup.Color
