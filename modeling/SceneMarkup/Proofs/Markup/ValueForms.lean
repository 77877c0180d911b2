import SceneMarkup.Proofs.Markup.WrittenTag

/-!
Contract: the written forms of attribute values, as the tag readers see them.

Owns:
- values between quotes, which end at the next quote;
- values without quotes, which end at a blank or at the end of the tag;
- an attribute with its value, in any of these forms.

Does not own: values in braces, and names without a value.
-/

namespace SceneMarkup.Markup

open SceneMarkup.Text

/-! ### Values -/

theorem isBlank_of_isSeparator {character : Char} (separator : isSeparator character = true) :
    isBlank character = true := by
  rcases separator_cases separator with rfl | rfl | rfl | rfl <;> decide

theorem value?_double {value : List Char} (unquoted : '"' ∉ value) (behind : List Char) :
    value? ('"' :: (value ++ '"' :: behind)) = some (value, behind) := by
  rw [value?, cutAt?_singleton unquoted]

theorem value?_single {value : List Char} (unquoted : '\'' ∉ value) (behind : List Char) :
    value? ('\'' :: (value ++ '\'' :: behind)) = some (value, behind) := by
  rw [value?, cutAt?_singleton unquoted]

/-- A value without quotes ends in front of a blank. -/
theorem bareValue?_of_blank {value : List Char} (nonempty : value ≠ [])
    (bare : ∀ character ∈ value, isBareCharacter character = true) {character : Char}
    (blank : isBlank character = true) (behind : List Char) :
    bareValue? (value ++ character :: behind) = some (value, character :: behind) := by
  have stops : isBareCharacter character = false := by simp [isBareCharacter, blank]
  have notEnd : character ≠ '>' := by
    rintro rfl
    revert blank
    decide
  rw [bareValue?, takeWhile_append_cons bare stops, dropWhile_append_cons bare stops]
  simp [nonempty, notEnd]

/-- A value without quotes ends in front of the slash that closes an element; it may be empty. -/
theorem bareValue?_of_slash {value : List Char}
    (bare : ∀ character ∈ value, isBareCharacter character = true) (behind : List Char) :
    bareValue? (value ++ '/' :: '>' :: behind) = some (value, '/' :: '>' :: behind) := by
  have slashed : ∀ character ∈ value ++ ['/'], isBareCharacter character = true := by
    intro character member
    rcases List.mem_append.mp member with inside | last
    · exact bare character inside
    · rw [List.mem_singleton.mp last]
      decide
  have stops : isBareCharacter '>' = false := by decide
  rw [List.append_cons, bareValue?, takeWhile_append_cons slashed stops,
    dropWhile_append_cons slashed stops]
  simp

/-- A character that is no opening quote or brace leaves a value bare. -/
theorem value?_of_bare {text : List Char}
    (bare : ∀ character, text.head? = some character →
      character ≠ '"' ∧ character ≠ '\'' ∧ character ≠ '\x7b') :
    value? text = bareValue? text := by
  unfold value?
  split
  · exact absurd rfl (bare _ rfl).1
  · exact absurd rfl (bare _ rfl).2.1
  · exact absurd rfl (bare _ rfl).2.2
  · rfl

/-! ### Attributes -/

/-- Behind a name and an equals sign between separators, a value makes an attribute. -/
theorem attribute?_eq_map {name before : List Char} (nonempty : name ≠ [])
    (letters : ∀ letter ∈ name, isAttributeNameCharacter letter = true)
    (separated : before.all isSeparator = true) (rest : List Char) :
    attribute? (name ++ (before ++ '=' :: rest)) =
      (value? (skipSeparators rest)).map fun (value, behind) =>
        (⟨String.ofList name, String.ofList value⟩, behind) := by
  have skipped : skipSeparators (before ++ '=' :: rest) = '=' :: rest := by
    rw [skipSeparators_append separated, skipSeparators_cons (by decide)]
  have begins : ∃ first others, isAttributeNameCharacter first = false ∧
      before ++ '=' :: rest = first :: others := by
    cases before with
    | nil => exact ⟨'=', rest, by decide, rfl⟩
    | cons first others =>
      have separates := List.all_eq_true.mp separated first List.mem_cons_self
      exact ⟨first, _, not_attributeNameCharacter_of_separator separates, rfl⟩
  obtain ⟨first, others, other, same⟩ := begins
  rw [same] at skipped ⊢
  rw [attribute?, takeWhile_append_cons letters other, dropWhile_append_cons letters other,
    if_neg nonempty, skipped]
  rfl

/-- A name, an equals sign between separators, and a value make an attribute. -/
theorem attribute?_of_assigned {name before rest value behind : List Char} (nonempty : name ≠ [])
    (letters : ∀ letter ∈ name, isAttributeNameCharacter letter = true)
    (separated : before.all isSeparator = true)
    (read : value? (skipSeparators rest) = some (value, behind)) :
    attribute? (name ++ (before ++ '=' :: rest)) =
      some (⟨String.ofList name, String.ofList value⟩, behind) := by
  rw [attribute?_eq_map nonempty letters separated, read]
  rfl

/-- Without separators, the equals sign stands right behind the name. -/
theorem attribute?_of_value? {name rest value behind : List Char} (nonempty : name ≠ [])
    (letters : ∀ letter ∈ name, isAttributeNameCharacter letter = true)
    (read : value? (skipSeparators rest) = some (value, behind)) :
    attribute? (name ++ '=' :: rest) =
      some (⟨String.ofList name, String.ofList value⟩, behind) := by
  have unseparated : List.all [] isSeparator = true := rfl
  exact attribute?_of_assigned nonempty letters unseparated read

end SceneMarkup.Markup
