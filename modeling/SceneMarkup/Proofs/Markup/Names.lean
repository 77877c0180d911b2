import SceneMarkup.Markup.Names
import SceneMarkup.Node.Kind
import SceneMarkup.Text.Caseless

/-!
Contract: the character classes of markup, seen from texts that are known in part.

Owns:
- how separators and names are told from what follows them;
- the names of built-in tags, which consist of name characters in any case.

Does not own: the table of alphanumeric characters.
-/

namespace SceneMarkup.Markup

open SceneMarkup.Text

/-! ### Separators -/

theorem skipSeparators_append {separators : List Char} (all : separators.all isSeparator = true)
    (rest : List Char) : skipSeparators (separators ++ rest) = skipSeparators rest := by
  rw [skipSeparators, List.dropWhile_append_of_pos (List.all_eq_true.mp all)]
  rfl

theorem skipSeparators_cons {character : Char} (other : isSeparator character = false)
    (rest : List Char) : skipSeparators (character :: rest) = character :: rest := by
  rw [skipSeparators, List.dropWhile_cons_of_neg (by rw [other]; exact Bool.false_ne_true)]

theorem separator_cases {character : Char} (separator : isSeparator character = true) :
    character = ' ' ∨ character = '\t' ∨ character = '\r' ∨ character = '\n' := by
  simpa [isSeparator, or_assoc] using separator

theorem not_nameCharacter_of_separator {character : Char}
    (separator : isSeparator character = true) : isNameCharacter character = false := by
  rcases separator_cases separator with rfl | rfl | rfl | rfl <;> decide

theorem not_attributeNameCharacter_of_separator {character : Char}
    (separator : isSeparator character = true) : isAttributeNameCharacter character = false := by
  rcases separator_cases separator with rfl | rfl | rfl | rfl <;> decide

/-- A character of attribute names is neither a separator nor the beginning of the end of a tag. -/
theorem of_attributeNameCharacter {character : Char}
    (named : isAttributeNameCharacter character = true) :
    isSeparator character = false ∧ character ≠ '>' ∧ character ≠ '/' := by
  refine ⟨?_, ?_, ?_⟩
  · cases separator : isSeparator character with
    | false => rfl
    | true =>
      rcases separator_cases separator with rfl | rfl | rfl | rfl <;> revert named <;> decide
  · rintro rfl
    revert named
    decide
  · rintro rfl
    revert named
    decide

/-! ### Names -/

theorem takeWhile_append_cons {holds : Char → Bool} {name : List Char} {character : Char}
    (all : ∀ letter ∈ name, holds letter = true) (other : holds character = false)
    (rest : List Char) : (name ++ character :: rest).takeWhile holds = name := by
  rw [List.takeWhile_append_of_pos all,
    List.takeWhile_cons_of_neg (by rw [other]; exact Bool.false_ne_true), List.append_nil]

theorem dropWhile_append_cons {holds : Char → Bool} {name : List Char} {character : Char}
    (all : ∀ letter ∈ name, holds letter = true) (other : holds character = false)
    (rest : List Char) : (name ++ character :: rest).dropWhile holds = character :: rest := by
  rw [List.dropWhile_append_of_pos all,
    List.dropWhile_cons_of_neg (by rw [other]; exact Bool.false_ne_true)]

/-! ### Built-in tags -/

theorem isNameCharacter_of_isAlpha {letter : Char} (alphabetic : letter.isAlpha = true) :
    isNameCharacter letter = true := by
  have ascii : letter.toNat < 128 := by
    rcases (Bool.or_eq_true _ _).mp alphabetic with upper | lower
    · have bounds : 'A'.val ≤ letter.val ∧ letter.val ≤ 'Z'.val := of_decide_eq_true upper
      exact Nat.lt_of_le_of_lt (UInt32.le_iff_toNat_le.mp bounds.2) (by decide)
    · have bounds := (Bool.and_eq_true_iff.mp lower).2
      exact Nat.lt_of_le_of_lt (UInt32.le_iff_toNat_le.mp (of_decide_eq_true bounds)) (by decide)
  have alphanumeric : letter.isAlphanum = true := (Bool.or_eq_true _ _).mpr (.inl alphabetic)
  rw [isNameCharacter, isAlphanumeric_eq_isAlphanum ascii, alphanumeric]
  rfl

/-- A letter whose lower-case form is an ASCII letter is a name character. -/
theorem isNameCharacter_of_toLower {letter : Char} (lower : letter.toLower.isLower = true) :
    isNameCharacter letter = true := by
  apply isNameCharacter_of_isAlpha
  apply (Bool.or_eq_true _ _).mpr
  by_cases upper : letter.isUpper = true
  · exact .inl upper
  · have same : letter.toLower = letter := dif_neg fun bounds => upper (decide_eq_true bounds)
    rw [same] at lower
    exact .inr lower

/-- The name of a built-in tag is not empty and consists of name characters. -/
theorem nameCharacters_of_ofTag? {name : String} {kind : Kind}
    (builtIn : Kind.ofTag? name = some kind) :
    name.toList ≠ [] ∧ ∀ letter ∈ name.toList, isNameCharacter letter = true := by
  have word : name.toLower ∈ Kind.tags.map Prod.fst := by
    obtain ⟨before, behind, listed, _⟩ := List.lookup_eq_some_iff.mp builtIn
    rw [listed]
    simp
  have words : (Kind.tags.map Prod.fst).all fun word =>
      !word.toList.isEmpty && word.toList.all Char.isLower := by decide
  obtain ⟨nonempty, letters⟩ := Bool.and_eq_true_iff.mp (List.all_eq_true.mp words _ word)
  rw [toList_toLower] at nonempty letters
  constructor
  · intro empty
    rw [empty] at nonempty
    cases nonempty
  · intro letter member
    exact isNameCharacter_of_toLower (List.all_eq_true.mp letters _ (List.mem_map_of_mem member))

end SceneMarkup.Markup
