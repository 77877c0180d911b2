import SceneMarkup.Json.Draft
import SceneMarkup.Json.Reader

/-!
Contract: strings and numbers in JSON text, read in front of what follows them.

Owns:
- strings with all their escapes, read back from how they are written;
- numbers, which are read in front of a comma or a new line as they are read alone.

Does not own: which texts of numbers are numbers.
-/

namespace SceneMarkup.Json

open SceneMarkup.Number SceneMarkup.Text

/-! ### Strings -/

theorem stringBody?_plain {character : Char} (unquoted : character ≠ '"')
    (unescaped : character ≠ '\\') (printable : ¬ character.toNat < 0x20) (rest : List Char) :
    stringBody? (character :: rest) =
      (stringBody? rest).map fun (characters, behind) => (character :: characters, behind) := by
  rw [stringBody?]
  · rw [if_neg printable]
  · exact unquoted
  · exact unescaped

theorem stringBody?_escape {text behind : List Char} {character : Char}
    (read : escape? text = some (character, behind)) :
    stringBody? ('\\' :: text) =
      (stringBody? behind).map fun (characters, behind) => (character :: characters, behind) := by
  rw [stringBody?]
  split
  · rename_i unread
    rw [read] at unread
    cases unread
  · rename_i _ _ same
    rw [read] at same
    cases same
    rfl

theorem hexValue?_digitChar : ∀ digit < 16, hexValue? (Nat.digitChar digit) = some digit := by
  decide

/-- A control character without an escape of its own is written by its code unit. -/
theorem escape?_control {character : Char} (control : character.toNat < 0x20)
    (rest : List Char) :
    escape? ('u' :: '0' :: '0' :: Nat.digitChar (character.toNat / 16) ::
      Nat.digitChar (character.toNat % 16) :: rest) = some (character, rest) := by
  have high := hexValue?_digitChar (character.toNat / 16) (by omega)
  have low := hexValue?_digitChar (character.toNat % 16) (by omega)
  have zero : hexValue? '0' = some 0 := by decide
  have unit : codeUnit? ('0' :: '0' :: Nat.digitChar (character.toNat / 16) ::
      Nat.digitChar (character.toNat % 16) :: rest) = some (character.toNat, rest) := by
    simp only [codeUnit?, high, low, zero]
    show some (4096 * 0 + 256 * 0 + 16 * (character.toNat / 16) + character.toNat % 16, rest) = _
    congr 2
    omega
  have leads : isLeadingUnit character.toNat = false := by
    unfold isLeadingUnit
    simp
    omega
  have trails : isTrailingUnit character.toNat = false := by
    unfold isTrailingUnit
    simp
    omega
  rw [escape?, if_pos rfl, unicodeEscape?, unit]
  simp [leads, trails]

/-- A character is read back from how it is written. -/
theorem stringBody?_writtenCharacter (character : Char) (rest : List Char) :
    stringBody? (writtenCharacter character ++ rest) =
      (stringBody? rest).map fun (characters, behind) => (character :: characters, behind) := by
  unfold writtenCharacter
  by_cases quote : character = '"'
  · rw [if_pos quote, quote]
    exact stringBody?_escape rfl
  rw [if_neg quote]
  by_cases backslash : character = '\\'
  · rw [if_pos backslash, backslash]
    exact stringBody?_escape rfl
  rw [if_neg backslash]
  by_cases backspace : character = '\x08'
  · rw [if_pos backspace, backspace]
    exact stringBody?_escape rfl
  rw [if_neg backspace]
  by_cases tab : character = '\t'
  · rw [if_pos tab, tab]
    exact stringBody?_escape rfl
  rw [if_neg tab]
  by_cases lineFeed : character = '\n'
  · rw [if_pos lineFeed, lineFeed]
    exact stringBody?_escape rfl
  rw [if_neg lineFeed]
  by_cases formFeed : character = '\x0c'
  · rw [if_pos formFeed, formFeed]
    exact stringBody?_escape rfl
  rw [if_neg formFeed]
  by_cases carriageReturn : character = '\r'
  · rw [if_pos carriageReturn, carriageReturn]
    exact stringBody?_escape rfl
  rw [if_neg carriageReturn]
  by_cases control : character.toNat < 0x20
  · rw [if_pos control]
    exact stringBody?_escape (escape?_control control rest)
  · rw [if_neg control]
    exact stringBody?_plain quote backslash control rest

theorem stringBody?_written (characters rest : List Char) :
    stringBody? (characters.flatMap writtenCharacter ++ '"' :: rest) =
      some (characters, rest) := by
  induction characters with
  | nil =>
    rw [List.flatMap_nil, List.nil_append, stringBody?]
  | cons character others inductionHypothesis =>
    rw [List.flatMap_cons, List.append_assoc, stringBody?_writtenCharacter, inductionHypothesis]
    rfl

/-! ### Numbers -/

/-- A text goes on with what ends a number: a comma or a new line, or nothing at all. -/
def EndsNumber (behind : List Char) : Prop :=
  ∀ character ∈ behind.head?, character = ',' ∨ character = '\n'

theorem endsNumber_nil : EndsNumber [] := by
  intro character member
  cases member

theorem endsNumber_cons {character : Char} (ends : character = ',' ∨ character = '\n')
    (rest : List Char) : EndsNumber (character :: rest) := by
  intro other member
  rw [List.head?_cons, Option.mem_some_iff] at member
  exact member ▸ ends

section Numbers

variable {behind : List Char}

theorem takeWhile_isDigit_append (ends : EndsNumber behind) (text : List Char) :
    (text ++ behind).takeWhile isDigit = text.takeWhile isDigit := by
  induction text with
  | nil =>
    cases behind with
    | nil => rfl
    | cons character rest =>
      rcases ends character rfl with rfl | rfl <;> rfl
  | cons character rest inductionHypothesis =>
    rw [List.cons_append, List.takeWhile_cons, List.takeWhile_cons, inductionHypothesis]

theorem dropWhile_isDigit_append (ends : EndsNumber behind) (text : List Char) :
    (text ++ behind).dropWhile isDigit = text.dropWhile isDigit ++ behind := by
  induction text with
  | nil =>
    cases behind with
    | nil => rfl
    | cons character rest =>
      rcases ends character rfl with rfl | rfl <;> rfl
  | cons character rest inductionHypothesis =>
    rw [List.cons_append, List.dropWhile_cons, List.dropWhile_cons, inductionHypothesis]
    split <;> rfl

theorem sign_append (ends : EndsNumber behind) (text : List Char) :
    NumberText.sign (text ++ behind) =
      ((NumberText.sign text).1, (NumberText.sign text).2 ++ behind) := by
  cases text with
  | nil =>
    cases behind with
    | nil => rfl
    | cons character rest =>
      rcases ends character rfl with rfl | rfl <;> rfl
  | cons character rest =>
    by_cases minus : character = '-'
    · rw [minus]
      rfl
    · simp [NumberText.sign, minus]

theorem signOf_append (ends : EndsNumber behind) (text : List Char) :
    Reading.signOf (text ++ behind) =
      ((Reading.signOf text).1, (Reading.signOf text).2 ++ behind) := by
  cases text with
  | nil =>
    cases behind with
    | nil => rfl
    | cons character rest =>
      rcases ends character rfl with rfl | rfl <;> rfl
  | cons character rest =>
    by_cases minus : character = '-'
    · rw [minus]
      rfl
    by_cases plus : character = '+'
    · rw [plus]
      rfl
    · simp [Reading.signOf, minus, plus]

theorem integer?_append (ends : EndsNumber behind) (text : List Char) :
    NumberText.integer? (text ++ behind) =
      (NumberText.integer? text).map fun (digits, rest) => (digits, rest ++ behind) := by
  unfold NumberText.integer?
  rw [takeWhile_isDigit_append ends, dropWhile_isDigit_append ends]
  split <;> rfl

theorem fraction?_append (ends : EndsNumber behind) (text : List Char) :
    NumberText.fraction? (text ++ behind) =
      (NumberText.fraction? text).map fun (digits, rest) => (digits, rest ++ behind) := by
  cases text with
  | nil =>
    cases behind with
    | nil => rfl
    | cons character rest =>
      rcases ends character rfl with rfl | rfl <;> rfl
  | cons character rest =>
    by_cases point : character = '.'
    · rw [point, List.cons_append, NumberText.fraction?, NumberText.fraction?,
        takeWhile_isDigit_append ends, dropWhile_isDigit_append ends]
      dsimp only
      split <;> rfl
    · simp [NumberText.fraction?, point]

theorem exponent?_append (ends : EndsNumber behind) (text : List Char) :
    NumberText.exponent? (text ++ behind) =
      (NumberText.exponent? text).map fun (exponent, rest) => (exponent, rest ++ behind) := by
  cases text with
  | nil =>
    cases behind with
    | nil => rfl
    | cons character rest =>
      rcases ends character rfl with rfl | rfl <;> rfl
  | cons character rest =>
    rw [List.cons_append, NumberText.exponent?, NumberText.exponent?]
    by_cases mark : character = 'e' ∨ character = 'E'
    · rw [if_pos mark, if_pos mark, signOf_append ends]
      dsimp only
      rw [takeWhile_isDigit_append ends, dropWhile_isDigit_append ends]
      split <;> rfl
    · rw [if_neg mark, if_neg mark]
      rfl

theorem written?_append (ends : EndsNumber behind) (text : List Char) :
    NumberText.written? (text ++ behind) =
      (NumberText.written? text).map fun (parts, rest) => (parts, rest ++ behind) := by
  unfold NumberText.written?
  rw [sign_append ends]
  dsimp only
  rw [integer?_append ends]
  cases NumberText.integer? (NumberText.sign text).2 with
  | none => rfl
  | some integer =>
    simp only [Option.map_some, Option.bind_eq_bind, Option.bind_some]
    rw [fraction?_append ends]
    cases NumberText.fraction? integer.2 with
    | none => rfl
    | some fraction =>
      simp only [Option.map_some, Option.bind_some]
      rw [exponent?_append ends]
      cases NumberText.exponent? fraction.2 <;> rfl

/-- A number is read in front of what ends it as it is read alone. -/
theorem number?_append (ends : EndsNumber behind) (text : List Char) :
    number? (text ++ behind) =
      (number? text).map fun (number, rest) => (number, rest ++ behind) := by
  unfold number?
  rw [written?_append ends]
  cases NumberText.written? text with
  | none => rfl
  | some parts =>
    simp only [Option.map_some, Option.bind_eq_bind, Option.bind_some]
    cases parts.1.value? <;> rfl

end Numbers

/-- A number begins with a minus or with a digit. -/
theorem exists_cons_of_number? {text behind : List Char} {number : Number}
    (read : number? text = some (number, behind)) :
    ∃ first rest, text = first :: rest ∧ (first = '-' ∨ isDigit first = true) := by
  obtain ⟨⟨parts, _⟩, readParts, _⟩ := Option.bind_eq_some_iff.mp read
  obtain ⟨integer, found, _⟩ := Option.bind_eq_some_iff.mp readParts
  have readInteger : NumberText.integer? (NumberText.sign text).2 = some integer := found
  cases text with
  | nil => cases readInteger
  | cons first rest =>
    refine ⟨first, rest, rfl, ?_⟩
    by_cases minus : first = '-'
    · exact .inl minus
    · right
      have unsigned : (NumberText.sign (first :: rest)).2 = first :: rest := by
        simp [NumberText.sign, minus]
      rw [unsigned, NumberText.integer?] at readInteger
      cases digit : isDigit first with
      | true => rfl
      | false => simp [digit] at readInteger

end SceneMarkup.Json
