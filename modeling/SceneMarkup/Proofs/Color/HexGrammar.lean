import SceneMarkup.Proofs.Color.Hex
import SceneMarkup.Proofs.Color.Layout

/-!
Contract: the grammar of hexadecimal literals and their normal form.

Owns:
- `StandsFor`, the colour that a row of digits stands for, by the places of the digits alone;
- the texts that are read as literals, also when they are read byte by byte;
- the theorem that literals are read by the grammar and that a colour is written in a normal form,
  which is read back.

Does not own: the other written forms.
-/

namespace SceneMarkup.Color

open SceneMarkup.Number SceneMarkup.Text

/-! ### Statement -/

def lowerDigits : List Char :=
  ['0', '1', '2', '3', '4', '5', '6', '7', '8', '9', 'a', 'b', 'c', 'd', 'e', 'f']

def upperDigits : List Char :=
  ['0', '1', '2', '3', '4', '5', '6', '7', '8', '9', 'A', 'B', 'C', 'D', 'E', 'F']

/-- The value of a digit is its place among the digits of its case. -/
def HasValue (digit : Char) (value : Nat) : Prop :=
  lowerDigits[value]? = some digit ∨ upperDigits[value]? = some digit

/-- Two digits write a byte. -/
def WritesByte (high low : Char) (byte : UInt8) : Prop :=
  ∃ upper lower, HasValue high upper ∧ HasValue low lower ∧ byte.toNat = 16 * upper + lower

/-- The colour that a row of digits stands for. The alpha of eight digits comes first or last. -/
inductive StandsFor : HexLayout → List Char → Color → Prop where
  | doubled {layout : HexLayout} {r g b : Char} {red green blue : UInt8}
      (writesRed : WritesByte r r red) (writesGreen : WritesByte g g green)
      (writesBlue : WritesByte b b blue) :
      StandsFor layout [r, g, b] ⟨red, green, blue, 255⟩
  | paired {layout : HexLayout} {r₁ r₀ g₁ g₀ b₁ b₀ : Char} {red green blue : UInt8}
      (writesRed : WritesByte r₁ r₀ red) (writesGreen : WritesByte g₁ g₀ green)
      (writesBlue : WritesByte b₁ b₀ blue) :
      StandsFor layout [r₁, r₀, g₁, g₀, b₁, b₀] ⟨red, green, blue, 255⟩
  | alphaFirst {a₁ a₀ r₁ r₀ g₁ g₀ b₁ b₀ : Char} {red green blue alpha : UInt8}
      (writesAlpha : WritesByte a₁ a₀ alpha) (writesRed : WritesByte r₁ r₀ red)
      (writesGreen : WritesByte g₁ g₀ green) (writesBlue : WritesByte b₁ b₀ blue) :
      StandsFor .argb [a₁, a₀, r₁, r₀, g₁, g₀, b₁, b₀] ⟨red, green, blue, alpha⟩
  | alphaLast {r₁ r₀ g₁ g₀ b₁ b₀ a₁ a₀ : Char} {red green blue alpha : UInt8}
      (writesRed : WritesByte r₁ r₀ red) (writesGreen : WritesByte g₁ g₀ green)
      (writesBlue : WritesByte b₁ b₀ blue) (writesAlpha : WritesByte a₁ a₀ alpha) :
      StandsFor .rgba [r₁, r₀, g₁, g₀, b₁, b₀, a₁, a₀] ⟨red, green, blue, alpha⟩

/-- A row of three, six or eight hexadecimal digits. -/
def IsDigitRow (digits : List Char) : Prop :=
  (digits.length = 3 ∨ digits.length = 6 ∨ digits.length = 8) ∧
    ∀ digit ∈ digits, digit.isHexDigit = true

/-- A literal without one leading `#`. -/
def behindHash : List Char → List Char
  | '#' :: digits => digits
  | digits => digits

/-- The bytes of a text in UTF-8, each as the character with its number. -/
def bytewise (text : List Char) : List Char :=
  text.flatMap fun character => (String.utf8EncodeChar character).map Char.ofUInt8

/-- A literal is read by the grammar. -/
structure ReadByGrammar (literal : List Char) : Prop where
  accepted : ∀ layout,
    (∃ color, ofHex? literal layout = some color) ↔ IsDigitRow (behindHash literal)
  meaning : ∀ layout color,
    ofHex? literal layout = some color ↔ StandsFor layout (behindHash literal) color
  bytes : ∀ layout, ofHexDigits? layout (bytewise (behindHash literal)) = ofHex? literal layout
  supplied : ∀ layout color, ofHex? literal layout = some color →
    (behindHash literal).length ≠ 8 → color.alpha = 255
  doubled : ∀ (layout : HexLayout) (other : List Char) (r g b : Char),
    behindHash literal = [r, g, b] → behindHash other = [r, r, g, g, b, b] →
      ofHex? literal layout = ofHex? other layout
  reordered : ∀ (other : List Char) (a₁ a₀ r₁ r₀ g₁ g₀ b₁ b₀ : Char),
    behindHash literal = [a₁, a₀, r₁, r₀, g₁, g₀, b₁, b₀] →
    behindHash other = [r₁, r₀, g₁, g₀, b₁, b₀, a₁, a₀] →
      ofHex? literal .argb = ofHex? other .rgba

/-- A colour is written with upper-case digits, those of alpha only where it is not opaque, and it
is read back, also from between blanks. -/
structure WrittenInNormalForm (color : Color) : Prop where
  form : ∃ digits, color.toHex.toList = '#' :: digits ∧
    digits.length = (if color.alpha = 255 then 6 else 8) ∧ ∀ digit ∈ digits, digit ∈ upperDigits
  readBack : ∀ before behind : String,
    allBlank before.toList = true → allBlank behind.toList = true →
      resolve? (before ++ color.toHex ++ behind) .rgba = some color
  readBackAnywhere : color.alpha = 255 → ∀ (layout : HexLayout) (before behind : String),
    allBlank before.toList = true → allBlank behind.toList = true →
      resolve? (before ++ color.toHex ++ behind) layout = some color

/-! ### Digits -/

theorem isSome_hexValue? (digit : Char) : (hexValue? digit).isSome = digit.isHexDigit := by
  simp only [hexValue?, Char.isHexDigit, Char.isDigit, Char.le_def]
  grind

theorem toNat_lt_of_isHexDigit {digit : Char} (hexadecimal : digit.isHexDigit = true) :
    digit.toNat < 128 := by
  have number : digit.toNat = digit.val.toNat := rfl
  have nine : ('9'.val).toNat = 57 := rfl
  have lowerF : ('f'.val).toNat = 102 := rfl
  have upperF : ('F'.val).toNat = 70 := rfl
  simp only [Char.isHexDigit, Char.isDigit, Bool.or_eq_true, Bool.and_eq_true, decide_eq_true_eq,
    ge_iff_le, UInt32.le_iff_toNat_le] at hexadecimal
  omega

/-- The value of a digit is the one that the reader finds. -/
theorem hexValue?_eq_some_iff {digit : Char} {value : Nat} :
    hexValue? digit = some value ↔ HasValue digit value := by
  constructor
  · intro read
    have ascii : digit.toNat < 128 := by
      apply toNat_lt_of_isHexDigit
      rw [← isSome_hexValue?, read]
      rfl
    -- The reader accepts nothing outside of ASCII, so that what it accepts can be listed.
    have table : ∀ code < 128, ∀ value ∈ hexValue? (Char.ofNat code),
        lowerDigits[value]? = some (Char.ofNat code) ∨
          upperDigits[value]? = some (Char.ofNat code) := by
      decide
    have found := table digit.toNat ascii value (by rw [Char.ofNat_toNat]; exact read)
    rwa [Char.ofNat_toNat] at found
  · have lower : ∀ place : Fin 16, hexValue? (lowerDigits.get place) = some place.val := by decide
    have upper : ∀ place : Fin 16, hexValue? (upperDigits.get place) = some place.val := by decide
    rintro (here | here)
    · obtain ⟨bound, rfl⟩ := List.getElem?_eq_some_iff.mp here
      exact lower ⟨value, bound⟩
    · obtain ⟨bound, rfl⟩ := List.getElem?_eq_some_iff.mp here
      exact upper ⟨value, bound⟩

theorem lt_of_hasValue {digit : Char} {value : Nat} (has : HasValue digit value) : value < 16 := by
  rcases has with here | here
  · exact (List.getElem?_eq_some_iff.mp here).1
  · exact (List.getElem?_eq_some_iff.mp here).1

theorem isHexDigit_iff {digit : Char} :
    digit.isHexDigit = true ↔ ∃ value, HasValue digit value := by
  simp only [← isSome_hexValue?, Option.isSome_iff_exists, hexValue?_eq_some_iff]

/-! ### Rows of digits -/

theorem hexByte?_eq_some_iff {high low : Char} {byte : UInt8} :
    hexByte? high low = some byte ↔ WritesByte high low byte := by
  constructor
  · intro read
    obtain ⟨upper, readUpper, rest⟩ := Option.bind_eq_some_iff.mp read
    obtain ⟨lower, readLower, given⟩ := Option.bind_eq_some_iff.mp rest
    cases given
    have hasUpper := hexValue?_eq_some_iff.mp readUpper
    have hasLower := hexValue?_eq_some_iff.mp readLower
    have upperBound := lt_of_hasValue hasUpper
    have lowerBound := lt_of_hasValue hasLower
    refine ⟨upper, lower, hasUpper, hasLower, ?_⟩
    rw [Nat.toUInt8_eq, UInt8.toNat_ofNat']
    omega
  · rintro ⟨upper, lower, hasUpper, hasLower, written⟩
    rw [hexByte?, hexValue?_eq_some_iff.mpr hasUpper, hexValue?_eq_some_iff.mpr hasLower]
    show some (16 * upper + lower).toUInt8 = some byte
    rw [← written, Nat.toUInt8_eq, UInt8.ofNat_toNat]

theorem exists_writesByte {high low : Char} (isHigh : high.isHexDigit = true)
    (isLow : low.isHexDigit = true) : ∃ byte, WritesByte high low byte := by
  obtain ⟨upper, hasUpper⟩ := isHexDigit_iff.mp isHigh
  obtain ⟨lower, hasLower⟩ := isHexDigit_iff.mp isLow
  have upperBound := lt_of_hasValue hasUpper
  have lowerBound := lt_of_hasValue hasLower
  refine ⟨UInt8.ofNat (16 * upper + lower), upper, lower, hasUpper, hasLower, ?_⟩
  rw [UInt8.toNat_ofNat']
  omega

theorem isHexDigit_of_writesByte {high low : Char} {byte : UInt8}
    (writes : WritesByte high low byte) : high.isHexDigit = true ∧ low.isHexDigit = true := by
  obtain ⟨upper, lower, hasUpper, hasLower, -⟩ := writes
  exact ⟨isHexDigit_iff.mpr ⟨upper, hasUpper⟩, isHexDigit_iff.mpr ⟨lower, hasLower⟩⟩

section Rows

variable {layout : HexLayout} {digits : List Char} {color : Color}

/-- A row of digits is read as the colour it stands for. -/
theorem ofHexDigits?_eq_some_iff :
    ofHexDigits? layout digits = some color ↔ StandsFor layout digits color := by
  constructor
  · intro read
    unfold ofHexDigits? at read
    split at read
    · obtain ⟨red, readRed, read⟩ := Option.bind_eq_some_iff.mp read
      obtain ⟨green, readGreen, read⟩ := Option.bind_eq_some_iff.mp read
      obtain ⟨blue, readBlue, read⟩ := Option.bind_eq_some_iff.mp read
      cases read
      exact .doubled (hexByte?_eq_some_iff.mp readRed) (hexByte?_eq_some_iff.mp readGreen)
        (hexByte?_eq_some_iff.mp readBlue)
    · obtain ⟨red, readRed, read⟩ := Option.bind_eq_some_iff.mp read
      obtain ⟨green, readGreen, read⟩ := Option.bind_eq_some_iff.mp read
      obtain ⟨blue, readBlue, read⟩ := Option.bind_eq_some_iff.mp read
      cases read
      exact .paired (hexByte?_eq_some_iff.mp readRed) (hexByte?_eq_some_iff.mp readGreen)
        (hexByte?_eq_some_iff.mp readBlue)
    · obtain ⟨first, readFirst, read⟩ := Option.bind_eq_some_iff.mp read
      obtain ⟨second, readSecond, read⟩ := Option.bind_eq_some_iff.mp read
      obtain ⟨third, readThird, read⟩ := Option.bind_eq_some_iff.mp read
      obtain ⟨fourth, readFourth, read⟩ := Option.bind_eq_some_iff.mp read
      have writesFirst := hexByte?_eq_some_iff.mp readFirst
      have writesSecond := hexByte?_eq_some_iff.mp readSecond
      have writesThird := hexByte?_eq_some_iff.mp readThird
      have writesFourth := hexByte?_eq_some_iff.mp readFourth
      cases layout with
      | argb =>
        cases read
        exact .alphaFirst writesFirst writesSecond writesThird writesFourth
      | rgba =>
        cases read
        exact .alphaLast writesFirst writesSecond writesThird writesFourth
    · cases read
  · intro stands
    cases stands with
    | doubled writesRed writesGreen writesBlue
    | paired writesRed writesGreen writesBlue =>
      rw [ofHexDigits?, hexByte?_eq_some_iff.mpr writesRed, hexByte?_eq_some_iff.mpr writesGreen,
        hexByte?_eq_some_iff.mpr writesBlue]
      rfl
    | alphaFirst writesAlpha writesRed writesGreen writesBlue
    | alphaLast writesRed writesGreen writesBlue writesAlpha =>
      rw [ofHexDigits?, hexByte?_eq_some_iff.mpr writesRed, hexByte?_eq_some_iff.mpr writesGreen,
        hexByte?_eq_some_iff.mpr writesBlue, hexByte?_eq_some_iff.mpr writesAlpha]
      rfl

theorem StandsFor.isDigitRow (stands : StandsFor layout digits color) : IsDigitRow digits := by
  cases stands with
  | doubled writesRed writesGreen writesBlue
  | paired writesRed writesGreen writesBlue =>
    have red := isHexDigit_of_writesByte writesRed
    have green := isHexDigit_of_writesByte writesGreen
    have blue := isHexDigit_of_writesByte writesBlue
    simp [IsDigitRow, red, green, blue]
  | alphaFirst writesAlpha writesRed writesGreen writesBlue
  | alphaLast writesRed writesGreen writesBlue writesAlpha =>
    have red := isHexDigit_of_writesByte writesRed
    have green := isHexDigit_of_writesByte writesGreen
    have blue := isHexDigit_of_writesByte writesBlue
    have alpha := isHexDigit_of_writesByte writesAlpha
    simp [IsDigitRow, red, green, blue, alpha]

/-- Every row of three, six or eight digits stands for a colour in either layout. -/
theorem IsDigitRow.exists_standsFor (row : IsDigitRow digits) (layout : HexLayout) :
    ∃ color, StandsFor layout digits color := by
  obtain ⟨length, hexadecimal⟩ := row
  match digits, length with
  | [r, g, b], _ =>
    simp only [List.forall_mem_cons] at hexadecimal
    obtain ⟨isR, isG, isB, -⟩ := hexadecimal
    obtain ⟨red, writesRed⟩ := exists_writesByte isR isR
    obtain ⟨green, writesGreen⟩ := exists_writesByte isG isG
    obtain ⟨blue, writesBlue⟩ := exists_writesByte isB isB
    exact ⟨_, .doubled writesRed writesGreen writesBlue⟩
  | [r₁, r₀, g₁, g₀, b₁, b₀], _ =>
    simp only [List.forall_mem_cons] at hexadecimal
    obtain ⟨isR₁, isR₀, isG₁, isG₀, isB₁, isB₀, -⟩ := hexadecimal
    obtain ⟨red, writesRed⟩ := exists_writesByte isR₁ isR₀
    obtain ⟨green, writesGreen⟩ := exists_writesByte isG₁ isG₀
    obtain ⟨blue, writesBlue⟩ := exists_writesByte isB₁ isB₀
    exact ⟨_, .paired writesRed writesGreen writesBlue⟩
  | [c₀, c₁, c₂, c₃, c₄, c₅, c₆, c₇], _ =>
    simp only [List.forall_mem_cons] at hexadecimal
    obtain ⟨is₀, is₁, is₂, is₃, is₄, is₅, is₆, is₇, -⟩ := hexadecimal
    obtain ⟨first, writesFirst⟩ := exists_writesByte is₀ is₁
    obtain ⟨second, writesSecond⟩ := exists_writesByte is₂ is₃
    obtain ⟨third, writesThird⟩ := exists_writesByte is₄ is₅
    obtain ⟨fourth, writesFourth⟩ := exists_writesByte is₆ is₇
    cases layout with
    | argb => exact ⟨_, .alphaFirst writesFirst writesSecond writesThird writesFourth⟩
    | rgba => exact ⟨_, .alphaLast writesFirst writesSecond writesThird writesFourth⟩

theorem exists_ofHexDigits?_iff (layout : HexLayout) (digits : List Char) :
    (∃ color, ofHexDigits? layout digits = some color) ↔ IsDigitRow digits := by
  simp only [ofHexDigits?_eq_some_iff]
  exact ⟨fun ⟨_, stands⟩ => stands.isDigitRow, fun row => row.exists_standsFor layout⟩

theorem ofHexDigits?_eq_none {digit : Char} (member : digit ∈ digits) (beyond : 128 ≤ digit.toNat) :
    ofHexDigits? layout digits = none := by
  refine Option.eq_none_iff_forall_ne_some.mpr fun color read => ?_
  have row := (exists_ofHexDigits?_iff layout digits).mp ⟨color, read⟩
  exact Nat.not_lt.mpr beyond (toNat_lt_of_isHexDigit (row.2 digit member))

theorem StandsFor.alpha_eq (stands : StandsFor layout digits color) (others : digits.length ≠ 8) :
    color.alpha = 255 := by
  cases stands with
  | doubled | paired => rfl
  | alphaFirst | alphaLast => exact absurd rfl others

theorem standsFor_doubled_iff {r g b : Char} :
    StandsFor layout [r, g, b] color ↔ StandsFor layout [r, r, g, g, b, b] color := by
  constructor
  · intro stands
    cases stands with
    | doubled writesRed writesGreen writesBlue => exact .paired writesRed writesGreen writesBlue
  · intro stands
    cases stands with
    | paired writesRed writesGreen writesBlue => exact .doubled writesRed writesGreen writesBlue

theorem standsFor_reordered_iff {a₁ a₀ r₁ r₀ g₁ g₀ b₁ b₀ : Char} :
    StandsFor .argb [a₁, a₀, r₁, r₀, g₁, g₀, b₁, b₀] color ↔
      StandsFor .rgba [r₁, r₀, g₁, g₀, b₁, b₀, a₁, a₀] color := by
  constructor
  · intro stands
    cases stands with
    | alphaFirst writesAlpha writesRed writesGreen writesBlue =>
      exact .alphaLast writesRed writesGreen writesBlue writesAlpha
  · intro stands
    cases stands with
    | alphaLast writesRed writesGreen writesBlue writesAlpha =>
      exact .alphaFirst writesAlpha writesRed writesGreen writesBlue

end Rows

/-! ### Literals -/

theorem ofHex?_eq (literal : List Char) (layout : HexLayout) :
    ofHex? literal layout = ofHexDigits? layout (behindHash literal) := by
  unfold ofHex?
  split
  · rfl
  · rename_i others
    rw [behindHash]
    exact others

theorem toNat_ofUInt8 (byte : UInt8) : (Char.ofUInt8 byte).toNat = byte.toNat := rfl

/-- A character outside of ASCII has a byte that is no digit. -/
theorem exists_mem_utf8EncodeChar {character : Char} (beyond : 128 ≤ character.toNat) :
    ∃ byte ∈ String.utf8EncodeChar character, 128 ≤ byte.toNat := by
  have number : character.toNat = character.val.toNat := rfl
  unfold String.utf8EncodeChar
  dsimp only
  split
  · omega
  · split
    · exact ⟨_, List.mem_cons_self, by rw [UInt8.toNat_ofNat']; omega⟩
    · split
      · exact ⟨_, List.mem_cons_self, by rw [UInt8.toNat_ofNat']; omega⟩
      · exact ⟨_, List.mem_cons_self, by rw [UInt8.toNat_ofNat']; omega⟩

theorem bytewise_of_ascii {text : List Char} (ascii : ∀ character ∈ text, character.toNat < 128) :
    bytewise text = text := by
  induction text with
  | nil => rfl
  | cons character rest inductionHypothesis =>
    obtain ⟨here, behind⟩ := List.forall_mem_cons.mp ascii
    have single : String.utf8EncodeChar character = [UInt8.ofNat character.toNat] :=
      if_pos (Nat.le_of_lt_succ here)
    have same : Char.ofUInt8 (UInt8.ofNat character.toNat) = character := by
      apply Char.toNat_inj.mp
      rw [toNat_ofUInt8, UInt8.toNat_ofNat']
      omega
    rw [bytewise, List.flatMap_cons, single, List.map_singleton, same]
    exact congrArg (character :: ·) (inductionHypothesis behind)

/-- Byte by byte a text is read as it is character by character. -/
theorem ofHexDigits?_bytewise (layout : HexLayout) (text : List Char) :
    ofHexDigits? layout (bytewise text) = ofHexDigits? layout text := by
  -- Outside of ASCII neither reading accepts anything, whatever the number of bytes.
  by_cases beyond : ∃ character ∈ text, 128 ≤ character.toNat
  · obtain ⟨character, member, beyond⟩ := beyond
    obtain ⟨byte, memberByte, beyondByte⟩ := exists_mem_utf8EncodeChar beyond
    have apart : Char.ofUInt8 byte ∈ bytewise text :=
      List.mem_flatMap.mpr ⟨character, member, List.mem_map_of_mem memberByte⟩
    rw [ofHexDigits?_eq_none apart (by rwa [toNat_ofUInt8]), ofHexDigits?_eq_none member beyond]
  · rw [bytewise_of_ascii fun character member =>
      Nat.lt_of_not_le fun here => beyond ⟨character, member, here⟩]

example : (bytewise ['é', '0']).length = 3 ∧ ofHex? ['é', '0'] .argb = none := by decide

theorem readByGrammar (literal : List Char) : ReadByGrammar literal where
  accepted layout := by
    rw [← exists_ofHexDigits?_iff layout, ofHex?_eq]
  meaning layout color := by
    rw [ofHex?_eq, ofHexDigits?_eq_some_iff]
  bytes layout := by
    rw [ofHexDigits?_bytewise, ofHex?_eq]
  supplied layout color read others := by
    rw [ofHex?_eq, ofHexDigits?_eq_some_iff] at read
    exact read.alpha_eq others
  doubled layout other r g b digits otherDigits := by
    ext color
    rw [ofHex?_eq, digits, ofHexDigits?_eq_some_iff, standsFor_doubled_iff, ofHex?_eq, otherDigits,
      ofHexDigits?_eq_some_iff]
  reordered other a₁ a₀ r₁ r₀ g₁ g₀ b₁ b₀ digits otherDigits := by
    ext color
    rw [ofHex?_eq, digits, ofHexDigits?_eq_some_iff, standsFor_reordered_iff, ofHex?_eq,
      otherDigits, ofHexDigits?_eq_some_iff]

/-! ### Written colours -/

theorem hexDigit_mem_upperDigits : ∀ value < 16, hexDigit value ∈ upperDigits := by
  decide

theorem length_hexDigits (color : Color) :
    color.hexDigits.length = if color.alpha = 255 then 6 else 8 := by
  unfold hexDigits
  split <;> rfl

/-- The literal of a colour is read from between blanks as its digits are. -/
theorem resolve?_of_toHex (color : Color) (layout : HexLayout) {before behind : String}
    (blankBefore : allBlank before.toList = true) (blankBehind : allBlank behind.toList = true) :
    resolve? (before ++ color.toHex ++ behind) layout = ofHexDigits? layout color.hexDigits := by
  have begins : trim (before ++ color.toHex ++ behind).toList = '#' :: color.hexDigits := by
    rw [String.toList_append, String.toList_append, trim_append_allBlank _ blankBehind,
      trim_append_of_allBlank blankBefore, trim_toHex]
  rw [resolve?, begins]
  rfl

theorem writtenInNormalForm (color : Color) : WrittenInNormalForm color where
  form := by
    refine ⟨color.hexDigits, String.toList_ofList, length_hexDigits color, fun digit member => ?_⟩
    obtain ⟨value, bound, rfl⟩ := exists_of_mem_hexDigits member
    exact hexDigit_mem_upperDigits value bound
  readBack before behind blankBefore blankBehind := by
    rw [resolve?_of_toHex color .rgba blankBefore blankBehind, ofHexDigits?_hexDigits]
  readBackAnywhere full layout before behind blankBefore blankBehind := by
    have short : color.hexDigits.length ≠ 8 := by
      rw [length_hexDigits, if_pos full]
      decide
    have same : ofHexDigits? layout color.hexDigits = ofHexDigits? .rgba color.hexDigits := by
      cases layout with
      | argb => exact ofHexDigits?_layout fun long => short long.1
      | rgba => rfl
    rw [resolve?_of_toHex color layout blankBefore blankBehind, same, ofHexDigits?_hexDigits]

/-- Every text is read as a hexadecimal literal by the grammar, and every colour is written in its
normal form. -/
theorem hex_grammar_and_normal_form :
    (∀ literal, ReadByGrammar literal) ∧ ∀ color, WrittenInNormalForm color :=
  ⟨readByGrammar, writtenInNormalForm⟩

end SceneMarkup.Color
