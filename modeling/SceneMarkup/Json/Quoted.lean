import SceneMarkup.Number.Hexadecimal
import SceneMarkup.Text.Suffix

/-!
Contract: strings in JSON text.

Owns:
- the reader of a string behind its opening quote, with all escapes;
- the writer, which escapes quotes, backslashes and control characters and nothing else.

Does not own: quoted text in messages, which escapes other characters.
-/

namespace SceneMarkup.Json

open SceneMarkup.Number SceneMarkup.Text

/-- The character a one-letter escape stands for. -/
def simpleEscape? : Char → Option Char
  | '"' => some '"'
  | '\\' => some '\\'
  | '/' => some '/'
  | 'b' => some '\x08'
  | 'f' => some '\x0c'
  | 'n' => some '\n'
  | 'r' => some '\r'
  | 't' => some '\t'
  | _ => none

/-- The code unit of four hexadecimal digits, and the text behind them. -/
def codeUnit? : List Char → Option (Nat × List Char)
  | d₃ :: d₂ :: d₁ :: d₀ :: rest => do
    return (4096 * (← hexValue? d₃) + 256 * (← hexValue? d₂) + 16 * (← hexValue? d₁)
      + (← hexValue? d₀), rest)
  | _ => none

def isLeadingUnit (unit : Nat) : Bool := 0xD800 ≤ unit && unit ≤ 0xDBFF

/-- Whether a code unit is the second half of a pair. -/
def isTrailingUnit (unit : Nat) : Bool := 0xDC00 ≤ unit && unit ≤ 0xDFFF

/-- The second half of a pair of code units, written as an escape of its own. -/
def trailingUnit? (text : List Char) : Option (Nat × List Char) :=
  match text with
  | backslash :: letter :: rest =>
    if backslash = '\\' ∧ letter = 'u' then
      (codeUnit? rest).filter fun read => isTrailingUnit read.1
    else none
  | _ => none

/-- The character of an escape by code units, behind its letter, and the text behind it. Halves of
a pair of code units occur only together. -/
def unicodeEscape? (text : List Char) : Option (Char × List Char) :=
  match codeUnit? text with
  | none => none
  | some (unit, rest) =>
    if isLeadingUnit unit then
      (trailingUnit? rest).map fun (second, rest) =>
        (Char.ofNat (0x10000 + (unit - 0xD800) * 0x400 + (second - 0xDC00)), rest)
    else if isTrailingUnit unit then none
    else some (Char.ofNat unit, rest)

/-- The character an escape behind a backslash stands for, and the text behind it. -/
def escape? : List Char → Option (Char × List Char)
  | [] => none
  | letter :: rest =>
    if letter = 'u' then unicodeEscape? rest
    else (simpleEscape? letter).map fun character => (character, rest)

theorem suffix_of_codeUnit? {text behind : List Char} {unit : Nat}
    (read : codeUnit? text = some (unit, behind)) : behind <:+ text := by
  unfold codeUnit? at read
  split at read
  · simp only [bind, Option.bind_eq_some_iff, pure, Option.some.injEq, Prod.mk.injEq] at read
    obtain ⟨_, _, _, _, _, _, _, _, _, rfl⟩ := read
    exact (List.suffix_append [_, _, _, _] _)
  · cases read

theorem suffix_of_trailingUnit? {text behind : List Char} {unit : Nat}
    (read : trailingUnit? text = some (unit, behind)) : behind <:+ text := by
  unfold trailingUnit? at read
  split at read
  · rename_i backslash letter rest
    split at read
    · exact (suffix_of_codeUnit? (Option.filter_eq_some_iff.mp read).1).trans
        (List.suffix_append [backslash, letter] rest)
    · cases read
  · cases read

theorem suffix_of_unicodeEscape? {text behind : List Char} {character : Char}
    (read : unicodeEscape? text = some (character, behind)) : behind <:+ text := by
  unfold unicodeEscape? at read
  split at read
  · cases read
  · rename_i first
    split at read
    · obtain ⟨pair, second, same⟩ := Option.map_eq_some_iff.mp read
      have left : pair.2 = behind := congrArg Prod.snd same
      rw [← left]
      exact (suffix_of_trailingUnit? second).trans (suffix_of_codeUnit? first)
    · split at read
      · cases read
      · have left := congrArg Prod.snd (Option.some.inj read)
        simp only at left
        rw [← left]
        exact suffix_of_codeUnit? first

theorem properSuffix_of_escape? {text behind : List Char} {character : Char}
    (read : escape? text = some (character, behind)) : ProperSuffix behind text := by
  unfold escape? at read
  split at read
  · cases read
  · split at read
    · exact properSuffix_cons _ (suffix_of_unicodeEscape? read)
    · obtain ⟨_, _, same⟩ := Option.map_eq_some_iff.mp read
      cases same
      exact properSuffix_cons _ List.suffix_rfl

/-- The characters of a string up to its closing quote, and the text behind the quote. Control
characters stand only as escapes. -/
def stringBody? (text : List Char) : Option (List Char × List Char) :=
  match text with
  | [] => none
  | '"' :: rest => some ([], rest)
  | '\\' :: rest =>
    match _read : escape? rest with
    | none => none
    | some (character, behind) =>
      (stringBody? behind).map fun (characters, behind) => (character :: characters, behind)
  | character :: rest =>
    if character.toNat < 0x20 then none
    else (stringBody? rest).map fun (characters, behind) => (character :: characters, behind)
termination_by text.length
decreasing_by
  · have := (properSuffix_of_escape? _read).length_lt
    simp only [List.length_cons]
    omega
  · simp

theorem properSuffix_of_stringBody? {text behind characters : List Char}
    (read : stringBody? text = some (characters, behind)) : ProperSuffix behind text := by
  fun_induction stringBody? text generalizing characters with
  | case1 => cases read
  | case2 rest =>
    cases read
    exact properSuffix_cons _ List.suffix_rfl
  | case3 => cases read
  | case4 rest character escaped readEscape inductionHypothesis =>
    obtain ⟨cut, searched, same⟩ := Option.map_eq_some_iff.mp read
    cases same
    exact ((inductionHypothesis searched).trans_suffix
      (properSuffix_of_escape? readEscape).suffix).trans_suffix (List.suffix_cons _ _)
  | case5 => cases read
  | case6 character rest _ _ _ inductionHypothesis =>
    obtain ⟨cut, searched, same⟩ := Option.map_eq_some_iff.mp read
    cases same
    exact properSuffix_cons _ (inductionHypothesis searched).suffix

/-- How a character is written in a string. -/
def writtenCharacter (character : Char) : List Char :=
  if character = '"' then ['\\', '"']
  else if character = '\\' then ['\\', '\\']
  else if character = '\x08' then ['\\', 'b']
  else if character = '\t' then ['\\', 't']
  else if character = '\n' then ['\\', 'n']
  else if character = '\x0c' then ['\\', 'f']
  else if character = '\r' then ['\\', 'r']
  else if character.toNat < 0x20 then
    ['\\', 'u', '0', '0', Nat.digitChar (character.toNat / 16),
      Nat.digitChar (character.toNat % 16)]
  else [character]

def writtenString (characters : List Char) : List Char :=
  '"' :: (characters.flatMap writtenCharacter ++ ['"'])

end SceneMarkup.Json
