import SceneMarkup.Text.Graphic

/-!
Contract: quoted text, the form in which messages show a value.

Owns:
- the escape of one character;
- `quoted`, a text between double quotes.

Does not own: JSON strings, which escape other characters.
-/

namespace SceneMarkup.Text

/-- A code point in braces, in lower-case hexadecimal digits without leading zeros. -/
def codePointEscape (character : Char) : String :=
  "\\u\x7b" ++ String.ofList (Nat.toDigits 16 character.toNat) ++ "\x7d"

/-- How one character is written between the quotes. -/
def quotedCharacter (character : Char) : String :=
  if character = '"' then "\\\""
  else if character = '\\' then "\\\\"
  else if character = '\n' then "\\n"
  else if character = '\r' then "\\r"
  else if character = '\t' then "\\t"
  else if character = '\x00' then "\\0"
  else if isGraphic character then character.toString
  else codePointEscape character

/-- A text between double quotes, with escapes for quotes, backslashes and every character that
does not show by itself. -/
def quoted (text : String) : String :=
  "\"" ++ String.join (text.toList.map quotedCharacter) ++ "\""

end SceneMarkup.Text
