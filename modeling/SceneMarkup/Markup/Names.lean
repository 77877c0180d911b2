import SceneMarkup.Text.Alphanumeric

/-!
Contract: the character classes of markup.

Owns:
- the characters of tag names and of attribute names;
- the four characters that separate the parts of a tag.

Does not own: blanks in general, which end a bare attribute value.
-/

namespace SceneMarkup.Markup

open SceneMarkup.Text

def isNameCharacter (character : Char) : Bool := isAlphanumeric character || character == '_'

def isAttributeNameCharacter (character : Char) : Bool :=
  isNameCharacter character || character == '-' || character == ':' || character == '.'

/-- Space, tab and the two line-end characters. -/
def isSeparator (character : Char) : Bool :=
  character == ' ' || character == '\t' || character == '\r' || character == '\n'

/-- The text behind the separators it begins with. -/
def skipSeparators (text : List Char) : List Char := text.dropWhile isSeparator

theorem skipSeparators_suffix (text : List Char) : skipSeparators text <:+ text :=
  List.dropWhile_suffix isSeparator

end SceneMarkup.Markup
