/-!
Contract: blank characters and trimming.

Owns:
- `isBlank`, the characters with the White_Space property;
- trimming of blanks at either end, on character lists and on strings.

Does not own: the narrower separator class used between the parts of a tag.
-/

namespace SceneMarkup.Text

/-- The twenty-five characters with the White_Space property. -/
def isBlank (character : Char) : Bool :=
  let codePoint := character.toNat
  (0x09 ≤ codePoint && codePoint ≤ 0x0D) || codePoint == 0x20 || codePoint == 0x85
    || codePoint == 0xA0 || codePoint == 0x1680
    || (0x2000 ≤ codePoint && codePoint ≤ 0x200A)
    || codePoint == 0x2028 || codePoint == 0x2029 || codePoint == 0x202F
    || codePoint == 0x205F || codePoint == 0x3000

def allBlank (text : List Char) : Bool := text.all isBlank

def trimStart (text : List Char) : List Char := text.dropWhile isBlank

def trimEnd (text : List Char) : List Char := (text.reverse.dropWhile isBlank).reverse

/-- The text without the blanks at either end. -/
def trim (text : List Char) : List Char := trimEnd (trimStart text)

def trimmed (text : String) : String := String.ofList (trim text.toList)

end SceneMarkup.Text
