import SceneMarkup.Color.Functional
import SceneMarkup.Color.Hex
import SceneMarkup.Color.Palette

/-!
Contract: the colour an attribute value stands for.

Owns:
- the choice between the written forms by the beginning of the value;
- the fallback for values that no form accepts.

Does not own: the forms themselves.
-/

namespace SceneMarkup.Color

open SceneMarkup.Text

/-- Whether a value begins like a colour function, in letters of either case. -/
def startsLikeFunction : List Char → Bool
  | r :: g :: b :: _ => r.toLower == 'r' && g.toLower == 'g' && b.toLower == 'b'
  | _ => false

/-- The colour of a value, if some form accepts it. A `#` leads to the hexadecimal form alone,
and the letters `rgb` to the functional one alone. -/
def resolve? (value : String) (layout : HexLayout) : Option Color :=
  match trim value.toList with
  | '#' :: digits => ofHexDigits? layout digits
  | text => if startsLikeFunction text then ofFunction? text else named? (String.ofList text)

/-- The colour of a value, black where no form accepts it. -/
def resolve (value : String) (layout : HexLayout) : Color := (resolve? value layout).getD black

end SceneMarkup.Color
