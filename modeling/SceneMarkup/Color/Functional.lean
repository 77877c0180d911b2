import SceneMarkup.Color.Basic
import SceneMarkup.Number.Reading
import SceneMarkup.Text.Blank
import SceneMarkup.Text.Search

/-!
Contract: colours written as `rgb(r, g, b)` and `rgba(r, g, b, a)`.

Owns:
- the reader of both functions;
- the rounding of channel and alpha numbers to bytes.

Does not own: number grammar, which is that of `Number.Reading`.
-/

namespace SceneMarkup.Color

open SceneMarkup.Text SceneMarkup.Number

/-- A number moved into a range; what is not a number stays as it is. -/
def clampTo (low high value : Float32) : Float32 :=
  if value < low then low else if high < value then high else value

/-- The nearest byte of a value within the range of bytes, halves upwards; zero for what is not
a number. -/
def roundToByte (value : Float32) : UInt8 := (Binary.ofFloat32 value).roundToNat.toUInt8

def channel? (text : List Char) : Option UInt8 :=
  (readFloat32? text).map fun value => roundToByte (clampTo 0 255 value)

/-- An alpha number between zero and one, scaled to a byte. -/
def alpha? (text : List Char) : Option UInt8 :=
  (readFloat32? text).map fun value => roundToByte (clampTo 0 1 value * 255)

/-- The arguments of a text that ends with a closing parenthesis. -/
def arguments? (text : List Char) : Option (List (List Char)) :=
  match text.reverse with
  | ')' :: reversed => some ((splitOn ',' reversed.reverse).map trim)
  | _ => none

/-- Reads a colour function; its name ignores ASCII case, and blanks may surround the name and
every argument. -/
def ofFunction? (text : List Char) : Option Color := do
  let (name, behind) ← cutAt? ['('] (trim text)
  let arguments ← arguments? behind
  match (String.ofList (trim name)).toLower, arguments with
  | "rgb", [red, green, blue] =>
    return opaqueOf (← channel? red) (← channel? green) (← channel? blue)
  | "rgba", [red, green, blue, alpha] =>
    return ⟨← channel? red, ← channel? green, ← channel? blue, ← alpha? alpha⟩
  | _, _ => none

end SceneMarkup.Color
