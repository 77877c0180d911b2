import SceneMarkup.Color.Basic
import SceneMarkup.Number.Hexadecimal

/-!
Contract: hexadecimal colour literals.

Owns:
- the reader of literals with three, six or eight digits and an optional `#`;
- the writer, which leaves out the alpha of an opaque colour.

Does not own: blanks around a literal, which `Color.Resolve` removes.
-/

namespace SceneMarkup.Color

open SceneMarkup.Number

/-- The byte written by two digits. -/
def hexByte? (high low : Char) : Option UInt8 := do
  return (16 * (← hexValue? high) + (← hexValue? low)).toUInt8

/-- The colour of a row of digits. Each of three digits counts twice. -/
def ofHexDigits? (layout : HexLayout) : List Char → Option Color
  | [r, g, b] => do return opaqueOf (← hexByte? r r) (← hexByte? g g) (← hexByte? b b)
  | [r₁, r₀, g₁, g₀, b₁, b₀] => do
    return opaqueOf (← hexByte? r₁ r₀) (← hexByte? g₁ g₀) (← hexByte? b₁ b₀)
  | [c₀, c₁, c₂, c₃, c₄, c₅, c₆, c₇] => do
    let first ← hexByte? c₀ c₁
    let second ← hexByte? c₂ c₃
    let third ← hexByte? c₄ c₅
    let fourth ← hexByte? c₆ c₇
    match layout with
    | .argb => return ⟨second, third, fourth, first⟩
    | .rgba => return ⟨first, second, third, fourth⟩
  | _ => none

/-- Reads a literal; one leading `#` may be missing. -/
def ofHex? (literal : List Char) (layout : HexLayout) : Option Color :=
  match literal with
  | '#' :: digits => ofHexDigits? layout digits
  | digits => ofHexDigits? layout digits

def hexByte (byte : UInt8) : List Char :=
  [hexDigit (byte.toNat / 16), hexDigit (byte.toNat % 16)]

/-- The digits of a colour, alpha last and only where the colour is not opaque. -/
def hexDigits (color : Color) : List Char :=
  hexByte color.red ++ hexByte color.green ++ hexByte color.blue
    ++ if color.alpha = 255 then [] else hexByte color.alpha

def toHex (color : Color) : String := String.ofList ('#' :: color.hexDigits)

end SceneMarkup.Color
