/-!
Contract: colours of four eight-bit channels.

Owns:
- `Color`, straight red, green, blue and alpha;
- `HexLayout`, the order of the channels in an eight-digit literal.

Does not own: any written form; those are `Color.Hex`, `Color.Functional` and `Color.Palette`.
-/

namespace SceneMarkup

/-- A colour with straight alpha. -/
structure Color where
  red : UInt8
  green : UInt8
  blue : UInt8
  alpha : UInt8
deriving DecidableEq, Repr

/-- Where the alpha digits of an eight-digit literal stand. -/
inductive HexLayout where
  /-- Alpha first, the convention of markup attributes. -/
  | argb
  /-- Alpha last, the convention of scene literals. -/
  | rgba
deriving DecidableEq, Repr

namespace Color

def opaqueOf (red green blue : UInt8) : Color := ⟨red, green, blue, 255⟩

/-- Opaque black, which stands in for a colour that cannot be read. -/
def black : Color := opaqueOf 0 0 0

def white : Color := opaqueOf 255 255 255

/-- Black without any opacity. -/
def transparent : Color := ⟨0, 0, 0, 0⟩

end Color

end SceneMarkup
