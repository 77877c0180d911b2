import SceneMarkup.Color.Basic
import SceneMarkup.Text.Blank
import SceneMarkup.Text.Caseless

/-!
Contract: colours written as a name.

Owns:
- the palette;
- the lookup, which ignores surrounding blanks and ASCII case.

Does not own: the other written forms.
-/

namespace SceneMarkup.Color

open SceneMarkup.Text

def palette : List (String × Color) := [
  ("transparent", transparent),
  ("black", opaqueOf 0 0 0),
  ("white", opaqueOf 255 255 255),
  ("red", opaqueOf 255 0 0),
  ("green", opaqueOf 0 128 0),
  ("blue", opaqueOf 0 0 255),
  ("yellow", opaqueOf 255 255 0),
  ("cyan", opaqueOf 0 255 255),
  ("aqua", opaqueOf 0 255 255),
  ("magenta", opaqueOf 255 0 255),
  ("fuchsia", opaqueOf 255 0 255),
  ("gray", opaqueOf 128 128 128),
  ("grey", opaqueOf 128 128 128),
  ("darkgray", opaqueOf 169 169 169),
  ("darkgrey", opaqueOf 169 169 169),
  ("lightgray", opaqueOf 211 211 211),
  ("lightgrey", opaqueOf 211 211 211),
  ("dimgray", opaqueOf 105 105 105),
  ("silver", opaqueOf 192 192 192),
  ("gainsboro", opaqueOf 220 220 220),
  ("whitesmoke", opaqueOf 245 245 245),
  ("slategray", opaqueOf 112 128 144),
  ("darkslategray", opaqueOf 47 79 79),
  ("maroon", opaqueOf 128 0 0),
  ("darkred", opaqueOf 139 0 0),
  ("crimson", opaqueOf 220 20 60),
  ("firebrick", opaqueOf 178 34 34),
  ("tomato", opaqueOf 255 99 71),
  ("coral", opaqueOf 255 127 80),
  ("salmon", opaqueOf 250 128 114),
  ("orange", opaqueOf 255 165 0),
  ("darkorange", opaqueOf 255 140 0),
  ("gold", opaqueOf 255 215 0),
  ("khaki", opaqueOf 240 230 140),
  ("olive", opaqueOf 128 128 0),
  ("lime", opaqueOf 0 255 0),
  ("limegreen", opaqueOf 50 205 50),
  ("lightgreen", opaqueOf 144 238 144),
  ("darkgreen", opaqueOf 0 100 0),
  ("seagreen", opaqueOf 46 139 87),
  ("teal", opaqueOf 0 128 128),
  ("turquoise", opaqueOf 64 224 208),
  ("lightblue", opaqueOf 173 216 230),
  ("skyblue", opaqueOf 135 206 235),
  ("steelblue", opaqueOf 70 130 180),
  ("royalblue", opaqueOf 65 105 225),
  ("dodgerblue", opaqueOf 30 144 255),
  ("navy", opaqueOf 0 0 128),
  ("darkblue", opaqueOf 0 0 139),
  ("indigo", opaqueOf 75 0 130),
  ("purple", opaqueOf 128 0 128),
  ("violet", opaqueOf 238 130 238),
  ("orchid", opaqueOf 218 112 214),
  ("plum", opaqueOf 221 160 221),
  ("pink", opaqueOf 255 192 203),
  ("hotpink", opaqueOf 255 105 180),
  ("brown", opaqueOf 165 42 42),
  ("chocolate", opaqueOf 210 105 30),
  ("tan", opaqueOf 210 180 140),
  ("beige", opaqueOf 245 245 220),
  ("ivory", opaqueOf 255 255 240)]

/-- The palette colour of a name. -/
def named? (name : String) : Option Color := lookupWord (trimmed name) palette

end SceneMarkup.Color
