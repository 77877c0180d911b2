/-!
Contract: membership of a code point in a sorted list of closed ranges.

Owns:
- the range list type used by the character tables;
- the membership test, which stops at the first range above the code point.

Does not own: any particular table.
-/

namespace SceneMarkup.Text

/-- Closed ranges of code points, in increasing order and without overlap. -/
abbrev Ranges := List (Nat × Nat)

/-- Whether one of the ranges holds the code point. The order of the ranges lets the search
stop as soon as a range starts above it. -/
def Ranges.holds : Ranges → Nat → Bool
  | [], _ => false
  | (first, last) :: rest, codePoint =>
    if codePoint < first then false
    else if codePoint ≤ last then true
    else Ranges.holds rest codePoint

end SceneMarkup.Text
