/-!
Contract: comparison of words without regard to ASCII case.

Owns:
- `sameWord`, equality after lowering the letters `A` to `Z`.

Does not own: any folding of letters beyond ASCII; those differ whenever their code points do.
-/

namespace SceneMarkup.Text

/-- Equality of two words up to the case of ASCII letters. -/
def sameWord (left right : String) : Bool := left.toLower == right.toLower

theorem toList_toLower (word : String) : word.toLower.toList = word.toList.map Char.toLower :=
  String.toList_map

/-- Words are compared letter by letter. -/
theorem sameWord_iff {left right : String} : sameWord left right = true ↔
    left.toList.map Char.toLower = right.toList.map Char.toLower := by
  rw [sameWord, beq_iff_eq, ← String.toList_inj, toList_toLower, toList_toLower]

/-- The first entry whose name is `name` up to ASCII case. -/
def lookupWord {α : Type} (name : String) (entries : List (String × α)) : Option α :=
  (entries.find? fun entry => sameWord entry.1 name).map Prod.snd

end SceneMarkup.Text
