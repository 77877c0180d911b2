import SceneMarkup.Markup.Piece

/-!
Contract: which closing tag belongs to an opening tag.

Owns:
- the count of open elements of one name along a sequence of pieces;
- `closeIndex?`, the place of the closing tag that ends the count;
- the same question for a token at an index, with a limit.

Does not own: elements of other names, which the count passes over.
-/

namespace SceneMarkup.Markup

open SceneMarkup.Text

namespace Piece

/-- Whether the piece opens an element of the name that has to be closed. -/
def opens (name : String) (piece : Piece) : Bool :=
  match piece.mark with
  | .opening tag => !tag.selfClosing && sameWord tag.name name
  | _ => false

/-- Whether the piece closes an element of the name. -/
def closes (name : String) (piece : Piece) : Bool :=
  match piece.mark with
  | .closing other => sameWord other name
  | _ => false

end Piece

/-- The index of the closing tag that ends an element of the name, when `depth` more elements of
the name are open inside it. -/
def closeIndex? (name : String) : (depth : Nat) → List Piece → Option Nat
  | _, [] => none
  | 0, piece :: rest =>
    if piece.closes name then some 0
    else (closeIndex? name (if piece.opens name then 1 else 0) rest).map (· + 1)
  | depth + 1, piece :: rest =>
    if piece.closes name then (closeIndex? name depth rest).map (· + 1)
    else
      (closeIndex? name (if piece.opens name then depth + 2 else depth + 1) rest).map (· + 1)

/-- The index of the closing tag of the element that opens at index `start`, looked for before
index `limit`. -/
def matchingClose? (tokens : List Piece) (start : Nat) (name : String) (limit : Nat) :
    Option Nat :=
  (closeIndex? name 0 ((tokens.take limit).drop (start + 1))).map (· + (start + 1))

end SceneMarkup.Markup
