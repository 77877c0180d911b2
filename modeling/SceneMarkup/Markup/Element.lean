import SceneMarkup.Markup.Balance
import SceneMarkup.Text.Blank

/-!
Contract: the outline of the elements in markup.

Owns:
- `Element`, an opening tag with the content up to its closing tag and the elements inside it;
- `elements`, the elements of a sequence of pieces;
- `rootElement?`, the element with which a document begins.

Does not own: which tags are known and what nodes they make.
-/

namespace SceneMarkup.Markup

/-- An element of a document: its opening tag, the byte position of that tag, the pieces between the
opening and the closing tag if there is a closing tag, and the elements inside. -/
inductive Element where
  | mk (tag : OpeningTag) (start : Nat) (content : Option (List Piece)) (children : List Element)
deriving Repr

namespace Element

def tag : Element → OpeningTag
  | mk tag .. => tag

def start : Element → Nat
  | mk _ start .. => start

/-- The pieces between the opening and the closing tag, if there is a closing tag. -/
def content : Element → Option (List Piece)
  | mk _ _ content _ => content

def children : Element → List Element
  | mk _ _ _ children => children

end Element

/-- The index, in the pieces behind an opening tag, of the closing tag that belongs to it. -/
def closeOf? (tag : OpeningTag) (behind : List Piece) : Option Nat :=
  if tag.selfClosing then none else closeIndex? tag.name 0 behind

/-- The elements side by side in a sequence of pieces. An opening tag without a closing tag is an
element without content, and what follows it stands beside it; everything else between elements is
passed over. -/
def elements (pieces : List Piece) : List Element :=
  match pieces with
  | [] => []
  | piece :: rest =>
    match piece.mark with
    | .opening tag =>
      match closeOf? tag rest with
      | some index =>
        .mk tag piece.start (some (rest.take index)) (elements (rest.take index))
          :: elements (rest.drop (index + 1))
      | none => .mk tag piece.start none [] :: elements rest
    | _ => elements rest
termination_by pieces.length
decreasing_by all_goals simp only [List.length_take, List.length_drop, List.length_cons]; omega

/-- The first element of a document, if nothing but blanks and comments comes before it. -/
def rootElement? (pieces : List Piece) : Option Element :=
  match pieces.dropWhile fun piece => piece.mark == .comment || piece.isBlankText with
  | [] => none
  | piece :: rest =>
    match piece.mark with
    | .opening _ => (elements (piece :: rest)).head?
    | _ => none

end SceneMarkup.Markup
