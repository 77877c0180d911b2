import SceneMarkup.Component.Registry
import SceneMarkup.Markup.Element
import SceneMarkup.ParseError

/-!
Contract: the node tree of a markup document.

Owns:
- the node that a tag makes: that of a factory, of an unexpanded include or of a built-in tag;
- the text of text elements;
- `parseTree`, from source to tree.

Does not own: the outline of the document, which is `Markup.Element`.
-/

namespace SceneMarkup.Markup

open SceneMarkup.Text

/-- The tree that an opening tag makes by itself. Factories come before built-in tags; an include
that nothing has expanded makes an empty container. -/
def resolveTag (registry : ComponentRegistry) (tag : OpeningTag) (offset : Nat) :
    BuildM NodeTree := do
  match registry.find? tag.name with
  | some factory => factory tag.attributes
  | none =>
    if sameWord tag.name "include" then
      return .leaf (← Node.anonymous .container)
    else
      match Kind.ofTag? tag.name with
      | some kind => return .leaf (← (← Node.anonymous kind).applyAll .argb tag.attributes)
      | none => throw (.unknownTag tag.name offset)

/-- The tree with another text at its top, unless that text is empty. -/
def withVerbatimText (tree : NodeTree) (text : List Char) : NodeTree :=
  if text = [] then tree
  else .mk { tree.node with text := String.ofList text } tree.children

/-- Whether a text is that of a text node and not a sequence of elements. -/
def isVerbatim (kind : Kind) (text : List Char) : Bool := kind == .text && text.head? != some '<'

/-- The part of an element's content that can be its text. -/
def contentText (content : List Piece) : List Char := trim (withoutComments (sourceOf content))

mutual
def buildElement (registry : ComponentRegistry) : Element → BuildM NodeTree
  | .mk tag start content children => do
    let tree ← resolveTag registry tag start
    match content with
    | none => return tree
    | some pieces =>
      if isVerbatim tree.node.kind (contentText pieces) then
        return withVerbatimText tree (contentText pieces)
      else return .mk tree.node (tree.children ++ (← buildElements registry children))

def buildElements (registry : ComponentRegistry) : List Element → BuildM (List NodeTree)
  | [] => return []
  | element :: rest => do
    let tree ← buildElement registry element
    return tree :: (← buildElements registry rest)
end

/-- The tree of a markup document. -/
def parseTree (registry : ComponentRegistry) (source : String) : BuildM NodeTree := do
  match strictPieces source.toList with
  | .error tag => throw (.ofUnterminated tag)
  | .ok pieces =>
    match rootElement? pieces with
    | none => throw .noRootElement
    | some element => buildElement registry element

end SceneMarkup.Markup
