import SceneMarkup.Json.Value
import SceneMarkup.Markup.Piece
import SceneMarkup.Node.Id
import SceneMarkup.Text.Quoted

/-!
Contract: why a document makes no scene.

Owns:
- `LiteralError` and `ParseError` with their messages.

Does not own: problems with single attributes, which never stop a document.
-/

namespace SceneMarkup

open SceneMarkup.Text

/-- What is wrong with a JSON value as a scene literal. -/
inductive LiteralError where
  | notAnObject (found : Json.Shape)
  | unknownType (name : String)
  | typeNotAString (found : Json.Shape)
  | childrenNotAnArray (found : Json.Shape)
deriving DecidableEq, Repr

def LiteralError.message : LiteralError → String
  | notAnObject found => "expected an object, found " ++ found.description
  | unknownType name => "unknown node type " ++ quoted name
  | typeNotAString found => "node type must be a string, found " ++ found.description
  | childrenNotAnArray found => "children must be an array, found " ++ found.description

/-- Why a document makes no scene. Positions count bytes. -/
inductive ParseError where
  | noRootElement
  | unknownTag (tag : String) (offset : Nat)
  | unterminatedTag (tag : String) (offset : Nat)
  | invalidLiteral (cause : LiteralError)
  | malformedJson
deriving DecidableEq, Repr

namespace ParseError

/-- The error of a scan that a tag without an end has stopped. -/
def ofUnterminated (tag : Markup.UnterminatedTag) : ParseError := unterminatedTag tag.tag tag.offset

def message : ParseError → String
  | noRootElement => "no root element found"
  | unknownTag tag offset => "unknown tag <" ++ tag ++ "> at byte " ++ toString offset
  | unterminatedTag tag offset => "unterminated tag <" ++ tag ++ "> at byte " ++ toString offset
  | invalidLiteral cause => "invalid scene literal: " ++ cause.message
  | malformedJson => "malformed scene literal"

end ParseError

/-- A computation that takes names and may fail; names taken before a failure stay taken. -/
abbrev BuildM := ExceptT ParseError IdM

end SceneMarkup
