import SceneMarkup.Json.Number
import SceneMarkup.Json.Quoted

/-!
Contract: writing JSON text.

Owns:
- `Json.Draft`, a value to be written, whose members stay in the order given;
- its text, one element or member a line, indented by two spaces for each level.

Does not own: which members a document has.
-/

namespace SceneMarkup.Json

/-- A value to be written. -/
inductive Draft where
  | boolean (value : Bool)
  | number (value : Float32)
  | string (value : String)
  | array (values : List Draft)
  | object (members : List (String × Draft))
deriving Repr

namespace Draft

/-- The text of a number; what is not finite is null. -/
def numberText (value : Float32) : List Char :=
  if SceneMarkup.Number.isFiniteNumber value then (emittedFormat.writeFloat32 value).toList
  else ['n', 'u', 'l', 'l']

def booleanText (value : Bool) : List Char :=
  if value then ['t', 'r', 'u', 'e'] else ['f', 'a', 'l', 's', 'e']

def newLine (level : Nat) : List Char := '\n' :: List.replicate (2 * level) ' '

mutual
/-- The text of a value at a level. -/
def text (level : Nat) : Draft → List Char
  | boolean value => booleanText value
  | number value => numberText value
  | string value => writtenString value.toList
  | array [] => ['[', ']']
  | array (value :: rest) =>
    '[' :: (newLine (level + 1) ++ text (level + 1) value ++ elementsText (level + 1) rest
      ++ newLine level ++ [']'])
  | object [] => ['\x7b', '\x7d']
  | object ((key, value) :: rest) =>
    '\x7b' :: (newLine (level + 1) ++ writtenString key.toList ++ ':' :: ' '
      :: text (level + 1) value ++ membersText (level + 1) rest ++ newLine level ++ ['\x7d'])

def elementsText (level : Nat) : List Draft → List Char
  | [] => []
  | value :: rest => ',' :: (newLine level ++ text level value ++ elementsText level rest)

def membersText (level : Nat) : List (String × Draft) → List Char
  | [] => []
  | (key, value) :: rest =>
    ',' :: (newLine level ++ writtenString key.toList ++ ':' :: ' ' :: text level value
      ++ membersText level rest)
end

/-- The text of a whole document. -/
def render (draft : Draft) : String := String.ofList (draft.text 0)

end Draft

end SceneMarkup.Json
