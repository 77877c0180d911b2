/-!
Contract: JSON values.

Owns:
- `Json.Value`, in which the members of an object are sorted by key and no key repeats;
- `Json.Number`, which keeps whole numbers of up to 64 bits apart from floats;
- the shapes of values, with their descriptions.

Does not own: any text form.
-/

namespace SceneMarkup.Json

/-- A number: whole where it is written so and fits 64 bits, otherwise a float. -/
inductive Number where
  | whole (value : Int)
  | real (value : Float)
deriving DecidableEq, Repr

/-- A value. The members of an object stand in increasing order of their keys. -/
inductive Value where
  | null
  | boolean (value : Bool)
  | number (value : Number)
  | string (value : String)
  | array (values : List Value)
  | object (members : List (String × Value))
deriving Repr

/-- What kind of value a value is. -/
inductive Shape where
  | null | boolean | number | string | array | object
deriving DecidableEq, Repr

def Shape.description : Shape → String
  | null => "null"
  | boolean => "a boolean"
  | number => "a number"
  | string => "a string"
  | array => "an array"
  | object => "an object"

def Value.shape : Value → Shape
  | null => .null
  | boolean _ => .boolean
  | number _ => .number
  | string _ => .string
  | array _ => .array
  | object _ => .object

/-- Puts a member into sorted members, in place of one with the same key. -/
def insertMember (key : String) (value : Value) : List (String × Value) → List (String × Value)
  | [] => [(key, value)]
  | (other, otherValue) :: rest =>
    if key < other then (key, value) :: (other, otherValue) :: rest
    else if key = other then (key, value) :: rest
    else (other, otherValue) :: insertMember key value rest

/-- Members in order of their keys; of members with one key the last counts. -/
def sortedMembers (members : List (String × Value)) : List (String × Value) :=
  members.foldl (fun sorted member => insertMember member.1 member.2 sorted) []

end SceneMarkup.Json
