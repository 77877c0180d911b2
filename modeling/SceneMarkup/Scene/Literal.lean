import SceneMarkup.Json.Reader
import SceneMarkup.Node.Binding
import SceneMarkup.ParseError

/-!
Contract: scene literals, node trees written as JSON objects.

Owns:
- the members that make up the structure of a literal and those that are attributes;
- `parseLiteral`, from JSON text to a tree.

Does not own: the emission of literals, which is `Scene.Emission`.
-/

namespace SceneMarkup.Literal

open SceneMarkup.Text SceneMarkup.Json

/-- The names of members that are no attributes. -/
def structuralNames : List String := ["type", "kind", "children"]

/-- The first member of a name, ignoring ASCII case. -/
def field? (members : List (String × Value)) (name : String) : Option Value :=
  lookupWord name members

/-- The attribute value of a member; arrays and objects have none, and null is empty. -/
def scalarText? : Value → Option String
  | .null => some ""
  | .boolean value => some (if value then "true" else "false")
  | .number value => some value.text
  | .string value => some value
  | .array _ | .object _ => none

def attributes (members : List (String × Value)) : Attributes :=
  members.filterMap fun member => (scalarText? member.2).map fun text => ⟨member.1, text⟩

/-- The kind of a literal: that of its type, or else of its kind, or else a container. -/
def kind (members : List (String × Value)) : Except LiteralError Kind :=
  match (field? members "type").or (field? members "kind") with
  | none => .ok .container
  | some (.string name) =>
    match Kind.ofName? name with
    | some kind => .ok kind
    | none => .error (.unknownType name)
  | some other => .error (.typeNotAString other.shape)

/-- The children of a literal; a literal without them has none. -/
def children (members : List (String × Value)) : Except LiteralError (List Value) :=
  match field? members "children" with
  | none | some .null => .ok []
  | some (.array values) => .ok values
  | some other => .error (.childrenNotAnArray other.shape)

/-- The children are parts of the members. -/
theorem sizeOf_children {members : List (String × Value)} {values : List Value}
    (found : children members = .ok values) : sizeOf values < sizeOf (Value.object members) := by
  have nonempty : 0 < sizeOf members := by
    cases members with
    | nil => simp only [List.nil.sizeOf_spec, Nat.zero_lt_one]
    | cons member rest =>
      rw [List.cons.sizeOf_spec]
      omega
  unfold children at found
  split at found
  · cases found
    simp only [Value.object.sizeOf_spec, List.nil.sizeOf_spec]
    omega
  · cases found
    simp only [Value.object.sizeOf_spec, List.nil.sizeOf_spec]
    omega
  · rename_i array present
    cases found
    unfold field? lookupWord at present
    obtain ⟨member, searched, same⟩ := Option.map_eq_some_iff.mp present
    have inside := List.sizeOf_lt_of_mem (List.mem_of_find?_eq_some searched)
    obtain ⟨name, value⟩ := member
    simp only at same
    subst same
    simp only [Value.object.sizeOf_spec, Value.array.sizeOf_spec, Prod.mk.sizeOf_spec] at inside ⊢
    omega
  · cases found

def lift {α : Type} (result : Except LiteralError α) : BuildM α :=
  match result with
  | .ok value => pure value
  | .error cause => throw (.invalidLiteral cause)

def buildNode (members : List (String × Value)) : BuildM Node := do
  let kind ← lift (kind members)
  let node ← Node.anonymous kind
  node.applyAll .rgba ((attributes members).except structuralNames)

mutual
def build : Value → BuildM NodeTree
  | .object members => do
    let node ← buildNode members
    match _found : children members with
    | .error cause => throw (.invalidLiteral cause)
    | .ok values => return .mk node (← buildAll values)
  | other => throw (.invalidLiteral (.notAnObject other.shape))
termination_by value => sizeOf value
decreasing_by exact sizeOf_children _found

def buildAll : List Value → BuildM (List NodeTree)
  | [] => return []
  | value :: rest => do
    let tree ← build value
    return tree :: (← buildAll rest)
termination_by values => sizeOf values
end

/-- The tree of a scene literal in JSON text. -/
def parse (source : String) : BuildM NodeTree :=
  match read? source.toList with
  | none => throw .malformedJson
  | some value => build value

end SceneMarkup.Literal
