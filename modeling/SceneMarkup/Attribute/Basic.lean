import SceneMarkup.Text.Caseless

/-!
Contract: attributes as written, in order.

Owns:
- `Attribute` and `Attributes`, with the look-up by name;
- `canonicalName`, the spelling under which the binder knows a name.

Does not own: the meaning of any attribute.
-/

namespace SceneMarkup

open SceneMarkup.Text

structure Attribute where
  name : String
  value : String
deriving DecidableEq, Repr

/-- Attributes in the order in which they are written; a name may repeat. -/
abbrev Attributes := List Attribute

namespace Attributes

/-- The value of the last attribute of a name, ignoring ASCII case. -/
def value? (attributes : Attributes) (name : String) : Option String :=
  (attributes.filter fun entry => sameWord entry.name name).getLast?.map Attribute.value

/-- The value of the last attribute of a name, unless it is empty. -/
def nonEmpty? (attributes : Attributes) (name : String) : Option String :=
  (attributes.value? name).filter (· ≠ "")

end Attributes

/-- A name without hyphens and underscores, in lower case. -/
def canonicalName (name : String) : String :=
  String.ofList ((name.toList.filter fun letter => letter ≠ '-' ∧ letter ≠ '_').map Char.toLower)

end SceneMarkup
