import SceneMarkup.Component.Factory

/-!
Contract: factories by name.

Owns:
- `ComponentRegistry`, in which a name, up to ASCII case, has at most one factory;
- the registry of the built-in factories, and the description of a registry.

Does not own: which tags a parser looks up.
-/

namespace SceneMarkup

open SceneMarkup.Text

/-- Factories under lower-case names, the latest first. -/
structure ComponentRegistry where
  factories : List (String × Factory)

namespace ComponentRegistry

def empty : ComponentRegistry := ⟨[]⟩

/-- Puts a factory under a name, in place of an earlier one. -/
def register (registry : ComponentRegistry) (name : String) (factory : Factory) :
    ComponentRegistry :=
  ⟨(name.toLower, factory) :: registry.factories.filter fun entry => entry.1 ≠ name.toLower⟩

def find? (registry : ComponentRegistry) (name : String) : Option Factory :=
  registry.factories.lookup name.toLower

def contains (registry : ComponentRegistry) (name : String) : Bool :=
  (registry.find? name).isSome

def size (registry : ComponentRegistry) : Nat := registry.factories.length

/-- The registry with the button, card and header factories. -/
def standard : ComponentRegistry :=
  ((empty.register "Button" .button).register "Card" .card).register "Header" .header

/-- The names in increasing order. -/
def names (registry : ComponentRegistry) : List String :=
  (registry.factories.map Prod.fst).mergeSort fun left right => decide (left ≤ right)

/-- A description that lists the quoted names. -/
def description (registry : ComponentRegistry) : String :=
  "ComponentRegistry \x7b factories: ["
    ++ String.intercalate ", " (registry.names.map quoted) ++ "] \x7d"

end ComponentRegistry

end SceneMarkup
