import SceneMarkup.Text.Blank

/-!
Contract: component bodies by name.

Owns:
- `TemplateLibrary`, in which a name, up to ASCII case, has at most one body;
- the loading of named bodies, of which the last one of a name counts.

Does not own: where bodies come from.
-/

namespace SceneMarkup

open SceneMarkup.Text

/-- Bodies without surrounding blanks under lower-case names, the latest first. -/
structure TemplateLibrary where
  bodies : List (String × String)
deriving DecidableEq, Repr

namespace TemplateLibrary

def empty : TemplateLibrary := ⟨[]⟩

/-- Puts a body under a name, in place of an earlier one. -/
def insert (library : TemplateLibrary) (name body : String) : TemplateLibrary :=
  ⟨(name.toLower, trimmed body) :: library.bodies.filter fun entry => entry.1 ≠ name.toLower⟩

def ofList (templates : List (String × String)) : TemplateLibrary :=
  templates.foldl (fun library template => library.insert template.1 template.2) empty

def find? (library : TemplateLibrary) (name : String) : Option String :=
  library.bodies.lookup name.toLower

def contains (library : TemplateLibrary) (name : String) : Bool := (library.find? name).isSome

def size (library : TemplateLibrary) : Nat := library.bodies.length

end TemplateLibrary

end SceneMarkup
