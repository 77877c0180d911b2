import SceneMarkup.Color.Resolve
import SceneMarkup.Node.Property
import SceneMarkup.Number.Reading
import SceneMarkup.Text.Quoted

/-!
Contract: attributes applied to nodes.

Owns:
- `BindingError`, why an attribute sets nothing, with its message;
- the reading of attribute values as assignments;
- the application of one attribute and of a list of attributes.

Does not own: the names of properties, and attributes that a factory consumes itself.
-/

namespace SceneMarkup

open SceneMarkup.Text SceneMarkup.Number

/-- Why an attribute sets nothing. -/
inductive BindingError where
  | unknown (name : String)
  | notANumber (name value : String)
  | notATruthValue (name value : String)
  | notAnAlignment (name value : String)
deriving DecidableEq, Repr

namespace BindingError

def message : BindingError → String
  | unknown name => "unknown property `" ++ name ++ "`"
  | notANumber name value => "property `" ++ name ++ "` expects a number, got " ++ quoted value
  | notATruthValue name value =>
    "property `" ++ name ++ "` expects a boolean, got " ++ quoted value
  | notAnAlignment name value =>
    "property `" ++ name ++ "` expects start/center/end/stretch, got " ++ quoted value

end BindingError

namespace Binding

/-- The number of a property that is written without a value. -/
def defaultNumber : NumberField → Float32
  | .max => 100
  | _ => 0

/-- The size of a property that is written without a value. -/
def defaultSize (kind : Kind) : SizeField → Float32
  | .width => kind.defaultSize.1
  | .height => kind.defaultSize.2
  | .borderWidth | .cornerRadius => 0
  | .fontSize => defaultFontSize

/-- The text without the unit `px` at its end. -/
def dropUnit (text : List Char) : List Char :=
  match text.reverse with
  | 'x' :: 'p' :: reversed => reversed.reverse
  | _ => text

/-- A finite number with or without the unit `px`. -/
def number? (text : List Char) : Option Float32 :=
  (readFloat32? (trim (dropUnit text))).filter isFiniteNumber

def truthWords : List (String × Bool) := [
  ("true", true), ("1", true), ("yes", true), ("on", true),
  ("false", false), ("0", false), ("no", false), ("off", false)]

/-- A truth value, ignoring ASCII case. -/
def truthValue? (word : String) : Option Bool := truthWords.lookup word.toLower

/-- The number that a value without surrounding blanks stands for; an empty value stands for the
default. -/
def readNumber (name value : String) (default : Float32) : Except BindingError Float32 :=
  if value = "" then .ok default
  else
    match number? value.toList with
    | some number => .ok number
    | none => .error (.notANumber name value)

def readFlag (name value : String) (default : Bool) : Except BindingError Bool :=
  if value = "" then .ok default
  else
    match truthValue? value with
    | some flag => .ok flag
    | none => .error (.notATruthValue name value)

def readAlignment (name value : String) : Except BindingError Alignment :=
  if value = "" then .ok .start
  else
    match Alignment.ofWord? value with
    | some alignment => .ok alignment
    | none => .error (.notAnAlignment name value)

def present (value : String) : Option String := if value = "" then none else some value

/-- The truth value of a flag that is written without a value. -/
def defaultFlag : FlagField → Bool → Bool
  | .visible, inverted => !inverted
  | _, _ => false

/-- The assignment that a property makes of a value on nodes of a kind. A blank id assigns
nothing. -/
def read (kind : Kind) (layout : HexLayout) (name written : String) :
    Property → Except BindingError (Option Assignment)
  | .id => .ok ((NodeId.ofValue? written).map .id)
  | .number field => do
    return some (.number field (← readNumber name (trimmed written) (defaultNumber field)))
  | .size field => do
    return some (.size field (← readNumber name (trimmed written) (defaultSize kind field)))
  | .color field =>
    .ok (some (.color field ((present (trimmed written)).map (Color.resolve · layout))))
  | .text field => .ok (some (.text field written))
  | .path field => .ok (some (.text field (trimmed written)))
  | .flag field inverted => do
    let flag ← readFlag name (trimmed written) (defaultFlag field inverted)
    return some (.flag field (flag != inverted))
  | .alignment field => do
    return some (.alignment field (← readAlignment name (trimmed written)))
  | .name field => .ok (some (.name field (present (trimmed written))))
  | .value =>
    if kind = .slider then do
      return some (.number .current
        (← readNumber name (trimmed written) (defaultNumber .current)))
    else .ok (some (.text .value written))

/-- The assignment that an attribute makes on nodes of a kind. -/
def assignment (kind : Kind) (layout : HexLayout) (written : Attribute) :
    Except BindingError (Option Assignment) :=
  match Property.ofName? written.name with
  | none => .error (.unknown written.name)
  | some property => read kind layout written.name written.value property

end Binding

namespace Node

def bind (node : Node) (layout : HexLayout) (written : Attribute) : Except BindingError Node :=
  (Binding.assignment node.kind layout written).map fun
    | some assignment => node.assign assignment
    | none => node

/-- The node after several attributes; those that set nothing are passed over. -/
def bindAll (node : Node) (layout : HexLayout) (attributes : Attributes) : Node :=
  attributes.foldl (fun node written => ((node.bind layout written).toOption).getD node) node

end Node

namespace Attributes

/-- The attributes whose canonical name is not among those of `names`. -/
def except (attributes : Attributes) (names : List String) : Attributes :=
  attributes.filter fun written =>
    !(names.map canonicalName).contains (canonicalName written.name)

/-- The ids that attributes name, in order. -/
def ids (attributes : Attributes) : List NodeId :=
  attributes.filterMap fun written =>
    if canonicalName written.name = "id" then NodeId.ofValue? written.value else none

end Attributes

namespace Node

/-- The node after several attributes, whose ids become taken names. -/
def applyAll (node : Node) (layout : HexLayout) (attributes : Attributes) : IdM Node := do
  modify (·.takeIds attributes.ids)
  return node.bindAll layout attributes

/-- The node after one attribute, whose id becomes a taken name. -/
def apply (node : Node) (layout : HexLayout) (written : Attribute) :
    IdM (Except BindingError Node) := do
  modify (·.takeIds (Attributes.ids [written]))
  return node.bind layout written

end Node

end SceneMarkup
