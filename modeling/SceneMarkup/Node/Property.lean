import SceneMarkup.Attribute.Basic
import SceneMarkup.Node.Basic

/-!
Contract: the fields of a node that attributes can set, and the attribute names that mean them.

Owns:
- `Field`, a settable field of a node, grouped by the type of its values;
- `Assignment`, a field with a new value, and its effect on a node;
- `Property`, what an attribute name asks for, and the table of names.

Does not own: the reading of attribute values, which is `Node.Binding`.
-/

namespace SceneMarkup

inductive NumberField where
  | x | y | margin | padding | min | current | max
deriving DecidableEq, Repr

inductive SizeField where
  | width | height | borderWidth | cornerRadius | fontSize
deriving DecidableEq, Repr

/-- Fields that hold a colour or none. -/
inductive ColorField where
  | background | borderColor | fill | textColor
deriving DecidableEq, Repr

inductive TextField where
  | text | image | value | placeholder
deriving DecidableEq, Repr

inductive FlagField where
  | visible | checked | selected
deriving DecidableEq, Repr

inductive AlignmentField where
  | align | justify
deriving DecidableEq, Repr

/-- Fields that hold a name or none. -/
inductive NameField where
  | group | onClick | onHover | onFocus | onChange | onBlur
deriving DecidableEq, Repr

/-- A field of a node that an attribute can set. -/
inductive Field where
  | id
  | number (field : NumberField)
  | size (field : SizeField)
  | color (field : ColorField)
  | text (field : TextField)
  | flag (field : FlagField)
  | alignment (field : AlignmentField)
  | name (field : NameField)
deriving DecidableEq, Repr

/-- A field with a value for it. -/
inductive Assignment where
  | id (value : NodeId)
  | number (field : NumberField) (value : Float32)
  | size (field : SizeField) (value : Float32)
  | color (field : ColorField) (value : Option Color)
  | text (field : TextField) (value : String)
  | flag (field : FlagField) (value : Bool)
  | alignment (field : AlignmentField) (value : Alignment)
  | name (field : NameField) (value : Option String)
deriving DecidableEq, Repr

namespace Assignment

def field : Assignment → Field
  | id _ => .id
  | number field _ => .number field
  | size field _ => .size field
  | color field _ => .color field
  | text field _ => .text field
  | flag field _ => .flag field
  | alignment field _ => .alignment field
  | name field _ => .name field

end Assignment

namespace Node

def setNumber (node : Node) (value : Float32) : NumberField → Node
  | .x => { node with x := value }
  | .y => { node with y := value }
  | .margin => { node with layout.margin := value }
  | .padding => { node with layout.padding := value }
  | .min => { node with state.min := value }
  | .current => { node with state.current := value }
  | .max => { node with state.max := value }

def setSize (node : Node) (value : Float32) : SizeField → Node
  | .width => { node with width := value }
  | .height => { node with height := value }
  | .borderWidth => { node with style.borderWidth := value }
  | .cornerRadius => { node with style.cornerRadius := value }
  | .fontSize => { node with style.fontSize := value }

def setColor (node : Node) (value : Option Color) : ColorField → Node
  | .background => { node with style.background := value }
  | .borderColor => { node with style.borderColor := value }
  | .fill => { node with style.fill := value }
  | .textColor => { node with style.textColor := value }

def setText (node : Node) (value : String) : TextField → Node
  | .text => { node with text := value }
  | .image => { node with image := value }
  | .value => { node with state.value := value }
  | .placeholder => { node with state.placeholder := value }

def setFlag (node : Node) (value : Bool) : FlagField → Node
  | .visible => { node with layout.visible := value }
  | .checked => { node with state.checked := value }
  | .selected => { node with state.selected := value }

def setAlignment (node : Node) (value : Alignment) : AlignmentField → Node
  | .align => { node with layout.align := value }
  | .justify => { node with layout.justify := value }

def setName (node : Node) (value : Option String) : NameField → Node
  | .group => { node with state.group := value }
  | .onClick => { node with handlers.onClick := value }
  | .onHover => { node with handlers.onHover := value }
  | .onFocus => { node with handlers.onFocus := value }
  | .onChange => { node with handlers.onChange := value }
  | .onBlur => { node with handlers.onBlur := value }

/-- The node after an assignment. -/
def assign (node : Node) : Assignment → Node
  | .id value => { node with id := value }
  | .number field value => node.setNumber value field
  | .size field value => node.setSize (clampedSize value) field
  | .color field value => node.setColor value field
  | .text field value => node.setText value field
  | .flag field value => node.setFlag value field
  | .alignment field value => node.setAlignment value field
  | .name field value => node.setName value field

end Node

/-- What an attribute name asks for: the field it sets and how its value is read where the type of
the field leaves a choice. -/
inductive Property where
  | id
  | number (field : NumberField)
  | size (field : SizeField)
  | color (field : ColorField)
  /-- The value as it is written. -/
  | text (field : TextField)
  /-- The value without surrounding blanks. -/
  | path (field : TextField)
  /-- A truth value, negated where `inverted` says so. -/
  | flag (field : FlagField) (inverted : Bool)
  | alignment (field : AlignmentField)
  | name (field : NameField)
  /-- The current number of a slider, the text of any other widget. -/
  | value
deriving DecidableEq, Repr

namespace Property

/-- The canonical attribute names and their properties. -/
def table : List (String × Property) := [
  ("id", id),
  ("x", number .x), ("left", number .x),
  ("y", number .y), ("top", number .y),
  ("width", size .width), ("w", size .width),
  ("height", size .height), ("h", size .height),
  ("background", color .background), ("backgroundcolor", color .background),
  ("bg", color .background), ("bgcolor", color .background),
  ("bordercolor", color .borderColor), ("border", color .borderColor),
  ("borderwidth", size .borderWidth), ("borderthickness", size .borderWidth),
  ("strokewidth", size .borderWidth),
  ("borderradius", size .cornerRadius), ("cornerradius", size .cornerRadius),
  ("radius", size .cornerRadius), ("corner", size .cornerRadius),
  ("fill", color .fill), ("fillcolor", color .fill),
  ("color", color .textColor), ("textcolor", color .textColor),
  ("foreground", color .textColor), ("fontcolor", color .textColor),
  ("size", size .fontSize), ("fontsize", size .fontSize),
  ("text", text .text), ("content", text .text),
  ("src", path .image), ("source", path .image), ("image", path .image),
  ("imagepath", path .image),
  ("visible", flag .visible false), ("hidden", flag .visible true),
  ("align", alignment .align), ("alignment", alignment .align),
  ("alignitems", alignment .align),
  ("justify", alignment .justify), ("justification", alignment .justify),
  ("justifycontent", alignment .justify),
  ("margin", number .margin),
  ("padding", number .padding),
  ("value", value),
  ("placeholder", text .placeholder), ("hint", text .placeholder),
  ("checked", flag .checked false),
  ("selected", flag .selected false),
  ("group", name .group), ("groupname", name .group), ("name", name .group),
  ("min", number .min), ("minvalue", number .min), ("minimum", number .min),
  ("max", number .max), ("maxvalue", number .max), ("maximum", number .max),
  ("current", number .current), ("currentvalue", number .current),
  ("onclick", name .onClick), ("click", name .onClick),
  ("onhover", name .onHover), ("hover", name .onHover), ("onmouseenter", name .onHover),
  ("onfocus", name .onFocus), ("focus", name .onFocus),
  ("onchange", name .onChange), ("change", name .onChange),
  ("onblur", name .onBlur), ("blur", name .onBlur)]

/-- The property of an attribute name in any spelling. -/
def ofName? (attributeName : String) : Option Property := table.lookup (canonicalName attributeName)

def field (kind : Kind) : Property → Field
  | id => .id
  | number field => .number field
  | size field => .size field
  | color field => .color field
  | text field => .text field
  | path field => .text field
  | flag field _ => .flag field
  | alignment field => .alignment field
  | name field => .name field
  | value => if kind = .slider then .number .current else .text .value

end Property

end SceneMarkup
