import SceneMarkup.Color.Hex
import SceneMarkup.Json.Draft
import SceneMarkup.Scene.Basic

/-!
Contract: scenes written as scene literals.

Owns:
- the members of a node's literal, which leave out what has its default;
- `Scene.emit`, the text of a scene.

Does not own: the reading of literals, which is `Scene.Literal`.
-/

namespace SceneMarkup

open SceneMarkup.Json

namespace Emission

/-- A member, if a condition holds. -/
def memberIf (condition : Bool) (key : String) (value : Draft) : List (String × Draft) :=
  if condition then [(key, value)] else []

def numberMember (key : String) (value default : Float32) : List (String × Draft) :=
  memberIf (value != default) key (.number value)

def colorMember (key : String) (color : Option Color) : List (String × Draft) :=
  (color.map fun color => (key, Draft.string color.toHex)).toList

def textMember (key text : String) : List (String × Draft) :=
  memberIf (text != "") key (.string text)

/-- A truth value, if it is not the default. -/
def flagMember (key : String) (value default : Bool) : List (String × Draft) :=
  memberIf (value != default) key (.boolean value)

/-- An alignment, unless it is at the start. -/
def alignmentMember (key : String) (alignment : Alignment) : List (String × Draft) :=
  memberIf (alignment != .start) key (.string alignment.name)

def nameMember (key : String) (name : Option String) : List (String × Draft) :=
  (name.map fun name => (key, Draft.string name)).toList

/-- The members that say what a node is and where. -/
def identityMembers (node : Node) : List (String × Draft) :=
  [("type", .string node.kind.name), ("id", .string node.id.name), ("x", .number node.x),
    ("y", .number node.y), ("width", .number node.width), ("height", .number node.height)]

def styleMembers (style : Style) : List (String × Draft) :=
  colorMember "background" style.background
    ++ colorMember "borderColor" style.borderColor
    ++ numberMember "borderWidth" style.borderWidth 0
    ++ numberMember "cornerRadius" style.cornerRadius 0
    ++ colorMember "fill" style.fill
    ++ colorMember "color" style.textColor
    ++ numberMember "fontSize" style.fontSize defaultFontSize

def layoutMembers (layout : LayoutHints) : List (String × Draft) :=
  flagMember "visible" layout.visible true
    ++ alignmentMember "align" layout.align
    ++ alignmentMember "justify" layout.justify
    ++ numberMember "margin" layout.margin 0
    ++ numberMember "padding" layout.padding 0

/-- The members of widget state. Only sliders have numbers, and they have no text value. -/
def stateMembers (kind : Kind) (state : WidgetState) : List (String × Draft) :=
  (if kind = .slider then [] else textMember "value" state.value)
    ++ textMember "placeholder" state.placeholder
    ++ flagMember "checked" state.checked false
    ++ flagMember "selected" state.selected false
    ++ nameMember "group" state.group
    ++ if kind = .slider then
        numberMember "min" state.min 0 ++ numberMember "current" state.current 0
          ++ numberMember "max" state.max 100
      else []

def handlerMembers (handlers : Handlers) : List (String × Draft) :=
  nameMember "onClick" handlers.onClick
    ++ nameMember "onHover" handlers.onHover
    ++ nameMember "onFocus" handlers.onFocus
    ++ nameMember "onChange" handlers.onChange
    ++ nameMember "onBlur" handlers.onBlur

/-- The members of a node without its children. -/
def nodeMembers (node : Node) : List (String × Draft) :=
  identityMembers node ++ styleMembers node.style ++ textMember "text" node.text
    ++ textMember "src" node.image ++ layoutMembers node.layout
    ++ stateMembers node.kind node.state ++ handlerMembers node.handlers

mutual
/-- The literal of a tree. -/
def literal : NodeTree → Draft
  | .mk node children =>
    .object (nodeMembers node
      ++ if children.isEmpty then [] else [("children", .array (literals children))])

def literals : List NodeTree → List Draft
  | [] => []
  | tree :: rest => literal tree :: literals rest
end

end Emission

/-- The text of a tree as a scene literal. -/
def NodeTree.emit (tree : NodeTree) : String := (Emission.literal tree).render

def Scene.emit (scene : Scene) : String := scene.toTree.emit

end SceneMarkup
