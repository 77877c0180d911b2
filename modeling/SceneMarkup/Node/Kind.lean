/-!
Contract: the closed set of element kinds.

Owns:
- `Kind`, with its name, its default size and whether it takes pointer input by itself;
- the tags that write a kind, and the look-up by tag or by name.

Does not own: tags that stand for factories or for includes.
-/

namespace SceneMarkup

/-- What a node is drawn as and how it behaves. -/
inductive Kind where
  | container
  | text
  | rectangle
  | circle
  | image
  | button
  | input
  | checkbox
  | radioButton
  | slider
  | dropDown
deriving DecidableEq, Repr

namespace Kind

def all : List Kind :=
  [container, text, rectangle, circle, image, button, input, checkbox, radioButton, slider,
    dropDown]

/-- The lower-case name, with which generated ids begin. -/
def name : Kind → String
  | container => "container"
  | text => "text"
  | rectangle => "rectangle"
  | circle => "circle"
  | image => "image"
  | button => "button"
  | input => "input"
  | checkbox => "checkbox"
  | radioButton => "radiobutton"
  | slider => "slider"
  | dropDown => "dropdown"

/-- The built-in tags and the kinds they write. -/
def tags : List (String × Kind) := [
  ("view", container),
  ("slot", container),
  ("text", text),
  ("box", rectangle),
  ("circle", circle),
  ("image", image),
  ("button", button),
  ("input", input),
  ("checkbox", checkbox),
  ("radio", radioButton),
  ("radiobutton", radioButton),
  ("slider", slider),
  ("dropdown", dropDown),
  ("select", dropDown)]

/-- The kind a built-in tag writes, ignoring ASCII case. -/
def ofTag? (tag : String) : Option Kind := tags.lookup tag.toLower

/-- The kind with a name, or else the kind a tag of that name writes. -/
def ofName? (word : String) : Option Kind :=
  (all.find? fun kind => kind.name == word.toLower).or (ofTag? word)

/-- The width and height of a node that declares none. -/
def defaultSize : Kind → Float32 × Float32
  | checkbox | radioButton => (20, 20)
  | circle => (50, 50)
  | slider => (200, 20)
  | _ => (100, 30)

/-- Whether pointer input stops at nodes of the kind even without a click handler. -/
def isInteractive : Kind → Bool
  | button | input | checkbox | radioButton | slider | dropDown => true
  | _ => false

end Kind

end SceneMarkup
