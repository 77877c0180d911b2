import SceneMarkup.Node.Binding

/-!
Contract: factories, which build a whole tree from the attributes of one tag.

Owns:
- the type of factories;
- the button, card and header factories;
- captioned factories, which show one attribute on a node of some kind.

Does not own: the names under which factories are found.
-/

namespace SceneMarkup

/-- Builds a tree from attributes; ids of its nodes become taken names. -/
abbrev Factory := Attributes → IdM NodeTree

namespace Factory

def primary : Color := .opaqueOf 59 130 246

/-- The grey of card borders. -/
def borderGray : Color := .opaqueOf 229 231 235

def ink : Color := .opaqueOf 17 24 39

def muted : Color := .opaqueOf 107 114 128

/-- The background of headers. -/
def headerBackground : Color := .opaqueOf 31 41 55

/-- A text node for a named part of a node's tree. -/
def label (parent : Node) (part text : String) : IdM Node := do
  let id ← parent.id.part part
  return { Node.ofKind id .text with text }

/-- A rounded button with a centred label as large as itself. The caption is the attribute
`label`, or else `text`, or else `Button`. -/
def button : Factory := fun attributes => do
  let blank := (← Node.anonymous .button).withSize 120 40
  let styled := { blank with
    style.background := some primary
    style.cornerRadius := 6
    style.textColor := some .white }
  let node ← styled.applyAll .argb (attributes.except ["label", "text"])
  let caption :=
    ((attributes.nonEmpty? "label").or (attributes.nonEmpty? "text")).getD "Button"
  let text := (← label node "label" caption).withSize node.width node.height
  return .mk node [.leaf { text with
    style.textColor := node.style.textColor
    style.fontSize := node.style.fontSize
    layout.align := .center
    layout.justify := .center }]

/-- The title row of a card. -/
def cardTitle (card : Node) (innerWidth : Float32) (title : String) : IdM NodeTree := do
  let text := (← label card "title" title).withSize innerWidth 24
  return .leaf { text with
    x := card.layout.padding
    y := card.layout.padding
    style.fontSize := 18
    style.textColor := some ink }

def cardSubtitle (card : Node) (innerWidth : Float32) (subtitle : String) : IdM NodeTree := do
  let text := (← label card "subtitle" subtitle).withSize innerWidth 20
  return .leaf { text with
    x := card.layout.padding
    y := card.layout.padding + 28
    style.textColor := some muted }

/-- What a builder makes of a text, or nothing when there is no text. -/
def optional (text : Option String) (build : String → IdM NodeTree) : IdM (List NodeTree) :=
  match text with
  | some text => return [← build text]
  | none => return []

/-- A white bordered card with optional rows for `title` and `subtitle` inside its padding. -/
def card : Factory := fun attributes => do
  let blank := (← Node.anonymous .container).withSize 300 200
  let styled := { blank with
    style.background := some .white
    style.borderColor := some borderGray
    style.borderWidth := 1
    style.cornerRadius := 8
    layout.padding := 16 }
  let node ← styled.applyAll .argb (attributes.except ["title", "subtitle"])
  let innerWidth := clampedSize (node.width - 2 * node.layout.padding)
  let title ← optional (attributes.nonEmpty? "title") (cardTitle node innerWidth)
  let subtitle ← optional (attributes.nonEmpty? "subtitle") (cardSubtitle node innerWidth)
  return .mk node (title ++ subtitle)

def headerTitle (header : Node) (title : String) : IdM NodeTree := do
  let text := (← label header "title" title).withSize
    (clampedSize (header.width - 40)) header.height
  return .leaf { text with
    x := 20
    style.fontSize := 20
    style.textColor := some .white
    layout.align := .center }

/-- A wide dark bar with an optional `title`. -/
def header : Factory := fun attributes => do
  let blank := (← Node.anonymous .container).withSize 800 60
  let styled := { blank with style.background := some headerBackground }
  let node ← styled.applyAll .argb (attributes.except ["title"])
  return .mk node (← optional (attributes.nonEmpty? "title") (headerTitle node))

/-- A factory of one node without children, whose text is the value of the attribute `source`;
all other attributes are ignored. -/
def captioned (kind : Kind) (source : String) : Factory := fun attributes => do
  return .leaf { (← Node.anonymous kind) with text := (attributes.value? source).getD "" }

end Factory

end SceneMarkup
