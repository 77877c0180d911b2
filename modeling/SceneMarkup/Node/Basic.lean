import SceneMarkup.Color.Basic
import SceneMarkup.Node.Id

/-!
Contract: scene nodes and detached trees of them.

Owns:
- `Node` with its style, layout hints, widget state and handlers, and their defaults;
- `NodeTree`, a node with its children in order;
- sizes that are never negative.

Does not own: how attributes change a node, and the graph that trees are moved into.
-/

namespace SceneMarkup

open SceneMarkup.Text

/-- A size from a number: what is negative or not a number counts as zero. -/
def clampedSize (number : Float32) : Float32 := if 0 < number then number else 0

/-- Alignment along one axis. -/
inductive Alignment where
  | start
  | center
  | finish
  | stretch
deriving DecidableEq, Repr

namespace Alignment

def words : List (String × Alignment) := [
  ("start", start), ("left", start), ("top", start),
  ("center", center), ("middle", center),
  ("end", finish), ("right", finish), ("bottom", finish),
  ("stretch", stretch), ("fill", stretch)]

/-- The alignment a word names, ignoring ASCII case and surrounding blanks. -/
def ofWord? (word : String) : Option Alignment := words.lookup (trimmed word).toLower

/-- The first word for an alignment. -/
def name : Alignment → String
  | start => "start"
  | center => "center"
  | finish => "end"
  | stretch => "stretch"

end Alignment

/-- The font size of a node that declares none. -/
def defaultFontSize : Float32 := 14

/-- Visual style; an absent colour is not painted. -/
structure Style where
  background : Option Color := none
  borderColor : Option Color := none
  borderWidth : Float32 := 0
  cornerRadius : Float32 := 0
  fill : Option Color := none
  textColor : Option Color := none
  fontSize : Float32 := defaultFontSize
deriving BEq, Repr

/-- Declared layout hints, carried for a renderer; positions do not depend on them. -/
structure LayoutHints where
  visible : Bool := true
  align : Alignment := .start
  justify : Alignment := .start
  margin : Float32 := 0
  padding : Float32 := 0
deriving BEq, Repr

/-- State of a widget that an application may change between two paintings. -/
structure WidgetState where
  value : String := ""
  placeholder : String := ""
  checked : Bool := false
  selected : Bool := false
  group : Option String := none
  min : Float32 := 0
  current : Float32 := 0
  max : Float32 := 100
deriving BEq, Repr

/-- Names of the messages that an application receives. -/
structure Handlers where
  onClick : Option String := none
  onHover : Option String := none
  onFocus : Option String := none
  onChange : Option String := none
  onBlur : Option String := none
deriving BEq, Repr

/-- A user-interface element. Its position is relative to its parent's. -/
structure Node where
  id : NodeId
  kind : Kind
  x : Float32 := 0
  y : Float32 := 0
  width : Float32
  height : Float32
  style : Style := {}
  text : String := ""
  image : String := ""
  layout : LayoutHints := {}
  state : WidgetState := {}
  handlers : Handlers := {}
deriving BEq, Repr

namespace Node

/-- A node of a kind with every default. -/
def ofKind (id : NodeId) (kind : Kind) : Node :=
  { id, kind, width := kind.defaultSize.1, height := kind.defaultSize.2 }

/-- A node of a kind with a generated id. -/
def anonymous (kind : Kind) : IdM Node := do
  return ofKind (← NodeId.generate kind) kind

def withSize (node : Node) (width height : Float32) : Node :=
  { node with width := clampedSize width, height := clampedSize height }

/-- Whether pointer input stops at the node. -/
def acceptsPointer (node : Node) : Bool :=
  node.handlers.onClick.isSome || node.kind.isInteractive

end Node

/-- A node and the trees below it, in order. -/
inductive NodeTree where
  | mk (node : Node) (children : List NodeTree)
deriving Repr

namespace NodeTree

def node : NodeTree → Node
  | mk node _ => node

def children : NodeTree → List NodeTree
  | mk _ children => children

def leaf (node : Node) : NodeTree := mk node []

mutual
/-- The number of nodes. -/
def size : NodeTree → Nat
  | mk _ children => 1 + sizeAll children

def sizeAll : List NodeTree → Nat
  | [] => 0
  | tree :: rest => tree.size + sizeAll rest
end

mutual
/-- Every node with its depth, each node before its children. -/
def preorder (depth : Nat) : NodeTree → List (Nat × Node)
  | mk node children => (depth, node) :: preorderAll (depth + 1) children

def preorderAll (depth : Nat) : List NodeTree → List (Nat × Node)
  | [] => []
  | tree :: rest => tree.preorder depth ++ preorderAll depth rest
end

mutual
/-- Depths do not matter to the nodes. -/
theorem map_snd_preorder (tree : NodeTree) (depth other : Nat) :
    (tree.preorder depth).map Prod.snd = (tree.preorder other).map Prod.snd := by
  cases tree with
  | mk node children =>
    rw [preorder, preorder, List.map_cons, List.map_cons,
      map_snd_preorderAll children (depth + 1) (other + 1)]

theorem map_snd_preorderAll (trees : List NodeTree) (depth other : Nat) :
    (preorderAll depth trees).map Prod.snd = (preorderAll other trees).map Prod.snd := by
  cases trees with
  | nil => rw [preorderAll, preorderAll]
  | cons tree rest =>
    rw [preorderAll, preorderAll, List.map_append, List.map_append,
      map_snd_preorder tree depth other, map_snd_preorderAll rest depth other]
end

mutual
/-- Equality in which numbers are compared as numbers: the two zeros are the same, and what is
not a number differs from everything. -/
def same : NodeTree → NodeTree → Bool
  | mk node children, mk otherNode otherChildren =>
    node == otherNode && sameAll children otherChildren

def sameAll : List NodeTree → List NodeTree → Bool
  | [], [] => true
  | tree :: rest, other :: others => tree.same other && sameAll rest others
  | _, _ => false
end

end NodeTree

end SceneMarkup
