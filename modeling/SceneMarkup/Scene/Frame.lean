import SceneMarkup.Scene.Basic

/-!
Contract: absolute positions.

Owns:
- `Bounds`, a rectangle on the canvas;
- `Frame`, the visible part of a scene with the bounds of every node;
- the bounds of each node of a scene.

Does not own: what is drawn in the bounds.
-/

namespace SceneMarkup

structure Bounds where
  x : Float32
  y : Float32
  width : Float32
  height : Float32
deriving DecidableEq, Repr

/-- Whether a point lies in a rectangle, its edges included. -/
def Bounds.contains (bounds : Bounds) (x y : Float32) : Bool :=
  bounds.x ≤ x && x ≤ bounds.x + bounds.width && bounds.y ≤ y && y ≤ bounds.y + bounds.height

/-- A visible node with its bounds and the visible nodes below it, in order. -/
inductive Frame where
  | mk (number : Nat) (node : Node) (bounds : Bounds) (children : List Frame)
deriving Repr

/-- The bounds of a node whose parent's origin is given. -/
def Node.boundsAt (node : Node) (originX originY : Float32) : Bounds :=
  ⟨originX + node.x, originY + node.y, node.width, node.height⟩

namespace Frame

mutual
/-- The frame of a tree, unless the node at its top is hidden. -/
def ofTree? (originX originY : Float32) : NumberedTree → Option Frame
  | .mk number node children =>
    if node.layout.visible then
      let bounds := node.boundsAt originX originY
      some (.mk number node bounds (ofTrees bounds.x bounds.y children))
    else none

def ofTrees (originX originY : Float32) : List NumberedTree → List Frame
  | [] => []
  | tree :: rest => (ofTree? originX originY tree).toList ++ ofTrees originX originY rest
end

mutual
/-- Every number with its bounds, each node before its children. -/
def preorder : Frame → List (Nat × Bounds)
  | mk number _ bounds children => (number, bounds) :: preorderAll children

def preorderAll : List Frame → List (Nat × Bounds)
  | [] => []
  | frame :: rest => frame.preorder ++ preorderAll rest
end

end Frame

namespace Scene

/-- The visible part of a scene, if its root is visible. -/
def frame? (scene : Scene) : Option Frame := Frame.ofTree? 0 0 scene.root

/-- The bounds of the node of a number, if it and all nodes above it are visible. -/
def bounds? (scene : Scene) (number : Nat) : Option Bounds :=
  scene.frame?.bind fun frame => frame.preorder.lookup number

/-- The numbers of the visible nodes in increasing order, with their bounds. -/
def allBounds (scene : Scene) : List (Nat × Bounds) :=
  (List.range scene.size).filterMap fun number =>
    (scene.bounds? number).map fun bounds => (number, bounds)

end Scene

end SceneMarkup
