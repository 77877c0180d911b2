import SceneMarkup.Scene.Numbered

/-!
Contract: scenes, the trees that applications keep and change.

Owns:
- `Scene`, a numbered tree with the record of the ids its nodes were added under;
- the making of a scene from a detached tree, the addition of trees and the change of nodes;
- the look-up by id, by parent and by children.

Does not own: absolute positions, painting and pointer input.
-/

namespace SceneMarkup

/-- A scene. Nodes are numbered in the order in which they are added. -/
structure Scene where
  root : NumberedTree
  /-- How many nodes have been added; the next one gets this number. -/
  size : Nat
  /-- The id that each node had when it was added, with its number, in the order of addition. -/
  added : List (NodeId × Nat)

namespace Scene

def idsOf (tree : NumberedTree) : List (NodeId × Nat) :=
  tree.preorder.map fun entry => (entry.2.id, entry.1)

def ofTree (tree : NodeTree) : Scene :=
  let root := NumberedTree.ofTree 0 tree
  ⟨root, tree.size, idsOf root⟩

def toTree (scene : Scene) : NodeTree := scene.root.toTree

/-- The scene with a tree as the last child of the node of a number. -/
def addTree (scene : Scene) (parent : Nat) (tree : NodeTree) : Scene :=
  let numbered := NumberedTree.ofTree scene.size tree
  ⟨NumberedTree.append parent numbered scene.root, scene.size + tree.size,
    scene.added ++ idsOf numbered⟩

def addNode (scene : Scene) (parent : Nat) (node : Node) : Scene :=
  scene.addTree parent (.leaf node)

/-- The scene with the node of a number changed. The record of ids stays as it is. -/
def change (scene : Scene) (number : Nat) (edit : Node → Node) : Scene :=
  { scene with root := scene.root.change number edit }

def node? (scene : Scene) (number : Nat) : Option Node :=
  (scene.root.find? number).map NumberedTree.node

/-- The number of the node last added under an id. -/
def numberOf? (scene : Scene) (id : NodeId) : Option Nat :=
  (scene.added.filter fun entry => entry.1 = id).getLast?.map Prod.snd

/-- The node last added under an id. -/
def nodeOf? (scene : Scene) (id : NodeId) : Option Node := (scene.numberOf? id).bind scene.node?

def parent? (scene : Scene) (number : Nat) : Option Nat := scene.root.parent? number

/-- The numbers of the children of a node, in order. -/
def children (scene : Scene) (number : Nat) : List Nat :=
  ((scene.root.find? number).map fun tree => tree.children.map NumberedTree.number).getD []

end Scene

end SceneMarkup
