import SceneMarkup.Node.Basic

/-!
Contract: node trees whose nodes are numbered.

Owns:
- `NumberedTree`, with the numbering of a detached tree in preorder and the way back;
- the look-up of a node, of its parent and of its children by number;
- the change of one node and the addition of a tree below one node.

Does not own: the supply of numbers and the look-up by id, which belong to `Scene`.
-/

namespace SceneMarkup

/-- A tree of nodes, each with a number. -/
inductive NumberedTree where
  | mk (number : Nat) (node : Node) (children : List NumberedTree)
deriving Repr

namespace NumberedTree

def number : NumberedTree → Nat
  | mk number .. => number

def node : NumberedTree → Node
  | mk _ node _ => node

def children : NumberedTree → List NumberedTree
  | mk _ _ children => children

mutual
/-- A tree with the numbers from `start` on, each node before its children. -/
def ofTree (start : Nat) : NodeTree → NumberedTree
  | .mk node children => mk start node (ofTrees (start + 1) children)

def ofTrees (start : Nat) : List NodeTree → List NumberedTree
  | [] => []
  | tree :: rest => ofTree start tree :: ofTrees (start + tree.size) rest
end

mutual
def toTree : NumberedTree → NodeTree
  | mk _ node children => .mk node (toTrees children)

def toTrees : List NumberedTree → List NodeTree
  | [] => []
  | tree :: rest => tree.toTree :: toTrees rest
end

mutual
/-- Every number with its node, each node before its children. -/
def preorder : NumberedTree → List (Nat × Node)
  | mk number node children => (number, node) :: preorderAll children

def preorderAll : List NumberedTree → List (Nat × Node)
  | [] => []
  | tree :: rest => tree.preorder ++ preorderAll rest
end

mutual
/-- The part of the tree from a number on downwards. -/
def find? (sought : Nat) : NumberedTree → Option NumberedTree
  | mk number node children =>
    if number = sought then some (mk number node children) else findIn? sought children

def findIn? (sought : Nat) : List NumberedTree → Option NumberedTree
  | [] => none
  | tree :: rest => (tree.find? sought).or (findIn? sought rest)
end

mutual
/-- The number of the node right above a number. -/
def parent? (sought : Nat) : NumberedTree → Option Nat
  | mk number _ children =>
    if children.any fun child => child.number == sought then some number
    else parentIn? sought children

def parentIn? (sought : Nat) : List NumberedTree → Option Nat
  | [] => none
  | tree :: rest => (tree.parent? sought).or (parentIn? sought rest)
end

mutual
/-- The tree with the node of a number changed. -/
def change (target : Nat) (edit : Node → Node) : NumberedTree → NumberedTree
  | mk number node children =>
    mk number (if number = target then edit node else node) (changeAll target edit children)

def changeAll (target : Nat) (edit : Node → Node) : List NumberedTree → List NumberedTree
  | [] => []
  | tree :: rest => tree.change target edit :: changeAll target edit rest
end

mutual
/-- The tree with another one as the last child of the node of a number. -/
def append (target : Nat) (added : NumberedTree) : NumberedTree → NumberedTree
  | mk number node children =>
    let below := appendAll target added children
    mk number node (if number = target then below ++ [added] else below)

def appendAll (target : Nat) (added : NumberedTree) : List NumberedTree → List NumberedTree
  | [] => []
  | tree :: rest => append target added tree :: appendAll target added rest
end

end NumberedTree

end SceneMarkup
