import Mathlib.Data.List.Nodup
import SceneMarkup.Node.Basic

/-!
Contract: node trees kept as rows of nodes and of edges.

Owns:
- `Arena`, nodes and edges in the order of their addition beside a map from ids to numbers, with the
  operations that fill it one node at a time;
- `Arena.Unfolds`, the tree that hangs on a node;
- the nodes of a tree in pre-order, which are added in this order;
- the order of the edges, from which every node but the first has one parent, added before it;
- what the map from ids holds.

Does not own: scenes, which keep the same nodes as a tree.
-/

namespace SceneMarkup

namespace NodeTree

/-- The nodes, each before those below it. -/
def nodes (tree : NodeTree) : List Node := (tree.preorder 0).map Prod.snd

def ids (tree : NodeTree) : List NodeId := tree.nodes.map Node.id

def nodesAll (trees : List NodeTree) : List Node := (preorderAll 0 trees).map Prod.snd

@[simp] theorem nodes_mk (node : Node) (children : List NodeTree) :
    (mk node children).nodes = node :: nodesAll children := by
  rw [nodes, preorder, List.map_cons, map_snd_preorderAll children _ 0]
  rfl

@[simp] theorem nodesAll_nil : nodesAll [] = [] := rfl

@[simp] theorem nodesAll_cons (tree : NodeTree) (rest : List NodeTree) :
    nodesAll (tree :: rest) = tree.nodes ++ nodesAll rest := by
  rw [nodesAll, preorderAll, List.map_append]
  rfl

@[simp] theorem ids_mk (node : Node) (children : List NodeTree) :
    (mk node children).ids = node.id :: (nodesAll children).map Node.id := by
  rw [ids, nodes_mk, List.map_cons]

end NodeTree

/-- The edge of every node to its parent, in a graph whose nodes are numbered in the order in which
they are added. Edges lead from the parent to the child. -/
structure Arena where
  nodes : List Node
  edges : List (Nat × Nat)
  /-- A map in which a later entry replaces the earlier one of the same id. -/
  index : NodeId → Option Nat

namespace Arena

def targets (arena : Arena) (parent : Nat) : List Nat :=
  arena.edges.filterMap fun edge => if edge.1 = parent then some edge.2 else none

def sources (arena : Arena) (child : Nat) : List Nat :=
  arena.edges.filterMap fun edge => if edge.2 = child then some edge.1 else none

/-- The children of a node by number, in whatever order the graph lists them. -/
def children (arena : Arena) (parent : Nat) : List Nat := (arena.targets parent).mergeSort

def ofNode (node : Node) : Arena := ⟨[node], [], fun id => if id = node.id then some 0 else none⟩

def addNode (arena : Arena) (parent : Nat) (node : Node) : Arena where
  nodes := arena.nodes ++ [node]
  edges := arena.edges ++ [(parent, arena.nodes.length)]
  index id := if id = node.id then some arena.nodes.length else arena.index id

mutual
/-- A tree is added node by node, each node before those below it. -/
def addTree (arena : Arena) (parent : Nat) : NodeTree → Arena
  | .mk node children => addTrees (arena.addNode parent node) arena.nodes.length children

def addTrees (arena : Arena) (parent : Nat) : List NodeTree → Arena
  | [] => arena
  | tree :: rest => addTrees (addTree arena parent tree) parent rest
end

def ofTree : NodeTree → Arena
  | .mk node children => addTrees (ofNode node) 0 children

/-- The arena with the node changed that an id stands for. The map stays as it is. -/
def changeOf (arena : Arena) (id : NodeId) (edit : Node → Node) : Arena :=
  match arena.index id with
  | some number => { arena with nodes := arena.nodes.modify number edit }
  | none => arena

mutual
/-- A node with the trees that hang on its children. -/
inductive Unfolds (arena : Arena) : Nat → NodeTree → Prop where
  | node {number : Nat} {node : Node} {trees : List NodeTree}
      (present : arena.nodes[number]? = some node)
      (below : UnfoldsAll arena (arena.children number) trees) :
      Unfolds arena number (.mk node trees)

inductive UnfoldsAll (arena : Arena) : List Nat → List NodeTree → Prop where
  | nil : UnfoldsAll arena [] []
  | cons {number : Nat} {numbers : List Nat} {tree : NodeTree} {trees : List NodeTree}
      (first : Unfolds arena number tree) (others : UnfoldsAll arena numbers trees) :
      UnfoldsAll arena (number :: numbers) (tree :: trees)
end

/-! ### Nodes -/

mutual
theorem nodes_addTree (arena : Arena) (parent : Nat) (tree : NodeTree) :
    (arena.addTree parent tree).nodes = arena.nodes ++ tree.nodes := by
  cases tree with
  | mk node children =>
    simp [addTree, nodes_addTrees _ _ children, addNode]

theorem nodes_addTrees (arena : Arena) (parent : Nat) (trees : List NodeTree) :
    (arena.addTrees parent trees).nodes = arena.nodes ++ NodeTree.nodesAll trees := by
  cases trees with
  | nil => simp [addTrees]
  | cons tree rest => simp [addTrees, nodes_addTrees _ _ rest, nodes_addTree _ _ tree]
end

theorem nodes_ofTree (tree : NodeTree) : (ofTree tree).nodes = tree.nodes := by
  cases tree with
  | mk node children =>
    simp [ofTree, nodes_addTrees, ofNode]

/-! ### Edges -/

section Edges

variable {arena : Arena} {parent child : Nat}

theorem mem_targets_iff : child ∈ arena.targets parent ↔ (parent, child) ∈ arena.edges := by
  simp [targets, List.mem_filterMap]

theorem mem_sources_iff : parent ∈ arena.sources child ↔ (parent, child) ∈ arena.edges := by
  simp [sources, List.mem_filterMap]

theorem length_sources (arena : Arena) (child : Nat) :
    (arena.sources child).length = (arena.edges.map Prod.snd).count child := by
  rw [sources]
  induction arena.edges with
  | nil => rfl
  | cons edge rest inductionHypothesis =>
    rw [List.filterMap_cons, List.map_cons, List.count_cons]
    by_cases here : edge.2 = child
    · simp [here, inductionHypothesis]
    · simp [here, inductionHypothesis]

/-- Every node but the first has been added with one edge, from a node that was there before. -/
structure Grown (arena : Arena) : Prop where
  nonempty : 0 < arena.nodes.length
  inOrder : arena.edges.map Prod.snd = List.range' 1 (arena.nodes.length - 1)
  earlier : ∀ edge ∈ arena.edges, edge.1 < edge.2

theorem grown_ofNode (node : Node) : (ofNode node).Grown where
  nonempty := Nat.one_pos
  inOrder := rfl
  earlier _ member := by cases member

theorem Grown.addNode (grown : arena.Grown) (present : parent < arena.nodes.length)
    (node : Node) : (arena.addNode parent node).Grown where
  nonempty := by simp [Arena.addNode]
  inOrder := by
    have last : arena.nodes.length = 1 + 1 * (arena.nodes.length - 1) := by
      have := grown.nonempty
      omega
    have more : (arena.nodes ++ [node]).length - 1 = (arena.nodes.length - 1) + 1 := by
      have := grown.nonempty
      simp
      omega
    rw [Arena.addNode, List.map_append, grown.inOrder, more, List.range'_concat]
    simp only [List.map_cons, List.map_nil]
    rw [← last]
  earlier edge member := by
    rcases List.mem_append.mp member with old | new
    · exact grown.earlier edge old
    · rw [List.mem_singleton.mp new]
      exact present

theorem Grown.changeOf (grown : arena.Grown) (id : NodeId) (edit : Node → Node) :
    (arena.changeOf id edit).Grown := by
  unfold Arena.changeOf
  split
  · refine ⟨?_, ?_, grown.earlier⟩
    · simpa using grown.nonempty
    · simpa using grown.inOrder
  · exact grown

theorem Grown.mem_edges (grown : arena.Grown) (member : (parent, child) ∈ arena.edges) :
    parent < child ∧ child < arena.nodes.length := by
  refine ⟨grown.earlier _ member, ?_⟩
  have inside : child ∈ arena.edges.map Prod.snd := List.mem_map.mpr ⟨_, member, rfl⟩
  rw [grown.inOrder, List.mem_range'_1] at inside
  have := grown.nonempty
  omega

/-- The first node has no parent. -/
theorem Grown.sources_zero (grown : arena.Grown) : arena.sources 0 = [] := by
  rw [List.eq_nil_iff_forall_not_mem]
  intro parent member
  exact absurd (grown.mem_edges (mem_sources_iff.mp member)).1 (Nat.not_lt_zero _)

/-- Every other node has one parent, which was added before it. -/
theorem Grown.exists_sources (grown : arena.Grown) (added : 0 < child)
    (present : child < arena.nodes.length) :
    ∃ parent < child, arena.sources child = [parent] := by
  have inside : child ∈ arena.edges.map Prod.snd := by
    rw [grown.inOrder, List.mem_range'_1]
    omega
  have distinct : (arena.edges.map Prod.snd).Nodup := by
    rw [grown.inOrder]
    exact List.nodup_range'
  obtain ⟨parent, same⟩ := List.length_eq_one_iff.mp
    ((length_sources arena child).trans (List.count_eq_one_of_mem distinct inside))
  have member : (parent, child) ∈ arena.edges := by
    rw [← mem_sources_iff, same]
    exact List.mem_singleton_self _
  exact ⟨parent, (grown.mem_edges member).1, same⟩

/-- Children come in the order in which they were added. -/
theorem Grown.pairwise_targets (grown : arena.Grown) (parent : Nat) :
    (arena.targets parent).Pairwise (· < ·) := by
  have ordered : (arena.edges.map Prod.snd).Pairwise (· < ·) := by
    rw [grown.inOrder]
    exact List.pairwise_lt_range'
  rw [targets, List.pairwise_filterMap]
  refine (List.pairwise_map.mp ordered).imp fun below target same other sameOther => ?_
  simp only [Option.ite_none_right_eq_some, Option.some.injEq] at same sameOther
  rwa [← same.2, ← sameOther.2]

/-- Listing the children in another order and sorting them makes no difference. -/
theorem Grown.mergeSort_of_perm (grown : arena.Grown) {listed : List Nat}
    (neighbours : listed.Perm (arena.targets parent)) :
    listed.mergeSort = arena.targets parent := by
  have sorted : listed.mergeSort.Pairwise fun left right => decide (left ≤ right) = true :=
    List.pairwise_mergeSort
      (fun _ _ _ first second => by
        rw [decide_eq_true_eq] at *
        exact Nat.le_trans first second)
      (fun left right => by simpa using Nat.le_total left right) listed
  have ordered : (arena.targets parent).Pairwise fun left right => decide (left ≤ right) = true :=
    (grown.pairwise_targets parent).imp fun before => decide_eq_true (Nat.le_of_lt before)
  exact List.Perm.eq_of_pairwise (fun left right _ _ below above =>
      Nat.le_antisymm (of_decide_eq_true below) (of_decide_eq_true above))
    sorted ordered ((List.mergeSort_perm listed _).trans neighbours)

theorem Grown.children_eq (grown : arena.Grown) (parent : Nat) :
    arena.children parent = arena.targets parent := grown.mergeSort_of_perm (List.Perm.refl _)

end Edges

/-! ### Ids -/

/-- A map holds, for each id, the last place that the id has among those carried. -/
def Latest (index : NodeId → Option Nat) (carried : List NodeId) : Prop :=
  ∀ id number, index id = some number ↔
    carried[number]? = some id ∧ ∀ later, number < later → carried[later]? ≠ some id

theorem latest_nil : Latest (fun _ => none) [] := by
  intro id number
  simp

theorem Latest.concat {index : NodeId → Option Nat} {carried : List NodeId}
    (latest : Latest index carried) (added : NodeId) :
    Latest (fun id => if id = added then some carried.length else index id)
      (carried ++ [added]) := by
  intro id number
  dsimp only
  have last : (carried ++ [added])[carried.length]? = some added := List.getElem?_concat_length
  have outside {place : Nat} (beyond : carried.length < place) :
      (carried ++ [added])[place]? = none := by
    rw [List.getElem?_eq_none_iff, List.length_append, List.length_singleton]
    exact beyond
  by_cases here : id = added
  · subst here
    rw [if_pos rfl, Option.some.injEq]
    constructor
    · rintro rfl
      refine ⟨last, fun later beyond => ?_⟩
      rw [outside beyond]
      exact (Option.some_ne_none id).symm
    · rintro ⟨found, none⟩
      rcases Nat.lt_trichotomy carried.length number with beyond | same | inside
      · rw [outside beyond] at found
        cases found
      · exact same
      · exact absurd last (none _ inside)
  · have kept (place : Nat) :
        (carried ++ [added])[place]? = some id ↔ carried[place]? = some id := by
      rcases Nat.lt_trichotomy carried.length place with beyond | rfl | inside
      · rw [outside beyond, List.getElem?_eq_none (Nat.le_of_lt beyond)]
      · rw [last, List.getElem?_eq_none (Nat.le_refl _)]
        simp [Ne.symm here]
      · rw [List.getElem?_append_left inside]
    rw [if_neg here, latest id number, kept]
    exact and_congr_right fun _ => forall_congr' fun later => by rw [Ne, Ne, kept]

/-- The map of an arena after nodes with these ids were added. -/
structure Records (arena : Arena) (carried : List NodeId) : Prop where
  length : arena.nodes.length = carried.length
  latest : Latest arena.index carried

theorem records_ofNode (node : Node) : (ofNode node).Records [node.id] :=
  ⟨rfl, latest_nil.concat node.id⟩

theorem Records.addNode {arena : Arena} {carried : List NodeId} (records : arena.Records carried)
    (parent : Nat) (node : Node) :
    (arena.addNode parent node).Records (carried ++ [node.id]) where
  length := by simp [Arena.addNode, records.length]
  latest := by
    rw [Arena.addNode, records.length]
    exact records.latest.concat node.id

theorem Records.changeOf {arena : Arena} {carried : List NodeId} (records : arena.Records carried)
    (id : NodeId) (edit : Node → Node) : (arena.changeOf id edit).Records carried := by
  unfold Arena.changeOf
  split
  · exact ⟨by simpa using records.length, records.latest⟩
  · exact records

end Arena

end SceneMarkup
