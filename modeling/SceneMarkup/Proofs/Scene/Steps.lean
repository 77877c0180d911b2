import SceneMarkup.Proofs.Scene.Arena
import SceneMarkup.Proofs.Scene.Lookup

/-!
Contract: a scene and an arena that take the same steps.

Owns:
- the addition of a tree to a scene, node by node;
- what one added or changed node does to nodes, children and ids;
- `Scene.Agrees`, a scene and an arena with the same nodes, children and ids, which every step
  preserves.

Does not own: what follows for whole runs.
-/

namespace SceneMarkup

namespace Scene

open NumberedTree

/-! ### Trees node by node -/

/-- The scene with trees added one after another as the last children of a node. -/
def addTrees (scene : Scene) (parent : Nat) : List NodeTree → Scene
  | [] => scene
  | tree :: rest => addTrees (scene.addTree parent tree) parent rest

/-- The ids of trees side by side, with their numbers. -/
def idsOfAll (trees : List NumberedTree) : List (NodeId × Nat) :=
  (preorderAll trees).map fun entry => (entry.2.id, entry.1)

/-- Trees that are added below one node, at a place where it grows. -/
theorem addTrees_eq {place : List NumberedTree → NumberedTree} {number : Nat}
    (grows : ∀ siblings added, number ∉ numbersAll siblings →
      append number added (place siblings) = place (siblings ++ [added]))
    (trees : List NodeTree) {siblings : List NumberedTree} (alone : number ∉ numbersAll siblings)
    {size : Nat} (earlier : number < size) (added : List (NodeId × Nat)) :
    addTrees ⟨place siblings, size, added⟩ number trees =
      ⟨place (siblings ++ ofTrees size trees), size + NodeTree.sizeAll trees,
        added ++ idsOfAll (ofTrees size trees)⟩ := by
  induction trees generalizing siblings size added with
  | nil => simp [addTrees, ofTrees, NodeTree.sizeAll, idsOfAll, preorderAll]
  | cons tree rest inductionHypothesis =>
    have fresh : number ∉ (NumberedTree.ofTree size tree).numbers := by
      rw [numbers_ofTree, List.mem_range'_1]
      omega
    have alone' : number ∉ numbersAll (siblings ++ [NumberedTree.ofTree size tree]) := by
      simp [alone, fresh]
    rw [addTrees, addTree]
    dsimp only
    rw [grows _ _ alone, inductionHypothesis alone' (by omega)]
    simp [ofTrees, NodeTree.sizeAll, idsOfAll, preorderAll, idsOf, Nat.add_assoc]

theorem addNode_eq (scene : Scene) (parent : Nat) (node : Node) :
    scene.addNode parent node = ⟨append parent (.mk scene.size node []) scene.root,
      scene.size + 1, scene.added ++ [(node.id, scene.size)]⟩ := rfl

/-- A tree is added by adding its first node and then its children below that node. -/
theorem addTree_mk {scene : Scene} (numbered : scene.WellNumbered) (parent : Nat) (node : Node)
    (children : List NodeTree) :
    scene.addTree parent (.mk node children) =
      addTrees (scene.addNode parent node) scene.size children := by
  have new : scene.size ∉ scene.root.numbers :=
    fun member => Nat.lt_irrefl _ (numbered.lt_size _ member)
  have below := @addTrees_eq
    (fun siblings => append parent (.mk scene.size node siblings) scene.root) scene.size
    (fun siblings added alone => append_append new alone) children [] (by simp) _
    (Nat.lt_succ_self scene.size) (scene.added ++ [(node.id, scene.size)])
  rw [addNode_eq, below, addTree, NumberedTree.ofTree, NodeTree.size, idsOf, preorder]
  simp [idsOfAll, Nat.add_assoc]

/-- The scene of a tree is that of its first node with the children added. -/
theorem ofTree_mk (node : Node) (children : List NodeTree) :
    ofTree (.mk node children) = addTrees (ofTree (.leaf node)) 0 children := by
  have below := @addTrees_eq (fun siblings => .mk 0 node siblings) 0
    (fun siblings added alone => by
      rw [append, appendAll_eq_map, map_append_of_not_mem alone, if_pos rfl])
    children [] (by simp) _ Nat.one_pos [(node.id, 0)]
  have first : ofTree (.leaf node) = ⟨.mk 0 node [], 1, [(node.id, 0)]⟩ := rfl
  rw [first, below, ofTree, NumberedTree.ofTree, NodeTree.size, idsOf, preorder]
  simp [idsOfAll]

/-! ### One step -/

/-- The scene with the node changed that an id stands for. -/
def changeOf (scene : Scene) (id : NodeId) (edit : Node → Node) : Scene :=
  match scene.numberOf? id with
  | some number => scene.change number edit
  | none => scene

theorem isSome_node? (scene : Scene) (number : Nat) :
    (scene.node? number).isSome = true ↔ number ∈ scene.root.numbers := by
  rw [node?, Option.isSome_map, isSome_find?]

section AddedNode

variable {scene : Scene} {parent : Nat}

theorem WellNumbered.size_not_mem (numbered : scene.WellNumbered) :
    scene.size ∉ scene.root.numbers := fun member => Nat.lt_irrefl _ (numbered.lt_size _ member)

theorem node?_addTree_of_old {number : Nat} {tree : NodeTree}
    (old : number ∉ (NumberedTree.ofTree scene.size tree).numbers) :
    (scene.addTree parent tree).node? number = scene.node? number := by
  rw [node?, addTree, node?]
  dsimp only
  rw [find?_append_of_old old, Option.map_map]
  exact congrFun (congrArg Option.map (funext fun _ => node_append)) _

theorem children_addTree_of_old {number : Nat} {tree : NodeTree}
    (present : parent ∈ scene.root.numbers)
    (old : number ∉ (NumberedTree.ofTree scene.size tree).numbers) :
    (scene.addTree parent tree).children number =
      scene.children number ++ if number = parent then [scene.size] else [] := by
  rw [children, addTree, children]
  dsimp only
  rw [find?_append_of_old old, Option.map_map]
  cases found : scene.root.find? number with
  | none =>
    have other : number ≠ parent := by
      rintro rfl
      rw [← isSome_find?, found] at present
      cases present
    rw [if_neg other]
    rfl
  | some part =>
    have added : (NumberedTree.ofTree scene.size tree).number = scene.size := by
      cases tree with
      | mk node children => rw [NumberedTree.ofTree, NumberedTree.number]
    show (append parent _ part).children.map NumberedTree.number = _
    rw [map_number_children_append, number_of_find? found, added]
    rfl

theorem find?_addNode (numbered : scene.WellNumbered) (present : parent ∈ scene.root.numbers)
    (node : Node) :
    (scene.addNode parent node).root.find? scene.size = some (.mk scene.size node []) :=
  @find?_append_self parent (.mk scene.size node []) _ numbered.nodup present
    numbered.size_not_mem

theorem not_mem_numbers_leaf {number : Nat} (other : number ≠ scene.size) (node : Node) :
    number ∉ (NumberedTree.ofTree scene.size (.leaf node)).numbers := by
  rw [numbers_ofTree, List.mem_range'_1]
  intro inside
  have single : (NodeTree.leaf node).size = 1 := rfl
  omega

theorem node?_addNode (numbered : scene.WellNumbered) (present : parent ∈ scene.root.numbers)
    (node : Node) (number : Nat) :
    (scene.addNode parent node).node? number =
      if number = scene.size then some node else scene.node? number := by
  by_cases new : number = scene.size
  · rw [if_pos new, new, node?, find?_addNode numbered present]
    rfl
  · rw [if_neg new, addNode, node?_addTree_of_old (not_mem_numbers_leaf new node)]

theorem children_addNode (numbered : scene.WellNumbered) (present : parent ∈ scene.root.numbers)
    (node : Node) (number : Nat) :
    (scene.addNode parent node).children number =
      scene.children number ++ if number = parent then [scene.size] else [] := by
  by_cases new : number = scene.size
  · have earlier := numbered.lt_size _ present
    rw [new, children, find?_addNode numbered present, children,
      find?_eq_none numbered.size_not_mem, if_neg (Nat.ne_of_gt earlier)]
    rfl
  · rw [addNode, children_addTree_of_old present (not_mem_numbers_leaf new node)]

theorem numberOf?_addNode (scene : Scene) (parent : Nat) (node : Node) (id : NodeId) :
    (scene.addNode parent node).numberOf? id =
      if id = node.id then some scene.size else scene.numberOf? id := by
  rw [addNode_eq, numberOf?, List.filter_append]
  by_cases here : id = node.id
  · rw [if_pos here]
    simp [here]
  · rw [if_neg here]
    simp [Ne.symm here, numberOf?]

end AddedNode

theorem node?_change (scene : Scene) (target number : Nat) (edit : Node → Node) :
    (scene.change target edit).node? number =
      (scene.node? number).map fun node => if number = target then edit node else node := by
  rw [node?, node?, change, find?_change, Option.map_map, Option.map_map]
  apply Option.map_congr
  intro part found
  rw [Function.comp_apply, Function.comp_apply, node_change, number_of_find? found]

theorem children_change (scene : Scene) (target number : Nat) (edit : Node → Node) :
    (scene.change target edit).children number = scene.children number := by
  rw [children, children, change, find?_change, Option.map_map]
  have same :
      (fun tree => tree.children.map NumberedTree.number) ∘ NumberedTree.change target edit =
        fun tree => tree.children.map NumberedTree.number := by
    funext tree
    rw [Function.comp_apply, NumberedTree.children_change, List.map_map]
    exact List.map_congr_left fun below _ => number_change
  rw [same]

/-- A scene and an arena with the same nodes, children and index. -/
structure Agrees (carried : List NodeId) (scene : Scene) (arena : Arena) : Prop where
  numbered : scene.WellNumbered
  rootNumber : scene.root.number = 0
  size : scene.size = arena.nodes.length
  nodes : ∀ number, scene.node? number = arena.nodes[number]?
  children : ∀ parent, scene.children parent = arena.targets parent
  index : ∀ id, scene.numberOf? id = arena.index id
  grown : arena.Grown
  records : arena.Records carried

namespace Agrees

variable {carried : List NodeId} {scene : Scene} {arena : Arena} {parent : Nat}

theorem mem_numbers_iff (agrees : Agrees carried scene arena) {number : Nat} :
    number ∈ scene.root.numbers ↔ number < arena.nodes.length := by
  rw [← isSome_node?, agrees.nodes, isSome_getElem?]

theorem ofNode (node : Node) : Agrees [node.id] (.ofTree (.leaf node)) (.ofNode node) where
  numbered := wellNumbered_ofTree _
  rootNumber := rfl
  size := rfl
  nodes number := by
    cases number with
    | zero => rfl
    | succ number => rfl
  children parent := by
    cases parent with
    | zero => rfl
    | succ parent => rfl
  index id := by
    have added : (ofTree (.leaf node)).added = [(node.id, 0)] := rfl
    rw [numberOf?, added, Arena.ofNode]
    by_cases here : id = node.id
    · simp [here]
    · simp [here, Ne.symm here]
  grown := Arena.grown_ofNode node
  records := Arena.records_ofNode node

/-- A node is added to both. -/
theorem addNode (agrees : Agrees carried scene arena) (present : parent < arena.nodes.length)
    (node : Node) :
    Agrees (carried ++ [node.id]) (scene.addNode parent node) (arena.addNode parent node) where
  numbered := agrees.numbered.addTree parent _
  rootNumber := number_append.trans agrees.rootNumber
  size := by
    rw [addNode_eq, Arena.addNode, List.length_append, List.length_singleton, agrees.size]
  nodes number := by
    rw [node?_addNode agrees.numbered (agrees.mem_numbers_iff.mpr present), agrees.nodes,
      agrees.size, Arena.addNode]
    rcases Nat.lt_trichotomy number arena.nodes.length with inside | rfl | beyond
    · rw [if_neg (Nat.ne_of_lt inside), List.getElem?_append_left inside]
    · rw [if_pos rfl, List.getElem?_concat_length]
    · rw [if_neg (Nat.ne_of_gt beyond), List.getElem?_eq_none (Nat.le_of_lt beyond),
        List.getElem?_eq_none (by rwa [List.length_append])]
  children number := by
    rw [children_addNode agrees.numbered (agrees.mem_numbers_iff.mpr present), agrees.children,
      agrees.size, Arena.addNode, Arena.targets, Arena.targets, List.filterMap_append]
    by_cases here : number = parent
    · simp [here]
    · simp [here, Ne.symm here]
  index id := by
    rw [numberOf?_addNode, agrees.index, agrees.size]
    rfl
  grown := agrees.grown.addNode present node
  records := agrees.records.addNode parent node

mutual
/-- A tree is added to both, one node after another. -/
theorem addTree {carried : List NodeId} {scene : Scene} {arena : Arena} {parent : Nat}
    (agrees : Agrees carried scene arena) (present : parent < arena.nodes.length)
    (tree : NodeTree) :
    Agrees (carried ++ tree.ids) (scene.addTree parent tree) (arena.addTree parent tree) := by
  match tree with
  | .mk node children =>
    have first := agrees.addNode present node
    have here : arena.nodes.length < (arena.addNode parent node).nodes.length := by
      simp [Arena.addNode]
    have below := first.addTrees here children
    rw [addTree_mk agrees.numbered, agrees.size, Arena.addTree]
    simpa using below

theorem addTrees {carried : List NodeId} {scene : Scene} {arena : Arena} {parent : Nat}
    (agrees : Agrees carried scene arena) (present : parent < arena.nodes.length)
    (trees : List NodeTree) :
    Agrees (carried ++ (NodeTree.nodesAll trees).map Node.id) (scene.addTrees parent trees)
      (arena.addTrees parent trees) := by
  match trees with
  | [] =>
    simpa [Scene.addTrees, Arena.addTrees] using agrees
  | tree :: rest =>
    have first := agrees.addTree present tree
    have still : parent < (arena.addTree parent tree).nodes.length := by
      rw [first.records.length, List.length_append, ← agrees.records.length]
      omega
    have others := first.addTrees still rest
    rw [Scene.addTrees, Arena.addTrees]
    simpa [NodeTree.ids] using others
end

theorem ofTree (tree : NodeTree) : Agrees tree.ids (.ofTree tree) (.ofTree tree) := by
  cases tree with
  | mk node children =>
    have below := (Agrees.ofNode node).addTrees Nat.one_pos children
    rw [ofTree_mk, Arena.ofTree]
    simpa using below

/-- The same node is changed in both. -/
theorem changeOf (agrees : Agrees carried scene arena) (id : NodeId) (edit : Node → Node) :
    Agrees carried (scene.changeOf id edit) (arena.changeOf id edit) := by
  have grown := agrees.grown.changeOf id edit
  have records := agrees.records.changeOf id edit
  unfold Scene.changeOf
  unfold Arena.changeOf at grown records ⊢
  rw [agrees.index]
  cases found : arena.index id with
  | none => exact agrees
  | some target =>
    rw [found] at grown records
    exact {
      numbered := agrees.numbered.change target edit
      rootNumber := number_change.trans agrees.rootNumber
      size := by
        rw [List.length_modify]
        exact agrees.size
      nodes := fun number => by
        rw [node?_change, agrees.nodes, List.getElem?_modify]
        simp [eq_comm]
      children := fun number => by
        rw [children_change, agrees.children]
        rfl
      index := agrees.index
      grown := grown
      records := records }

end Agrees

end Scene

end SceneMarkup
