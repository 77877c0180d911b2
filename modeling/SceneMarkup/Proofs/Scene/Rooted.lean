import SceneMarkup.Proofs.Document.Settled
import SceneMarkup.Proofs.Scene.Steps

/-!
Contract: a scene is one ordered tree over whole runs.

Owns:
- `Scene.Run`, a scene and an arena that take the same steps from one detached tree on;
- `Scene.Rooted`, what callers rely on in every state, and `Scene.Extends`, what an addition does;
- the theorem that both hold over all runs.

Does not own: what a single step does.
-/

namespace SceneMarkup

namespace Scene

open NumberedTree

/-! ### Statement -/

/-- A scene and an arena that are made of one tree and take the same steps, with the ids that nodes
had when they were added. -/
inductive Run : List NodeId → Scene → Arena → Prop where
  | parsed (tree : NodeTree) : Run tree.ids (.ofTree tree) (.ofTree tree)
  | nodeAdded {carried : List NodeId} {scene : Scene} {arena : Arena}
      (earlier : Run carried scene arena) {parent : Nat} (present : parent < arena.nodes.length)
      (node : Node) :
      Run (carried ++ [node.id]) (scene.addNode parent node) (arena.addNode parent node)
  | treeAdded {carried : List NodeId} {scene : Scene} {arena : Arena}
      (earlier : Run carried scene arena) {parent : Nat} (present : parent < arena.nodes.length)
      (tree : NodeTree) :
      Run (carried ++ tree.ids) (scene.addTree parent tree) (arena.addTree parent tree)
  | edited {carried : List NodeId} {scene : Scene} {arena : Arena}
      (earlier : Run carried scene arena) (id : NodeId) (edit : Node → Node) :
      Run carried (scene.changeOf id edit) (arena.changeOf id edit)

/-- The node at the end of a path of positions among children, from a node on. -/
def walk? (scene : Scene) : Nat → List Nat → Option Nat
  | number, [] => some number
  | number, position :: rest =>
    (scene.children number)[position]?.bind fun child => scene.walk? child rest

/-- What callers rely on in every state. A graph lists neighbours in any order, here `listed`. -/
structure Rooted (carried : List NodeId) (scene : Scene) (arena : Arena) : Prop where
  sameNodes : ∀ number, scene.node? number = arena.nodes[number]?
  count : scene.size = arena.nodes.length ∧ scene.toTree.size = arena.nodes.length
  rootParent : scene.root.number = 0 ∧ arena.sources 0 = [] ∧ scene.parent? 0 = none
  oneParent : ∀ child, 0 < child → child < arena.nodes.length →
    ∃ parent < child, arena.sources child = [parent] ∧ scene.parent? child = some parent
  parentOfChild : ∀ parent child,
    scene.parent? child = some parent ↔ child ∈ scene.children parent
  firstSource : ∀ child (listed : List Nat), listed.Perm (arena.sources child) →
    listed.head? = scene.parent? child
  inOrder : ∀ parent, scene.children parent = arena.targets parent
  sorted : ∀ parent (listed : List Nat), listed.Perm (arena.targets parent) →
    listed.mergeSort = scene.children parent
  reached : ∀ number < arena.nodes.length, ∃ path, scene.walk? 0 path = some number
  unfolded : arena.Unfolds 0 scene.toTree
  sameIndex : ∀ id, scene.numberOf? id = arena.index id
  latest : Arena.Latest arena.index carried

/-- The addition of a tree below a node. Paths from the root lead to the node where the tree
appears. -/
structure Extends (scene : Scene) (parent : Nat) (added : NodeTree) : Prop where
  tree : ∀ path, scene.walk? 0 path = some parent →
    (scene.addTree parent added).toTree = NodeTree.appendAt added path scene.toTree
  nodes : ∀ number, (scene.addTree parent added).node? number =
    if number < scene.size then scene.node? number else added.nodes[number - scene.size]?
  children : ∀ number < scene.size, (scene.addTree parent added).children number =
    scene.children number ++ if number = parent then [scene.size] else []
  parents : ∀ number ≤ scene.size, (scene.addTree parent added).parent? number =
    if number = scene.size then some parent else scene.parent? number

end Scene

namespace NumberedTree

mutual
theorem size_toTree (tree : NumberedTree) : tree.toTree.size = tree.numbers.length := by
  cases tree with
  | mk number node children =>
    rw [toTree, NodeTree.size, sizeAll_toTrees, numbers_mk, List.length_cons, Nat.add_comm]

theorem sizeAll_toTrees (trees : List NumberedTree) :
    NodeTree.sizeAll (toTrees trees) = (numbersAll trees).length := by
  cases trees with
  | nil =>
    rw [toTrees, NodeTree.sizeAll, numbersAll_nil]
    rfl
  | cons tree rest =>
    rw [toTrees, NodeTree.sizeAll, size_toTree, sizeAll_toTrees, numbersAll_cons,
      List.length_append]
end

end NumberedTree

namespace Scene

open NumberedTree

/-! ### Children and parents -/

theorem children_of_find? {scene : Scene} {number : Nat} {part : NumberedTree}
    (found : scene.root.find? number = some part) :
    scene.children number = part.children.map NumberedTree.number := by
  rw [children, found]
  rfl

theorem mem_children_iff (scene : Scene) (parent child : Nat) :
    child ∈ scene.children parent ↔
      ∃ part, scene.root.find? parent = some part ∧
        child ∈ part.children.map NumberedTree.number := by
  rw [children]
  cases scene.root.find? parent <;> simp

theorem WellNumbered.parent?_eq_some_iff {scene : Scene} (numbered : scene.WellNumbered)
    {parent child : Nat} : scene.parent? child = some parent ↔ child ∈ scene.children parent :=
  (NumberedTree.parent?_eq_some_iff numbered.nodup).trans
    (scene.mem_children_iff parent child).symm

/-! ### Paths -/

theorem walk?_concat (scene : Scene) (number : Nat) (path : List Nat) (position : Nat) :
    scene.walk? number (path ++ [position]) =
      (scene.walk? number path).bind fun last => (scene.children last)[position]? := by
  induction path generalizing number with
  | nil => simp [walk?]
  | cons first rest inductionHypothesis =>
    rw [List.cons_append, walk?, walk?, Option.bind_assoc]
    exact Option.bind_congr fun child _ => inductionHypothesis child

/-- A path leads to the number of the part at its end. -/
theorem walk?_eq {scene : Scene} (numbered : scene.WellNumbered) {number : Nat}
    {part : NumberedTree} (found : scene.root.find? number = some part) (path : List Nat) :
    scene.walk? number path = (at? path part).map NumberedTree.number := by
  induction path generalizing number part with
  | nil => rw [walk?, at?, Option.map_some, number_of_find? found]
  | cons position rest inductionHypothesis =>
    rw [walk?, at?, children_of_find? found, List.getElem?_map]
    cases inside : part.children[position]? with
    | none => rfl
    | some below =>
      exact inductionHypothesis
        (find?_child numbered.nodup found (List.mem_of_getElem? inside))

/-! ### States -/

namespace Agrees

variable {carried : List NodeId} {scene : Scene} {arena : Arena}

theorem length_numbers (agrees : Agrees carried scene arena) :
    scene.root.numbers.length = arena.nodes.length := by
  have same : scene.root.numbers.Perm (List.range arena.nodes.length) :=
    (List.perm_ext_iff_of_nodup agrees.numbered.nodup List.nodup_range).mpr fun number => by
      rw [agrees.mem_numbers_iff, List.mem_range]
  rw [same.length_eq, List.length_range]

/-- A node has at most one parent, the one that the scene has. -/
theorem sources_eq (agrees : Agrees carried scene arena) (child : Nat) :
    arena.sources child = (scene.parent? child).toList := by
  have above (parent : Nat) : scene.parent? child = some parent ↔ parent ∈ arena.sources child := by
    rw [agrees.numbered.parent?_eq_some_iff, agrees.children, Arena.mem_targets_iff,
      Arena.mem_sources_iff]
  by_cases inside : 0 < child ∧ child < arena.nodes.length
  · obtain ⟨parent, _, only⟩ := agrees.grown.exists_sources inside.1 inside.2
    have found : scene.parent? child = some parent := by
      rw [above, only]
      exact List.mem_singleton_self _
    rw [only, found]
    rfl
  · have nothing : arena.sources child = [] := by
      rw [List.eq_nil_iff_forall_not_mem]
      intro parent member
      have := agrees.grown.mem_edges (Arena.mem_sources_iff.mp member)
      omega
    have top : scene.parent? child = none := by
      rw [Option.eq_none_iff_forall_ne_some]
      intro parent found
      rw [above, nothing] at found
      cases found
    rw [nothing, top]
    rfl

theorem exists_parent? (agrees : Agrees carried scene arena) {child : Nat} (later : 0 < child)
    (present : child < arena.nodes.length) :
    ∃ parent < child, arena.sources child = [parent] ∧ scene.parent? child = some parent := by
  obtain ⟨parent, before, only⟩ := agrees.grown.exists_sources later present
  exact ⟨parent, before, only,
    Option.toList_eq_singleton_iff.mp ((agrees.sources_eq child).symm.trans only)⟩

/-- Parents are older than their children, so that the way up ends at the first node. -/
theorem exists_walk? (agrees : Agrees carried scene arena) (number : Nat)
    (present : number < arena.nodes.length) : ∃ path, scene.walk? 0 path = some number := by
  induction number using Nat.strong_induction_on with
  | _ number inductionHypothesis =>
    rcases Nat.eq_zero_or_pos number with rfl | later
    · exact ⟨[], rfl⟩
    · obtain ⟨parent, before, _, above⟩ := agrees.exists_parent? later present
      obtain ⟨path, leads⟩ := inductionHypothesis parent before (Nat.lt_trans before present)
      obtain ⟨position, here⟩ :=
        List.mem_iff_getElem?.mp (agrees.numbered.parent?_eq_some_iff.mp above)
      refine ⟨path ++ [position], ?_⟩
      rw [walk?_concat, leads]
      exact here

theorem unfoldsAll {arena : Arena} {trees : List NumberedTree}
    (each : ∀ tree ∈ trees, arena.Unfolds tree.number tree.toTree) :
    arena.UnfoldsAll (trees.map NumberedTree.number) (toTrees trees) := by
  induction trees with
  | nil =>
    rw [toTrees]
    exact .nil
  | cons tree rest inductionHypothesis =>
    rw [toTrees]
    exact .cons (each tree List.mem_cons_self)
      (inductionHypothesis fun later member => each later (List.mem_cons_of_mem _ member))

theorem unfolds (agrees : Agrees carried scene arena) {number : Nat} {part : NumberedTree}
    (found : scene.root.find? number = some part) : arena.Unfolds number part.toTree := by
  induction part using below_induction generalizing number with
  | step part inductionHypothesis =>
    have node : arena.nodes[number]? = some part.node := by
      rw [← agrees.nodes, node?, found]
      rfl
    have below : arena.children number = part.children.map NumberedTree.number := by
      rw [agrees.grown.children_eq, ← agrees.children, children_of_find? found]
    have each := unfoldsAll fun tree member => inductionHypothesis tree member
      (find?_child agrees.numbered.nodup found member)
    rw [← below] at each
    cases part with
    | mk number node children =>
      rw [NumberedTree.toTree]
      exact .node node each

theorem find?_zero (agrees : Agrees carried scene arena) :
    scene.root.find? 0 = some scene.root := by
  rw [← agrees.rootNumber]
  exact find?_self _

theorem rooted (agrees : Agrees carried scene arena) : Rooted carried scene arena where
  sameNodes := agrees.nodes
  count := ⟨agrees.size, (size_toTree _).trans agrees.length_numbers⟩
  rootParent := by
    refine ⟨agrees.rootNumber, agrees.grown.sources_zero, ?_⟩
    rw [← Option.toList_eq_nil_iff, ← agrees.sources_eq, agrees.grown.sources_zero]
  oneParent child later present := agrees.exists_parent? later present
  parentOfChild _ _ := agrees.numbered.parent?_eq_some_iff
  firstSource child listed neighbours := by
    rw [agrees.sources_eq] at neighbours
    cases found : scene.parent? child with
    | none =>
      rw [found] at neighbours
      rw [neighbours.eq_nil]
      rfl
    | some parent =>
      rw [found] at neighbours
      rw [List.perm_singleton.mp neighbours]
      rfl
  inOrder := agrees.children
  sorted parent listed neighbours := by
    rw [agrees.children]
    exact agrees.grown.mergeSort_of_perm neighbours
  reached := agrees.exists_walk?
  unfolded := agrees.unfolds agrees.find?_zero
  sameIndex := agrees.index
  latest := agrees.records.latest

/-! ### Additions -/

variable {parent : Nat}

theorem toTree_addTree (agrees : Agrees carried scene arena) (added : NodeTree) {path : List Nat}
    (leads : scene.walk? 0 path = some parent) :
    (scene.addTree parent added).toTree = NodeTree.appendAt added path scene.toTree := by
  rw [walk?_eq agrees.numbered agrees.find?_zero, Option.map_eq_some_iff] at leads
  obtain ⟨part, reached, here⟩ := leads
  have grown := @toTree_append path parent (NumberedTree.ofTree scene.size added) _ _
    agrees.numbered.nodup reached here
  rwa [NumberedTree.toTree_ofTree] at grown

theorem node?_addTree (agrees : Agrees carried scene arena)
    (present : parent < arena.nodes.length) (added : NodeTree) (number : Nat) :
    (scene.addTree parent added).node? number =
      if number < scene.size then scene.node? number else added.nodes[number - scene.size]? := by
  rw [(agrees.addTree present added).nodes, Arena.nodes_addTree, List.getElem?_append,
    agrees.nodes, agrees.size]

theorem not_mem_numbers_of_lt {scene : Scene} {number : Nat} (old : number < scene.size)
    (added : NodeTree) : number ∉ (NumberedTree.ofTree scene.size added).numbers := by
  rw [numbers_ofTree, List.mem_range'_1]
  omega

theorem children_addTree (agrees : Agrees carried scene arena)
    (present : parent < arena.nodes.length) (added : NodeTree) {number : Nat}
    (old : number < scene.size) :
    (scene.addTree parent added).children number =
      scene.children number ++ if number = parent then [scene.size] else [] :=
  children_addTree_of_old (agrees.mem_numbers_iff.mpr present) (not_mem_numbers_of_lt old added)

/-- Children below an added node are younger than it, so that older nodes keep their parents. -/
theorem parent?_addTree (agrees : Agrees carried scene arena)
    (present : parent < arena.nodes.length) (added : NodeTree) {number : Nat}
    (old : number ≤ scene.size) :
    (scene.addTree parent added).parent? number =
      if number = scene.size then some parent else scene.parent? number := by
  have after := agrees.addTree present added
  have younger {above : Nat} (child : number ∈ (scene.addTree parent added).children above) :
      above < scene.size := by
    rw [after.children, Arena.mem_targets_iff] at child
    have := (after.grown.mem_edges child).1
    omega
  have fresh : scene.parent? scene.size = none := by
    rw [← Option.toList_eq_nil_iff, ← agrees.sources_eq, List.eq_nil_iff_forall_not_mem]
    intro above member
    have := agrees.grown.mem_edges (Arena.mem_sources_iff.mp member)
    have := agrees.size
    omega
  apply Option.ext
  intro above
  rw [after.numbered.parent?_eq_some_iff]
  constructor
  · intro child
    rw [agrees.children_addTree present added (younger child), List.mem_append,
      ← agrees.numbered.parent?_eq_some_iff] at child
    rcases child with before | new
    · rw [if_neg, before]
      rintro rfl
      rw [fresh] at before
      cases before
    · by_cases here : above = parent
      · rw [if_pos here] at new
        rw [if_pos (List.mem_singleton.mp new), here]
      · rw [if_neg here] at new
        cases new
  · intro found
    by_cases new : number = scene.size
    · rw [if_pos new] at found
      cases found
      rw [agrees.children_addTree present added (by rwa [agrees.size]), if_pos rfl, new]
      exact List.mem_append_right _ (List.mem_singleton_self _)
    · rw [if_neg new, agrees.numbered.parent?_eq_some_iff] at found
      have inside : above < scene.size := by
        have edge := found
        rw [agrees.children, Arena.mem_targets_iff] at edge
        have := agrees.grown.mem_edges edge
        omega
      rw [agrees.children_addTree present added inside]
      exact List.mem_append_left _ found

theorem extended (agrees : Agrees carried scene arena) (present : parent < arena.nodes.length)
    (added : NodeTree) : Extends scene parent added where
  tree _ leads := agrees.toTree_addTree added leads
  nodes := agrees.node?_addTree present added
  children _ old := agrees.children_addTree present added old
  parents _ old := agrees.parent?_addTree present added old

end Agrees

/-! ### Runs -/

theorem Run.agrees {carried : List NodeId} {scene : Scene} {arena : Arena}
    (run : Run carried scene arena) : Agrees carried scene arena := by
  induction run with
  | parsed tree => exact Agrees.ofTree tree
  | nodeAdded _ present node inductionHypothesis => exact inductionHypothesis.addNode present node
  | treeAdded _ present tree inductionHypothesis => exact inductionHypothesis.addTree present tree
  | edited _ id edit inductionHypothesis => exact inductionHypothesis.changeOf id edit

/-- A detached tree is taken over in pre-order and given back as it was. From then on the scene is
one ordered tree with a true index, and an addition changes nothing but the end of one list of
children. -/
theorem stays_rooted :
    (∀ tree : NodeTree, (ofTree tree).toTree = tree ∧
      (ofTree tree).root.numbers = List.range tree.size ∧
      (Arena.ofTree tree).nodes = tree.nodes) ∧
    ∀ (carried : List NodeId) (scene : Scene) (arena : Arena), Run carried scene arena →
      Rooted carried scene arena ∧
      ∀ parent < arena.nodes.length, ∀ added : NodeTree, Extends scene parent added := by
  constructor
  · intro tree
    refine ⟨toTree_ofTree tree, ?_, Arena.nodes_ofTree tree⟩
    rw [List.range_eq_range']
    exact numbers_ofTree 0 tree
  · intro carried scene arena run
    exact ⟨run.agrees.rooted, fun parent present added => run.agrees.extended present added⟩

/-- Four nodes are added under one id. The last of them is found, below the older ones. -/
theorem stays_rooted_with_shared_id :
    ∃ (pair : NodeTree) (scene : Scene) (arena : Arena),
      Run [⟨"a"⟩, ⟨"a"⟩, ⟨"b"⟩, ⟨"a"⟩, ⟨"a"⟩] scene arena ∧ pair.ids = [⟨"a"⟩, ⟨"a"⟩] ∧
      (ofTree pair).toTree = pair ∧
      Rooted [⟨"a"⟩, ⟨"a"⟩, ⟨"b"⟩, ⟨"a"⟩, ⟨"a"⟩] scene arena ∧
      scene.children 0 = [1, 3] ∧ scene.numberOf? ⟨"a"⟩ = some 4 ∧
      (scene.node? 4).map Node.text = some "changed" ∧
      4 < arena.nodes.length ∧ Extends scene 4 pair := by
  let pair : NodeTree := .mk (.ofKind ⟨"a"⟩ .container) [.leaf (.ofKind ⟨"a"⟩ .text)]
  have first := (Run.parsed pair).nodeAdded (by decide : 1 < _) (.ofKind ⟨"b"⟩ .text)
  have second := first.treeAdded (by decide : 0 < _) pair
  have run := second.edited ⟨"a"⟩ fun node => { node with text := "changed" }
  obtain ⟨rooted, extended⟩ := stays_rooted.2 _ _ _ run
  exact ⟨pair, _, _, run, rfl, (stays_rooted.1 pair).1, rooted, by decide, by decide, by decide,
    by decide, extended 4 (by decide) pair⟩

end Scene

end SceneMarkup
