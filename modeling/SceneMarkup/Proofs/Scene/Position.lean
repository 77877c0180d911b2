import SceneMarkup.Proofs.Scene.Steps
import SceneMarkup.Scene.Frame

/-!
Contract: the bounds of a node, told from the nodes above it.

Owns:
- the lineage of a node, which leads from the root down to it along the parents;
- the sums of offsets along a lineage;
- the theorem that a node has bounds exactly when its lineage is visible, and which these are;
- what the bounds are after one node was changed, hidden or moved.

Does not own: what is painted or hit in the bounds.
-/

namespace SceneMarkup

/-! ### Statement -/

def Node.hidden (node : Node) : Node := { node with layout.visible := false }

def Node.movedTo (x y : Float32) (node : Node) : Node := { node with x, y }

def Bounds.size (bounds : Bounds) : Float32 × Float32 := (bounds.width, bounds.height)

/-- Whether all nodes of a lineage are visible. -/
def visibleAlong (path : List (Nat × Node)) : Bool := path.all fun entry => entry.2.layout.visible

/-- The sum of the offsets of a lineage, added up from the root on. -/
def sumAlong (offset : Node → Float32) (start : Float32) (path : List (Nat × Node)) : Float32 :=
  path.foldl (fun sum entry => sum + offset entry.2) start

/-- An entry of a lineage after the node of a number was changed. -/
def changedEntry (target : Nat) (edit : Node → Node) (entry : Nat × Node) : Nat × Node :=
  (entry.1, if entry.1 = target then edit entry.2 else entry.2)

namespace Scene

/-- The nodes from the root down to the node of a number, each the parent of the next. -/
inductive Lineage (scene : Scene) : Nat → List (Nat × Node) → Prop where
  | root {number : Nat} {node : Node} (top : scene.parent? number = none)
      (found : scene.node? number = some node) : Lineage scene number [(number, node)]
  | child {parent number : Nat} {path : List (Nat × Node)} {node : Node}
      (above : Lineage scene parent path) (linked : scene.parent? number = some parent)
      (found : scene.node? number = some node) :
      Lineage scene number (path ++ [(number, node)])

/-- Whether a node lies in the subtree of a node: the latter is on its lineage. -/
def Within (scene : Scene) (top number : Nat) : Prop :=
  ∃ path, scene.Lineage number path ∧ top ∈ path.map Prod.fst

/-- Absolute bounds are those of the visible part of the tree. -/
structure Located (scene : Scene) : Prop where
  /-- There is one way down to every node. -/
  lineage : ∀ number, (scene.node? number).isSome → ∃! path, scene.Lineage number path
  bounds : ∀ number node path, scene.node? number = some node → scene.Lineage number path →
    scene.bounds? number =
      if visibleAlong path then
        some ⟨sumAlong Node.x 0 path, sumAlong Node.y 0 path, node.width, node.height⟩
      else none
  absent : ∀ number, scene.node? number = none → scene.bounds? number = none
  entries : ∀ number bounds,
    (number, bounds) ∈ scene.allBounds ↔ scene.bounds? number = some bounds
  increasing : scene.allBounds.Pairwise fun entry later => entry.1 < later.1
  /-- Whatever becomes of a node, bounds change in its subtree only. -/
  outside : ∀ top edit number, ¬ scene.Within top number →
    (scene.change top edit).bounds? number = scene.bounds? number
  hidden : ∀ top number, scene.Within top number →
    (scene.change top Node.hidden).bounds? number = none
  /-- No bounds appear or vanish where a node moves, and none changes its size. -/
  moved : ∀ top x y number,
    ((scene.change top (Node.movedTo x y)).bounds? number).map Bounds.size =
      (scene.bounds? number).map Bounds.size

end Scene

/-! ### Lineages in a tree -/

namespace NumberedTree

mutual
/-- The way from the top of a tree down to a number. -/
def lineage? (sought : Nat) : NumberedTree → Option (List (Nat × Node))
  | mk number node children =>
    if number = sought then some [(number, node)]
    else (lineageIn? sought children).map ((number, node) :: ·)

def lineageIn? (sought : Nat) : List NumberedTree → Option (List (Nat × Node))
  | [] => none
  | tree :: rest => (tree.lineage? sought).or (lineageIn? sought rest)
end

theorem lineageIn?_eq_findSome? (sought : Nat) (trees : List NumberedTree) :
    lineageIn? sought trees = trees.findSome? (lineage? sought) := by
  induction trees with
  | nil => rfl
  | cons tree rest inductionHypothesis =>
    rw [lineageIn?, List.findSome?_cons, inductionHypothesis]
    cases tree.lineage? sought <;> rfl

theorem lineage?_eq (sought : Nat) (tree : NumberedTree) :
    tree.lineage? sought =
      if tree.number = sought then some [(tree.number, tree.node)]
      else (tree.children.findSome? (lineage? sought)).map ((tree.number, tree.node) :: ·) := by
  cases tree with
  | mk number node children =>
    rw [lineage?, lineageIn?_eq_findSome?]
    rfl

/-- There is a way to exactly the numbers of a tree. -/
theorem isSome_lineage? {sought : Nat} {tree : NumberedTree} :
    (tree.lineage? sought).isSome = true ↔ sought ∈ tree.numbers := by
  induction tree using below_induction with
  | step tree inductionHypothesis =>
    cases tree with
    | mk number node children =>
      rw [lineage?, lineageIn?_eq_findSome?, numbers_mk, List.mem_cons]
      by_cases here : number = sought
      · simp [here]
      · have below : (children.findSome? (lineage? sought)).isSome = true ↔
            sought ∈ numbersAll children := by
          rw [List.findSome?_isSome_iff, mem_numbersAll]
          exact exists_congr fun child => and_congr_right fun member =>
            inductionHypothesis child member
        rw [if_neg here, Option.isSome_map]
        exact below.trans ⟨Or.inr, fun inside => inside.resolve_left (Ne.symm here)⟩

theorem lineage?_eq_none {sought : Nat} {tree : NumberedTree} (absent : sought ∉ tree.numbers) :
    tree.lineage? sought = none := by
  rw [← Option.not_isSome_iff_eq_none, isSome_lineage?]
  exact absent

/-- A change of a node shows up where the node is on the way. -/
theorem lineage?_change (target sought : Nat) (edit : Node → Node) (tree : NumberedTree) :
    (tree.change target edit).lineage? sought =
      (tree.lineage? sought).map (List.map (changedEntry target edit)) := by
  induction tree using below_induction with
  | step tree inductionHypothesis =>
    rw [lineage?_eq, lineage?_eq sought tree, number_change, node_change, children_change,
      List.findSome?_map]
    by_cases here : tree.number = sought
    · rw [if_pos here, if_pos here]
      rfl
    · have below : tree.children.findSome? (lineage? sought ∘ change target edit) =
          (tree.children.findSome? (lineage? sought)).map
            (List.map (changedEntry target edit)) := by
        rw [List.map_findSome?]
        exact findSome?_congr fun child member => inductionHypothesis child member
      rw [if_neg here, if_neg here, below, Option.map_map, Option.map_map]
      rfl

end NumberedTree

/-! ### Bounds along a lineage -/

/-- The bounds of the last node of a lineage, if all its nodes are visible. -/
def boundsAlong? (originX originY : Float32) (path : List (Nat × Node)) : Option Bounds :=
  if visibleAlong path then
    path.getLast?.map fun entry =>
      ⟨sumAlong Node.x originX path, sumAlong Node.y originY path, entry.2.width, entry.2.height⟩
  else none

theorem boundsAlong?_cons {number : Nat} {node : Node} {path : List (Nat × Node)}
    (further : path ≠ []) (originX originY : Float32) :
    boundsAlong? originX originY ((number, node) :: path) =
      if node.layout.visible then boundsAlong? (originX + node.x) (originY + node.y) path
      else none := by
  obtain ⟨entry, last⟩ := Option.isSome_iff_exists.mp (List.getLast?_isSome.mpr further)
  unfold boundsAlong? visibleAlong
  rw [List.all_cons, List.getLast?_cons, last]
  cases node.layout.visible <;> rfl

theorem map_size_boundsAlong? (originX originY : Float32) (path : List (Nat × Node)) :
    (boundsAlong? originX originY path).map Bounds.size =
      if visibleAlong path then path.getLast?.map fun entry => (entry.2.width, entry.2.height)
      else none := by
  unfold boundsAlong?
  split
  · rw [Option.map_map]
    rfl
  · rfl

namespace NumberedTree

theorem lookup_preorderAll_ofTrees (originX originY : Float32) (sought : Nat)
    (trees : List NumberedTree) :
    (Frame.preorderAll (Frame.ofTrees originX originY trees)).lookup sought =
      trees.findSome? fun tree =>
        (Frame.ofTree? originX originY tree).bind fun frame => frame.preorder.lookup sought := by
  induction trees with
  | nil => rfl
  | cons tree rest inductionHypothesis =>
    rw [Frame.ofTrees, List.findSome?_cons]
    cases framed : Frame.ofTree? originX originY tree with
    | none => exact inductionHypothesis
    | some frame =>
      rw [Option.toList_some, List.singleton_append, Frame.preorderAll, List.lookup_append,
        inductionHypothesis, Option.bind_some]
      cases frame.preorder.lookup sought <;> rfl

theorem lineage?_ne_nil {sought : Nat} {tree : NumberedTree} {path : List (Nat × Node)}
    (found : tree.lineage? sought = some path) : path ≠ [] := by
  rintro rfl
  rw [lineage?_eq] at found
  split at found
  · cases found
  · obtain ⟨_, _, extended⟩ := Option.map_eq_some_iff.mp found
    cases extended

/-- What is worked out from a look-up in one of several trees is worked out in the only tree that
has the number. -/
theorem findSome?_bind {α β : Type} {lookUp : NumberedTree → Option α} {further : α → Option β}
    {sought : Nat} {trees : List NumberedTree}
    (absent : ∀ tree ∈ trees, sought ∉ tree.numbers → lookUp tree = none)
    (distinct : (numbersAll trees).Nodup) :
    (trees.findSome? fun tree => (lookUp tree).bind further) =
      (trees.findSome? lookUp).bind further := by
  by_cases inside : sought ∈ numbersAll trees
  · obtain ⟨tree, member, inside⟩ := mem_numbersAll.mp inside
    rw [findSome?_of_mem absent distinct member inside]
    refine findSome?_of_mem (fun other memberOther outside => ?_) distinct member inside
    rw [absent other memberOther outside, Option.bind_none]
  · have nothing : ∀ tree ∈ trees, lookUp tree = none := fun tree member =>
      absent tree member fun within => inside (mem_numbersAll.mpr ⟨tree, member, within⟩)
    rw [List.findSome?_eq_none_iff.mpr nothing, Option.bind_none, List.findSome?_eq_none_iff]
    intro tree member
    rw [nothing tree member, Option.bind_none]

theorem lookup_preorder_mk (originX originY : Float32) (sought number : Nat) (node : Node)
    (children : List NumberedTree) :
    ((Frame.ofTree? originX originY (mk number node children)).bind fun frame =>
        frame.preorder.lookup sought) =
      if node.layout.visible then
        if number = sought then some (node.boundsAt originX originY)
        else children.findSome? fun child =>
          (Frame.ofTree? (originX + node.x) (originY + node.y) child).bind fun frame =>
            frame.preorder.lookup sought
      else none := by
  rw [Frame.ofTree?]
  split
  · rw [Option.bind_some, Frame.preorder, List.lookup_cons, lookup_preorderAll_ofTrees]
    by_cases here : number = sought
    · rw [if_pos here, here, BEq.rfl]
    · rw [if_neg here, beq_eq_false_iff_ne.mpr (Ne.symm here)]
      rfl
  · rfl

/-- The frame of a tree has the bounds that are found along the way. -/
theorem lookup_preorder_ofTree? {tree : NumberedTree} (distinct : tree.numbers.Nodup)
    (originX originY : Float32) (sought : Nat) :
    ((Frame.ofTree? originX originY tree).bind fun frame => frame.preorder.lookup sought) =
      (tree.lineage? sought).bind (boundsAlong? originX originY) := by
  induction tree using below_induction generalizing originX originY with
  | step tree inductionHypothesis =>
    cases tree with
    | mk number node children =>
      have distinctBelow : (numbersAll children).Nodup :=
        distinct.sublist (numbersAll_children_sublist (mk number node children))
      have below := @findSome?_congr _ _ _ _ children fun child member =>
        inductionHypothesis child member (distinctBelow.sublist (numbers_sublist_numbersAll member))
          (originX + node.x) (originY + node.y)
      rw [lookup_preorder_mk, below, findSome?_bind (fun _ _ => lineage?_eq_none) distinctBelow,
        lineage?, lineageIn?_eq_findSome?]
      by_cases here : number = sought
      · rw [if_pos here, if_pos here, Option.bind_some, boundsAlong?, visibleAlong, List.all_cons,
          List.all_nil, Bool.and_true]
        rfl
      · rw [if_neg here, if_neg here]
        cases found : children.findSome? (lineage? sought) with
        | none => exact ite_self none
        | some path =>
          obtain ⟨child, _, way⟩ := List.exists_of_findSome?_eq_some found
          exact (boundsAlong?_cons (lineage?_ne_nil way) originX originY).symm

end NumberedTree

namespace Scene

open NumberedTree

variable {scene : Scene}

/-! ### Lineages in a scene -/

theorem WellNumbered.parent?_root (numbered : scene.WellNumbered) :
    scene.parent? scene.root.number = none := by
  rw [Option.eq_none_iff_forall_ne_some]
  intro parent found
  obtain ⟨part, located, right⟩ := (NumberedTree.parent?_eq_some_iff numbered.nodup).mp found
  exact number_ne_of_below numbered.nodup located (mem_numbersAll_of_child right) rfl

/-- The way from a part of the tree on continues the lineage of that part. -/
theorem lineage_of_part (numbered : scene.WellNumbered) {part : NumberedTree}
    (located : scene.root.find? part.number = some part) {above path : List (Nat × Node)}
    (lineage : scene.Lineage part.number (above ++ [(part.number, part.node)])) {number : Nat}
    (found : part.lineage? number = some path) : scene.Lineage number (above ++ path) := by
  induction part using below_induction generalizing above path with
  | step part inductionHypothesis =>
    rw [lineage?_eq] at found
    split at found
    case isTrue here =>
      cases found
      exact here ▸ lineage
    case isFalse =>
      obtain ⟨rest, searched, rfl⟩ := Option.map_eq_some_iff.mp found
      obtain ⟨child, member, way⟩ := List.exists_of_findSome?_eq_some searched
      have locatedChild := find?_child numbered.nodup located member
      have linked : scene.parent? child.number = some part.number :=
        (NumberedTree.parent?_eq_some_iff numbered.nodup).mpr
          ⟨part, located, List.mem_map_of_mem member⟩
      have present : scene.node? child.number = some child.node := by
        rw [node?, locatedChild, Option.map_some]
      have continued := inductionHypothesis child member locatedChild
        (lineage.child linked present) way
      rwa [List.append_assoc] at continued

theorem Lineage.isSome_node? {number : Nat} {path : List (Nat × Node)}
    (lineage : scene.Lineage number path) : (scene.node? number).isSome = true := by
  cases lineage with
  | root top found => rw [found, Option.isSome_some]
  | child above linked found => rw [found, Option.isSome_some]

theorem Lineage.unique {number : Nat} {path other : List (Nat × Node)}
    (lineage : scene.Lineage number path) (lineageOther : scene.Lineage number other) :
    path = other := by
  induction lineage generalizing other with
  | root top found =>
    cases lineageOther with
    | root _ foundOther => rw [Option.some.inj (found.symm.trans foundOther)]
    | child _ linked _ => cases top.symm.trans linked
  | child above linked found inductionHypothesis =>
    cases lineageOther with
    | root top _ => cases top.symm.trans linked
    | child aboveOther linkedOther foundOther =>
      obtain rfl := Option.some.inj (linked.symm.trans linkedOther)
      rw [inductionHypothesis aboveOther, Option.some.inj (found.symm.trans foundOther)]

theorem WellNumbered.lineage_iff (numbered : scene.WellNumbered) {number : Nat}
    {path : List (Nat × Node)} :
    scene.Lineage number path ↔ scene.root.lineage? number = some path := by
  have complete {path : List (Nat × Node)} (found : scene.root.lineage? number = some path) :
      scene.Lineage number path := by
    have present : scene.node? scene.root.number = some scene.root.node := by
      rw [node?, find?_self, Option.map_some]
    exact @lineage_of_part scene numbered scene.root (find?_self _) [] path
      (.root numbered.parent?_root present) number found
  refine ⟨fun lineage => ?_, complete⟩
  have inside := (isSome_node? scene number).mp lineage.isSome_node?
  obtain ⟨way, found⟩ := Option.isSome_iff_exists.mp (isSome_lineage?.mpr inside)
  rw [found, (complete found).unique lineage]

theorem WellNumbered.within_iff (numbered : scene.WellNumbered) {top number : Nat} :
    scene.Within top number ↔
      ∃ path, scene.root.lineage? number = some path ∧ top ∈ path.map Prod.fst :=
  exists_congr fun _ => and_congr_left' numbered.lineage_iff

/-- The node at the end of a lineage. -/
theorem Lineage.getLast?_eq {number : Nat} {path : List (Nat × Node)}
    (lineage : scene.Lineage number path) {node : Node} (found : scene.node? number = some node) :
    path.getLast? = some (number, node) := by
  cases lineage with
  | root _ present => rw [Option.some.inj (present.symm.trans found), List.getLast?_singleton]
  | child _ _ present => rw [Option.some.inj (present.symm.trans found), List.getLast?_concat]

/-! ### Bounds in a scene -/

theorem WellNumbered.bounds?_eq (numbered : scene.WellNumbered) (number : Nat) :
    scene.bounds? number = (scene.root.lineage? number).bind (boundsAlong? 0 0) :=
  lookup_preorder_ofTree? numbered.nodup 0 0 number

theorem WellNumbered.bounds?_change (numbered : scene.WellNumbered) (target : Nat)
    (edit : Node → Node) (number : Nat) :
    (scene.change target edit).bounds? number =
      (scene.root.lineage? number).bind fun path =>
        boundsAlong? 0 0 (path.map (changedEntry target edit)) := by
  rw [(numbered.change target edit).bounds?_eq, Scene.change, lineage?_change, Option.bind_map]
  rfl

/-- Only nodes of the scene have bounds. -/
theorem WellNumbered.mem_numbers_of_bounds? (numbered : scene.WellNumbered) {number : Nat}
    {bounds : Bounds} (found : scene.bounds? number = some bounds) :
    number ∈ scene.root.numbers := by
  by_contra absent
  rw [numbered.bounds?_eq, lineage?_eq_none absent] at found
  cases found

theorem mem_allBounds_iff (numbered : scene.WellNumbered) {number : Nat} {bounds : Bounds} :
    (number, bounds) ∈ scene.allBounds ↔ scene.bounds? number = some bounds := by
  unfold allBounds
  rw [List.mem_filterMap]
  constructor
  · rintro ⟨_, _, listed⟩
    obtain ⟨_, found, same⟩ := Option.map_eq_some_iff.mp listed
    cases same
    exact found
  · intro found
    refine ⟨number, List.mem_range.mpr ?_, by rw [found, Option.map_some]⟩
    exact numbered.lt_size _ (numbered.mem_numbers_of_bounds? found)

theorem allBounds_increasing (scene : Scene) :
    scene.allBounds.Pairwise fun entry later => entry.1 < later.1 := by
  unfold allBounds
  rw [List.pairwise_filterMap]
  refine List.pairwise_lt_range.imp fun before entry first later second => ?_
  obtain ⟨_, _, rfl⟩ := Option.map_eq_some_iff.mp first
  obtain ⟨_, _, rfl⟩ := Option.map_eq_some_iff.mp second
  exact before

/-- A change of a node that is not on a lineage leaves the lineage as it is. -/
theorem map_changedEntry_of_not_mem {target : Nat} {edit : Node → Node} {path : List (Nat × Node)}
    (absent : target ∉ path.map Prod.fst) : path.map (changedEntry target edit) = path := by
  have same : ∀ entry ∈ path, changedEntry target edit entry = entry := by
    intro entry member
    have other : entry.1 ≠ target := fun here => absent (here ▸ List.mem_map_of_mem member)
    rw [changedEntry, if_neg other]
  rw [List.map_congr_left same, List.map_id']

theorem visibleAlong_hidden {target : Nat} {path : List (Nat × Node)}
    (inside : target ∈ path.map Prod.fst) :
    visibleAlong (path.map (changedEntry target Node.hidden)) = false := by
  obtain ⟨entry, member, rfl⟩ := List.mem_map.mp inside
  rw [visibleAlong, List.all_eq_false]
  refine ⟨changedEntry entry.1 Node.hidden entry, List.mem_map_of_mem member, ?_⟩
  rw [changedEntry, if_pos rfl, Node.hidden]
  exact Bool.false_ne_true

/-- A node that moves keeps its visibility and its size. -/
theorem map_size_boundsAlong?_moved (target : Nat) (x y : Float32) (path : List (Nat × Node)) :
    (boundsAlong? 0 0 (path.map (changedEntry target (Node.movedTo x y)))).map Bounds.size =
      (boundsAlong? 0 0 path).map Bounds.size := by
  have kept (entry : Nat × Node) :
      (changedEntry target (Node.movedTo x y) entry).2.layout = entry.2.layout ∧
        (changedEntry target (Node.movedTo x y) entry).2.width = entry.2.width ∧
        (changedEntry target (Node.movedTo x y) entry).2.height = entry.2.height := by
    rw [changedEntry]
    split <;> exact ⟨rfl, rfl, rfl⟩
  have visible : visibleAlong (path.map (changedEntry target (Node.movedTo x y))) =
      visibleAlong path := by
    rw [visibleAlong, visibleAlong, List.all_map]
    congr 1
    funext entry
    rw [Function.comp_apply, (kept entry).1]
  rw [map_size_boundsAlong?, map_size_boundsAlong?, visible, List.getLast?_map, Option.map_map]
  have sizes : ((fun entry : Nat × Node => (entry.2.width, entry.2.height)) ∘
      changedEntry target (Node.movedTo x y)) = fun entry => (entry.2.width, entry.2.height) := by
    funext entry
    rw [Function.comp_apply, (kept entry).2.1, (kept entry).2.2]
  rw [sizes]

/-- In every scene, a node has bounds exactly when it and all nodes above it are visible; it keeps
its size and lies at the sum of the offsets from the root down to it. -/
theorem bounds_follow_lineage {scene : Scene} (reachable : scene.Reachable) : scene.Located := by
  have numbered := reachable.wellNumbered
  constructor
  case lineage =>
    intro number present
    have inside := (isSome_node? scene number).mp present
    obtain ⟨path, found⟩ := Option.isSome_iff_exists.mp (isSome_lineage?.mpr inside)
    exact ⟨path, numbered.lineage_iff.mpr found, fun _ other =>
      other.unique (numbered.lineage_iff.mpr found)⟩
  case bounds =>
    intro number node path present lineage
    rw [numbered.bounds?_eq, numbered.lineage_iff.mp lineage, Option.bind_some, boundsAlong?,
      lineage.getLast?_eq present]
    rfl
  case absent =>
    intro number absent
    have outside : number ∉ scene.root.numbers := by
      rw [← isSome_node?, absent]
      exact Bool.false_ne_true
    rw [numbered.bounds?_eq, lineage?_eq_none outside, Option.bind_none]
  case entries => exact fun number bounds => mem_allBounds_iff numbered
  case increasing => exact allBounds_increasing scene
  case outside =>
    intro top edit number outside
    rw [numbered.bounds?_change, numbered.bounds?_eq]
    apply Option.bind_congr
    intro path found
    rw [map_changedEntry_of_not_mem fun inside =>
      outside (numbered.within_iff.mpr ⟨path, found, inside⟩)]
  case hidden =>
    intro top number within
    obtain ⟨path, found, inside⟩ := numbered.within_iff.mp within
    rw [numbered.bounds?_change, found, Option.bind_some, boundsAlong?, visibleAlong_hidden inside]
    rfl
  case moved =>
    intro top x y number
    rw [numbered.bounds?_change, numbered.bounds?_eq, Option.map_bind, Option.map_bind]
    exact Option.bind_congr fun path _ => map_size_boundsAlong?_moved top x y path

/-- A page with a panel and a hidden drawer, and an icon that was added to the panel later. -/
def withLateIcon : Scene :=
  let page := { Node.ofKind ⟨"page"⟩ .container with x := 10, y := 20 }
  let panel := { Node.ofKind ⟨"panel"⟩ .container with x := 5, y := -30, width := 80, height := 60 }
  let icon := { Node.ofKind ⟨"icon"⟩ .image with x := 2.5, width := 16, height := 8 }
  let drawer := (Node.ofKind ⟨"drawer"⟩ .container).hidden
  let scene := Scene.ofTree (.mk page [.mk panel [], .mk drawer [.leaf (.ofKind ⟨"tab"⟩ .text)]])
  scene.addTree 1 (.leaf icon)

/-- The icon lies where its panel does, and vanishes with it; the tab in the hidden drawer has no
bounds. -/
theorem bounds_follow_lineage_of_withLateIcon :
    withLateIcon.Reachable ∧ withLateIcon.Located ∧
      withLateIcon.bounds? 4 = some ⟨17.5, -10, 16, 8⟩ ∧ withLateIcon.bounds? 3 = none ∧
      (withLateIcon.change 1 Node.hidden).allBounds.map Prod.fst = [0] ∧
      (withLateIcon.change 1 (Node.movedTo 0 0)).bounds? 4 = some ⟨12.5, 20, 16, 8⟩ := by
  have reachable : withLateIcon.Reachable := .added (.parsed _) _ _
  exact ⟨reachable, bounds_follow_lineage reachable, by decide, by decide,
    by decide, by decide⟩

end Scene

end SceneMarkup
