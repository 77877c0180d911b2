import SceneMarkup.Proofs.Scene.Numbering
import SceneMarkup.Scene.Paint
import SceneMarkup.Scene.Pointer

/-!
Contract: what lies on top of what in a scene.

Owns:
- the nodes that are shown, which are visible together with all nodes above them, in pre-order;
- `Placed`, a shown node with its bounds on the canvas;
- the theorem that a scene paints its shown nodes in that order and that a point hits the last of
  them that takes it.

Does not own: how positions add up along a path.
-/

namespace SceneMarkup

namespace NumberedTree

mutual
/-- The nodes from the top of a tree down to the node of a number. -/
def pathTo? (sought : Nat) : NumberedTree → Option (List Node)
  | mk number node children =>
    if number = sought then some [node] else (pathIn? sought children).map (node :: ·)

def pathIn? (sought : Nat) : List NumberedTree → Option (List Node)
  | [] => none
  | tree :: rest => (tree.pathTo? sought).or (pathIn? sought rest)
end

mutual
/-- There is a path to exactly the numbers of a tree. -/
theorem isSome_pathTo? (sought : Nat) (tree : NumberedTree) :
    (tree.pathTo? sought).isSome = true ↔ sought ∈ tree.numbers := by
  cases tree with
  | mk number node children =>
    rw [pathTo?, numbers_mk, List.mem_cons]
    by_cases here : number = sought
    · simp [here]
    · rw [if_neg here, Option.isSome_map, isSome_pathIn? sought children]
      simp [Ne.symm here]

theorem isSome_pathIn? (sought : Nat) (trees : List NumberedTree) :
    (pathIn? sought trees).isSome = true ↔ sought ∈ numbersAll trees := by
  cases trees with
  | nil => simp [pathIn?]
  | cons tree rest =>
    rw [pathIn?, Option.isSome_or, Bool.or_eq_true, isSome_pathTo? sought tree,
      isSome_pathIn? sought rest, numbersAll_cons, List.mem_append]
end

end NumberedTree

/-- The entry of a key that no other entry has. -/
theorem lookup_of_mem {α : Type} {entries : List (Nat × α)} {key : Nat} {value : α}
    (distinct : (entries.map Prod.fst).Nodup) (member : (key, value) ∈ entries) :
    entries.lookup key = some value := by
  induction entries with
  | nil => cases member
  | cons entry rest inductionHypothesis =>
    rw [List.map_cons, List.nodup_cons] at distinct
    rcases List.mem_cons.mp member with rfl | member
    · exact List.lookup_cons_self
    · have other : key ≠ entry.1 := by
        rintro rfl
        exact distinct.1 (List.mem_map.mpr ⟨_, member, rfl⟩)
      rw [List.lookup_cons, beq_eq_false_iff_ne.mpr other]
      exact inductionHypothesis distinct.2 member

/-- Whether all nodes of a path are visible, where there is a path. -/
def allVisible (path? : Option (List Node)) : Bool :=
  path?.any fun path => path.all fun node => node.layout.visible

/-- The call that draws a node in its bounds. -/
def Node.callIn (node : Node) (bounds : Bounds) : DrawCall :=
  match node.kind with
  | .container | .rectangle | .button => .rectangle bounds node.style
  | .circle => .ellipse bounds node.style
  | .text => .text bounds node.text node.style
  | .image => .image bounds node.image node.style
  | .input | .checkbox | .radioButton | .slider | .dropDown => .widget bounds node

/-- Whether a node is drawn: a container only with a background, or with a coloured border of
positive width. -/
def Node.isDrawn (node : Node) : Bool :=
  node.kind != .container || node.style.background.isSome
    || (node.style.borderColor.isSome && decide (0 < node.style.borderWidth))

theorem Node.drawCall?_eq (node : Node) (bounds : Bounds) :
    node.drawCall? bounds = if node.isDrawn then some (node.callIn bounds) else none := by
  unfold drawCall? isDrawn callIn Style.showsBox
  cases node.kind <;> simp

/-- Whether pointer input stops at a node: at buttons and widgets always, and at other nodes where
they have a click handler. -/
def Node.stopsPointer (node : Node) : Bool :=
  match node.kind with
  | .container | .rectangle | .circle | .text | .image => node.handlers.onClick.isSome
  | .button | .input | .checkbox | .radioButton | .slider | .dropDown => true

theorem Node.acceptsPointer_eq (node : Node) : node.acceptsPointer = node.stopsPointer := by
  unfold acceptsPointer stopsPointer Kind.isInteractive
  cases node.kind <;> simp

/-- A node with its number and its bounds. -/
structure Placed where
  number : Nat
  node : Node
  bounds : Bounds

namespace Placed

def isDrawn (placed : Placed) : Bool := placed.node.isDrawn

def call (placed : Placed) : DrawCall := placed.node.callIn placed.bounds

/-- Whether a point lies on the node or its edges. -/
def covers (x y : Float32) (placed : Placed) : Bool :=
  decide (placed.bounds.x ≤ x ∧ x ≤ placed.bounds.x + placed.bounds.width ∧
    placed.bounds.y ≤ y ∧ y ≤ placed.bounds.y + placed.bounds.height)

/-- Whether pointer input at a point stops at the node, if nothing lies above it. -/
def takes (x y : Float32) (placed : Placed) : Bool :=
  placed.node.stopsPointer && placed.covers x y

theorem takes_eq (x y : Float32) (placed : Placed) :
    placed.takes x y = (placed.node.acceptsPointer && placed.bounds.contains x y) := by
  simp [takes, covers, Bounds.contains, Node.acceptsPointer_eq, Bool.and_assoc]

end Placed

namespace Frame

mutual
/-- The nodes of a frame in pre-order. -/
def placed : Frame → List Placed
  | mk number node bounds children => ⟨number, node, bounds⟩ :: placedAll children

def placedAll : List Frame → List Placed
  | [] => []
  | frame :: rest => frame.placed ++ placedAll rest
end

@[simp] theorem placedAll_append (left right : List Frame) :
    placedAll (left ++ right) = placedAll left ++ placedAll right := by
  induction left with
  | nil => simp [placedAll]
  | cons frame rest inductionHypothesis => simp [placedAll, inductionHypothesis]

mutual
theorem preorder_eq_map (frame : Frame) :
    frame.preorder = frame.placed.map fun entry => (entry.number, entry.bounds) := by
  cases frame with
  | mk number node bounds children =>
    rw [preorder, placed, List.map_cons, preorderAll_eq_map children]

theorem preorderAll_eq_map (frames : List Frame) :
    preorderAll frames = (placedAll frames).map fun entry => (entry.number, entry.bounds) := by
  cases frames with
  | nil => rw [preorderAll, placedAll, List.map_nil]
  | cons frame rest =>
    rw [preorderAll, placedAll, List.map_append, preorder_eq_map frame, preorderAll_eq_map rest]
end

mutual
/-- A frame paints each drawn node once, in pre-order. -/
theorem paint_eq (frame : Frame) :
    frame.paint = (frame.placed.filter Placed.isDrawn).map Placed.call := by
  cases frame with
  | mk number node bounds children =>
    rw [paint, placed, paintAll_eq children, Node.drawCall?_eq, List.filter_cons]
    by_cases drawn : node.isDrawn = true
    · simp [Placed.isDrawn, Placed.call, drawn]
    · simp [Placed.isDrawn, drawn]

theorem paintAll_eq (frames : List Frame) :
    paintAll frames = ((placedAll frames).filter Placed.isDrawn).map Placed.call := by
  cases frames with
  | nil => rw [paintAll, placedAll, List.filter_nil, List.map_nil]
  | cons frame rest =>
    rw [paintAll, placedAll, List.filter_append, List.map_append, paint_eq frame, paintAll_eq rest]
end

mutual
/-- The target under a point is the last node in pre-order that takes it: what is looked at last is
painted first. -/
theorem target?_eq (x y : Float32) (frame : Frame) :
    frame.target? x y = (frame.placed.filter (Placed.takes x y)).getLast?.map Placed.node := by
  cases frame with
  | mk number node bounds children =>
    rw [target?, placed, targetIn?_eq x y children, List.filter_cons,
      ← Placed.takes_eq x y ⟨number, node, bounds⟩]
    by_cases taken : Placed.takes x y ⟨number, node, bounds⟩ = true
    · rw [if_pos taken, if_pos taken, List.getLast?_cons]
      cases (List.filter (Placed.takes x y) (placedAll children)).getLast? <;> rfl
    · rw [if_neg taken, if_neg taken, Option.or_none]

theorem targetIn?_eq (x y : Float32) (frames : List Frame) :
    targetIn? x y frames =
      ((placedAll frames).filter (Placed.takes x y)).getLast?.map Placed.node := by
  cases frames with
  | nil => rw [targetIn?, placedAll, List.filter_nil, List.getLast?_nil, Option.map_none]
  | cons frame rest =>
    rw [targetIn?, placedAll, List.filter_append, List.getLast?_append, targetIn?_eq x y rest,
      target?_eq x y frame, Option.map_or]
end

/-- The frame of a tree, if there is one, in pre-order. -/
def placedOf (frame? : Option Frame) : List Placed := placedAll frame?.toList

@[simp] theorem placedOf_some (frame : Frame) : placedOf (some frame) = frame.placed := by
  simp [placedOf, placedAll]

mutual
/-- The frame of a tree has exactly the nodes that are visible with all nodes above them. -/
theorem map_placedOf_ofTree? (originX originY : Float32) (tree : NumberedTree)
    (distinct : tree.numbers.Nodup) :
    (placedOf (ofTree? originX originY tree)).map (fun entry => (entry.number, entry.node)) =
      tree.preorder.filter fun entry => allVisible (tree.pathTo? entry.1) := by
  cases tree with
  | mk number node children =>
    rw [NumberedTree.numbers_mk, List.nodup_cons] at distinct
    obtain ⟨fresh, distinct⟩ := distinct
    have inside := map_placedAll_ofTrees
      (originX + node.x) (originY + node.y) children distinct
    -- Below the top, the path begins with the top and goes on inside the children.
    have below : ∀ entry ∈ NumberedTree.preorderAll children,
        allVisible ((NumberedTree.mk number node children).pathTo? entry.1) =
          (node.layout.visible && allVisible (NumberedTree.pathIn? entry.1 children)) := by
      intro entry member
      have other : number ≠ entry.1 := by
        rintro rfl
        exact fresh (List.mem_map_of_mem member)
      rw [NumberedTree.pathTo?, if_neg other]
      cases NumberedTree.pathIn? entry.1 children with
      | none => simp [allVisible]
      | some path => simp [allVisible]
    have top : allVisible ((NumberedTree.mk number node children).pathTo? number) =
        node.layout.visible := by
      rw [NumberedTree.pathTo?, if_pos rfl]
      simp [allVisible]
    rw [ofTree?, NumberedTree.preorder, List.filter_cons, List.filter_congr below]
    by_cases visible : node.layout.visible = true
    · simp only [top, visible, if_true, Bool.true_and, placedOf_some, placed, List.map_cons]
      exact congrArg _ inside
    · simp [top, visible, placedOf, placedAll]

theorem map_placedAll_ofTrees (originX originY : Float32) (trees : List NumberedTree)
    (distinct : (NumberedTree.numbersAll trees).Nodup) :
    (placedAll (ofTrees originX originY trees)).map (fun entry => (entry.number, entry.node)) =
      (NumberedTree.preorderAll trees).filter fun entry =>
        allVisible (NumberedTree.pathIn? entry.1 trees) := by
  cases trees with
  | nil => simp [ofTrees, placedAll, NumberedTree.preorderAll]
  | cons tree rest =>
    rw [NumberedTree.numbersAll_cons, List.nodup_append] at distinct
    obtain ⟨distinctFirst, distinctRest, apart⟩ := distinct
    have first := map_placedOf_ofTree? originX originY tree distinctFirst
    have others := map_placedAll_ofTrees originX originY rest distinctRest
    rw [ofTrees, placedAll_append, List.map_append, NumberedTree.preorderAll, List.filter_append]
    congr 1
    · rw [← placedOf, first]
      apply List.filter_congr
      intro entry member
      have present : (tree.pathTo? entry.1).isSome = true :=
        (NumberedTree.isSome_pathTo? entry.1 tree).mpr (List.mem_map_of_mem member)
      obtain ⟨path, found⟩ := Option.isSome_iff_exists.mp present
      rw [NumberedTree.pathIn?, found, Option.some_or]
    · rw [others]
      apply List.filter_congr
      intro entry member
      have absent : tree.pathTo? entry.1 = none := by
        rw [← Option.not_isSome_iff_eq_none, NumberedTree.isSome_pathTo?]
        intro present
        exact apart _ present _ (List.mem_map_of_mem member) rfl
      rw [NumberedTree.pathIn?, absent, Option.none_or]
end

end Frame

namespace Scene

/-- The nodes that are visible together with all nodes above them, in pre-order. -/
def shown (scene : Scene) : List (Nat × Node) :=
  scene.root.preorder.filter fun entry => allVisible (scene.root.pathTo? entry.1)

/-- A scene laid out in layers, the lowest first. -/
structure Layered (scene : Scene) (placed : List Placed) : Prop where
  /-- The layers are the nodes that are shown. -/
  shown : (placed.map fun entry => (entry.number, entry.node)) = scene.shown
  /-- Each layer has the bounds of its node. -/
  located : ∀ entry ∈ placed, scene.bounds? entry.number = some entry.bounds
  /-- Painting makes one call for each drawn layer, in order. -/
  painted : scene.paint = (placed.filter Placed.isDrawn).map Placed.call
  /-- A point hits the last layer that takes pointer input there. -/
  hit : ∀ x y, scene.hit? x y =
    (placed.filter (Placed.takes x y)).getLast?.map fun entry => entry.node.id

/-- The bounds of a number are those in the only layer of that number. -/
theorem bounds?_of_mem_placedOf {scene : Scene} (distinct : scene.root.numbers.Nodup)
    {entry : Placed} (member : entry ∈ Frame.placedOf scene.frame?) :
    scene.bounds? entry.number = some entry.bounds := by
  have layers := Frame.map_placedOf_ofTree? 0 0 scene.root distinct
  have distinctLayers : ((Frame.placedOf scene.frame?).map Placed.number).Nodup := by
    have same : (Frame.placedOf scene.frame?).map Placed.number = scene.shown.map Prod.fst := by
      rw [shown, ← layers, List.map_map]
      rfl
    rw [same]
    exact distinct.sublist (List.filter_sublist.map Prod.fst)
  unfold bounds?
  cases framed : scene.frame? with
  | none =>
    rw [framed] at member
    simp [Frame.placedOf, Frame.placedAll] at member
  | some frame =>
    rw [framed, Frame.placedOf_some] at member distinctLayers
    rw [Option.bind_some, Frame.preorder_eq_map]
    apply lookup_of_mem
    · rw [List.map_map]
      exact distinctLayers
    · exact List.mem_map_of_mem member

/-- Hit testing is painting backwards: the nodes of a scene that are shown lie in one row of layers,
painting goes through the row, and a point hits the last layer that takes it, wherever that lies in
its parent. -/
theorem hit_reverses_paint {scene : Scene} (reachable : scene.Reachable) :
    ∃ placed, scene.Layered placed := by
  have distinct := reachable.wellNumbered.nodup
  refine ⟨Frame.placedOf scene.frame?, ?shown, ?located, ?painted, ?hit⟩
  case shown => exact Frame.map_placedOf_ofTree? 0 0 scene.root distinct
  case located => exact fun entry member => bounds?_of_mem_placedOf distinct member
  case painted =>
    unfold paint
    cases scene.frame? with
    | none => rfl
    | some frame => simp [Frame.paint_eq]
  case hit =>
    intro x y
    unfold hit?
    cases scene.frame? with
    | none => rfl
    | some frame => simp [Frame.target?_eq, Option.map_map, Function.comp_def]

/-- A box with a handler, whose button sticks out of it to the right, with a hidden box and a label
without a handler on top. -/
def overflowing : Scene :=
  let box := { Node.ofKind ⟨"box"⟩ .rectangle with handlers.onClick := some "box" }
  let button := { Node.ofKind ⟨"button"⟩ .button with x := 90 }
  let scene := Scene.ofTree (.mk (.ofKind ⟨"page"⟩ .container) [.mk box [.leaf button]])
  let covered := (scene.addTree 0 (.leaf { box with id := ⟨"cover"⟩ })).change 3
    fun node => { node with layout.visible := false }
  covered.addTree 0 (.leaf (.ofKind ⟨"label"⟩ .text))

/-- The button is hit outside its parent and above it, and the box where the hidden box and the
label cover it. -/
theorem hit_reverses_paint_of_overflowing :
    overflowing.Reachable ∧ (∃ placed, overflowing.Layered placed) ∧
      (overflowing.bounds? 4).any (Bounds.contains · 10 10) = true ∧
      overflowing.hit? 150 10 = some ⟨"button"⟩ ∧ overflowing.hit? 95 10 = some ⟨"button"⟩ ∧
      overflowing.hit? 10 10 = some ⟨"box"⟩ ∧ overflowing.hit? 200 10 = none := by
  have reachable : overflowing.Reachable := .added (.edited (.added (.parsed _) _ _) _ _) _ _
  exact ⟨reachable, hit_reverses_paint reachable, by decide, by decide, by decide,
    by decide, by decide⟩

end Scene

end SceneMarkup
