import SceneMarkup.Document
import SceneMarkup.Proofs.Scene.Index
import SceneMarkup.Proofs.Scene.Layers

/-!
Contract: the node that a click goes to.

Owns:
- the topmost target under a point, with its number;
- what a click gives at every point of every scene;
- the clicks that reach their target, and those that reach another node of its id.

Does not own: the layers of a scene, among which the target is the last that takes the point.
-/

namespace SceneMarkup

namespace NumberedTree

theorem exists_of_mem_preorderAll {trees : List NumberedTree} {entry : Nat × Node}
    (member : entry ∈ preorderAll trees) : ∃ tree ∈ trees, entry ∈ tree.preorder := by
  induction trees with
  | nil => cases member
  | cons tree rest inductionHypothesis =>
    rw [preorderAll, List.mem_append] at member
    rcases member with first | later
    · exact ⟨tree, List.mem_cons_self, first⟩
    · obtain ⟨other, inside, listed⟩ := inductionHypothesis later
      exact ⟨other, List.mem_cons_of_mem _ inside, listed⟩

/-- A node that is listed is found at its number. -/
theorem find?_of_mem_preorder {tree : NumberedTree} (distinct : tree.numbers.Nodup)
    {number : Nat} {node : Node} (member : (number, node) ∈ tree.preorder) :
    (tree.find? number).map NumberedTree.node = some node := by
  induction tree using below_induction with
  | step tree inductionHypothesis =>
    cases tree with
    | mk top topNode children =>
      rw [preorder] at member
      rcases List.mem_cons.mp member with same | below
      · cases same
        rw [find?, if_pos rfl]
        rfl
      · obtain ⟨child, inside, listed⟩ := exists_of_mem_preorderAll below
        have right : child ∈ (mk top topNode children).children := inside
        rw [find?_of_below distinct right (List.mem_map.mpr ⟨_, listed, rfl⟩)]
        exact inductionHypothesis child right (distinct.sublist (numbers_sublist_of_child right))
          listed

end NumberedTree

namespace Scene

/-! ### Statement -/

/-- The topmost node under a point at which pointer input stops: the last layer that takes it. -/
def target? (scene : Scene) (x y : Float32) : Option Placed :=
  ((Frame.placedOf scene.frame?).filter (Placed.takes x y)).getLast?

/-- The id of a node with its own click handler, if it has one. -/
def handlerOf? (node : Node) : Option (NodeId × String) :=
  node.handlers.onClick.map fun handler => (node.id, handler)

/-- A click at a point goes to the node that is hit there. -/
def ReachesTarget (scene : Scene) (x y : Float32) : Prop :=
  scene.click? x y = (scene.target? x y).bind fun target => handlerOf? target.node

instance (scene : Scene) (x y : Float32) : Decidable (scene.ReachesTarget x y) :=
  inferInstanceAs (Decidable (_ = _))

/-- A click at a point of a scene. -/
structure Clicks (scene : Scene) (x y : Float32) : Prop where
  /-- The target is the topmost layer that takes the point, and the node that is hit. -/
  target : ∃ placed, scene.Layered placed ∧
    scene.target? x y = (placed.filter (Placed.takes x y)).getLast?
  node : ∀ target, scene.target? x y = some target → scene.node? target.number = some target.node
  hit : scene.hit? x y = (scene.target? x y).map fun target => target.node.id
  /-- The handler is that of the node last added under the id of the target. -/
  handler : scene.click? x y = (scene.target? x y).bind fun target =>
    (scene.nodeOf? target.node.id).bind fun found =>
      found.handlers.onClick.map fun handler => (target.node.id, handler)
  /-- That node is the target itself, unless another node was added later under the id, or the
  target was not added under it. -/
  reached : (∀ target, scene.target? x y = some target →
    scene.numberOf? target.node.id = some target.number) → scene.ReachesTarget x y

/-! ### Targets -/

variable {scene : Scene}

theorem hit?_eq_target? (scene : Scene) (x y : Float32) :
    scene.hit? x y = (scene.target? x y).map fun target => target.node.id := by
  unfold hit? target?
  cases scene.frame? with
  | none => rfl
  | some frame =>
    rw [Option.bind_some, Frame.target?_eq, Frame.placedOf_some, Option.map_map]
    rfl

theorem layered_placedOf (distinct : scene.root.numbers.Nodup) :
    scene.Layered (Frame.placedOf scene.frame?) where
  shown := Frame.map_placedOf_ofTree? 0 0 scene.root distinct
  located _ member := bounds?_of_mem_placedOf distinct member
  painted := by
    unfold paint
    cases scene.frame? with
    | none => rfl
    | some frame => rw [Option.map_some, Option.getD_some, Frame.placedOf_some, Frame.paint_eq]
  hit x y := hit?_eq_target? scene x y

theorem node?_target? (distinct : scene.root.numbers.Nodup) {x y : Float32} {target : Placed}
    (found : scene.target? x y = some target) :
    scene.node? target.number = some target.node := by
  have taken := List.mem_of_getLast? found
  have listed : (target.number, target.node) ∈ scene.shown := by
    rw [← (layered_placedOf distinct).shown]
    exact List.mem_map.mpr ⟨target, (List.mem_filter.mp taken).1, rfl⟩
  exact NumberedTree.find?_of_mem_preorder distinct (List.mem_filter.mp listed).1

/-! ### Clicks -/

theorem click?_eq (scene : Scene) (x y : Float32) :
    scene.click? x y = (scene.target? x y).bind fun target =>
      (scene.nodeOf? target.node.id).bind fun found =>
        found.handlers.onClick.map fun handler => (target.node.id, handler) := by
  unfold click?
  rw [hit?_eq_target?]
  cases scene.target? x y with
  | none => rfl
  | some target =>
    cases found : scene.nodeOf? target.node.id with
    | none => simp [found]
    | some node => cases handler : node.handlers.onClick <;> simp [found, handler]

/-- A click reaches its target where the id of the target leads back to it. -/
theorem reachesTarget_of_numberOf? (distinct : scene.root.numbers.Nodup) {x y : Float32}
    (leads : ∀ target, scene.target? x y = some target →
      scene.numberOf? target.node.id = some target.number) : scene.ReachesTarget x y := by
  unfold ReachesTarget
  rw [click?_eq]
  cases found : scene.target? x y with
  | none => rfl
  | some target =>
    have back : scene.nodeOf? target.node.id = some target.node := by
      rw [nodeOf?, leads target found, Option.bind_some, node?_target? distinct found]
    rw [Option.bind_some, Option.bind_some, back]
    rfl

/-- In a scene that is indexed, every click reaches its target. -/
theorem Indexed.reachesTarget (indexed : scene.Indexed) (distinct : scene.root.numbers.Nodup)
    (x y : Float32) : scene.ReachesTarget x y :=
  reachesTarget_of_numberOf? distinct fun _ found =>
    indexed _ _ (node?_target? distinct found)

/-- At every point of every scene, a click gives the id of the target with the handler of the node
last added under that id, which is the target's own handler where the id leads back to it. -/
theorem click_follows_index (reachable : scene.Reachable) (x y : Float32) :
    scene.Clicks x y := by
  have distinct := reachable.wellNumbered.nodup
  exact {
    target := ⟨_, layered_placedOf distinct, rfl⟩
    node := fun _ found => node?_target? distinct found
    hit := hit?_eq_target? scene x y
    handler := click?_eq scene x y
    reached := reachesTarget_of_numberOf? distinct }

/-- Two boxes of one id side by side, the second of which came later. -/
def sharedId : Scene :=
  let box := { Node.ofKind ⟨"a"⟩ .rectangle with handlers.onClick := some "first" }
  let scene := Scene.ofTree (.mk (.ofKind ⟨"page"⟩ .container) [.leaf box])
  scene.addTree 0 (.leaf { box with x := 200, handlers.onClick := some "second" })

/-- The click on the later box reaches it. The one on the earlier box gives its id with the handler
of the later one. -/
theorem click_follows_index_of_sharedId :
    sharedId.Reachable ∧ sharedId.Clicks 210 10 ∧ sharedId.ReachesTarget 210 10 ∧
      sharedId.Clicks 10 10 ∧ sharedId.click? 10 10 = some (⟨"a"⟩, "second") := by
  have reachable : sharedId.Reachable := .added (.parsed _) _ _
  have later := click_follows_index reachable 210 10
  exact ⟨reachable, later, later.reached (by decide), click_follows_index reachable 10 10,
    by decide⟩

/-- In the scene of a document that is accepted, a click does not reach its target. -/
theorem click_misses_target_of_parsed :
    ∃ tree ∈ ((Markup.parseTree .standard
        "<view width=400><box id='a' onClick='first'/><box id='a' x=200 onClick='second'/></view>"
          ).outcome .empty).1.toOption,
      ((ofTree tree).target? 10 10).bind (fun target => handlerOf? target.node) =
        some (⟨"a"⟩, "first") ∧
      ¬ (ofTree tree).ReachesTarget 10 10 := by
  decide +kernel

end Scene

end SceneMarkup
