import SceneMarkup.Proofs.Scene.Rooted

/-!
Contract: scenes in which every node is found under its own id.

Owns:
- what the record of added ids says about a node of a run;
- `Scene.Indexed`, scenes whose record leads each id of a node back to that node;
- the scenes of one tree that are indexed.

Does not own: where the ids of a document come from.
-/

namespace SceneMarkup

namespace Scene

/-- Every node is the one last added under the id that it has. -/
def Indexed (scene : Scene) : Prop :=
  ∀ number node, scene.node? number = some node → scene.numberOf? node.id = some number

/-- A node is found under an id if it was added under that id and no later node was. -/
theorem Run.numberOf?_eq_some_iff {carried : List NodeId} {scene : Scene} {arena : Arena}
    (run : Run carried scene arena) {id : NodeId} {number : Nat} :
    scene.numberOf? id = some number ↔
      carried[number]? = some id ∧ ∀ later, number < later → carried[later]? ≠ some id := by
  rw [run.agrees.index]
  exact run.agrees.records.latest id number

theorem node?_ofTree (tree : NodeTree) (number : Nat) :
    (ofTree tree).node? number = tree.nodes[number]? := by
  rw [(Run.parsed tree).agrees.nodes, Arena.nodes_ofTree]

theorem getElem?_ids (tree : NodeTree) (number : Nat) :
    tree.ids[number]? = (tree.nodes[number]?).map Node.id := List.getElem?_map

/-- The scene of a tree is indexed exactly when no id repeats. -/
theorem indexed_ofTree_iff (tree : NodeTree) : (ofTree tree).Indexed ↔ tree.ids.Nodup := by
  rw [List.nodup_iff_getElem?_ne_getElem?]
  constructor
  · intro indexed first second before inside same
    have present : second < tree.nodes.length := by
      simpa [NodeTree.ids] using inside
    have bound : first < tree.nodes.length := Nat.lt_trans before present
    have found : (ofTree tree).node? first = some tree.nodes[first] := by
      rw [node?_ofTree, List.getElem?_eq_getElem bound]
    have latest := ((Run.parsed tree).numberOf?_eq_some_iff.mp (indexed first _ found)).2
    refine latest second before ?_
    rw [← same, getElem?_ids, List.getElem?_eq_getElem bound]
    rfl
  · intro distinct number node found
    rw [node?_ofTree] at found
    have here : tree.ids[number]? = some node.id := by
      rw [getElem?_ids, found]
      rfl
    refine (Run.parsed tree).numberOf?_eq_some_iff.mpr ⟨here, fun later after repeated => ?_⟩
    have inside : later < tree.ids.length := (List.getElem?_eq_some_iff.mp repeated).1
    exact distinct number later after inside (here.trans repeated.symm)

end Scene

end SceneMarkup
