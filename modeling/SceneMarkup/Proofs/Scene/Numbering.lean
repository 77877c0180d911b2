import Mathlib.Data.List.Nodup
import SceneMarkup.Scene.Basic

/-!
Contract: the numbers of the nodes of a scene over whole runs.

Owns:
- `Scene.Reachable`, the scenes that parsing, adding trees and editing nodes lead to;
- the numbers of a tree in pre-order, and what every step does to them;
- the invariant that no number repeats and all are below the number of the next node.

Does not own: the ids of nodes, which may repeat.
-/

namespace SceneMarkup

namespace NumberedTree

/-- The numbers of all nodes, each before those below it. -/
def numbers (tree : NumberedTree) : List Nat := tree.preorder.map Prod.fst

def numbersAll (trees : List NumberedTree) : List Nat := (preorderAll trees).map Prod.fst

@[simp] theorem numbers_mk (number : Nat) (node : Node) (children : List NumberedTree) :
    (mk number node children).numbers = number :: numbersAll children := by
  rw [numbers, preorder, List.map_cons]
  rfl

@[simp] theorem numbersAll_nil : numbersAll [] = [] := by
  rw [numbersAll, preorderAll, List.map_nil]

@[simp] theorem numbersAll_cons (tree : NumberedTree) (rest : List NumberedTree) :
    numbersAll (tree :: rest) = tree.numbers ++ numbersAll rest := by
  rw [numbersAll, preorderAll, List.map_append]
  rfl

@[simp] theorem numbersAll_append (left right : List NumberedTree) :
    numbersAll (left ++ right) = numbersAll left ++ numbersAll right := by
  induction left with
  | nil => simp
  | cons tree rest inductionHypothesis => simp [inductionHypothesis]

mutual
/-- Numbering counts on from its start. -/
theorem numbers_ofTree (start : Nat) (tree : NodeTree) :
    (ofTree start tree).numbers = List.range' start tree.size := by
  cases tree with
  | mk node children =>
    rw [ofTree, numbers_mk, numbersAll_ofTrees, NodeTree.size, Nat.add_comm 1 (NodeTree.sizeAll _),
      List.range'_succ]

theorem numbersAll_ofTrees (start : Nat) (trees : List NodeTree) :
    numbersAll (ofTrees start trees) = List.range' start (NodeTree.sizeAll trees) := by
  cases trees with
  | nil =>
    rw [ofTrees, numbersAll_nil, NodeTree.sizeAll]
    rfl
  | cons tree rest =>
    rw [ofTrees, numbersAll_cons, numbers_ofTree, numbersAll_ofTrees, NodeTree.sizeAll,
      List.range'_append_1]
end

mutual
theorem numbers_change (target : Nat) (edit : Node → Node) (tree : NumberedTree) :
    (tree.change target edit).numbers = tree.numbers := by
  cases tree with
  | mk number node children => rw [change, numbers_mk, numbers_mk, numbersAll_changeAll]

theorem numbersAll_changeAll (target : Nat) (edit : Node → Node) (trees : List NumberedTree) :
    numbersAll (changeAll target edit trees) = numbersAll trees := by
  cases trees with
  | nil => rw [changeAll]
  | cons tree rest =>
    rw [changeAll, numbersAll_cons, numbersAll_cons, numbers_change, numbersAll_changeAll]
end

mutual
/-- A tree is added once for each node of the target number. -/
theorem count_numbers_append (target sought : Nat) (added tree : NumberedTree) :
    (append target added tree).numbers.count sought =
      tree.numbers.count sought + tree.numbers.count target * added.numbers.count sought := by
  cases tree with
  | mk number node children =>
    have below := count_numbersAll_appendAll target sought added children
    simp only [append, numbers_mk, List.count_cons]
    by_cases here : number = target
    · simp [here, below, Nat.add_mul]
      omega
    · simp [here, below]
      omega

theorem count_numbersAll_appendAll (target sought : Nat) (added : NumberedTree)
    (trees : List NumberedTree) :
    (numbersAll (appendAll target added trees)).count sought =
      (numbersAll trees).count sought +
        (numbersAll trees).count target * added.numbers.count sought := by
  cases trees with
  | nil => simp [appendAll]
  | cons tree rest =>
    have first := count_numbers_append target sought added tree
    have others := count_numbersAll_appendAll target sought added rest
    simp only [appendAll, numbersAll_cons, List.count_append, first, others, Nat.add_mul]
    omega
end

end NumberedTree

namespace Scene

open NumberedTree

/-- The scenes that come from a parsed tree by adding trees below nodes and by editing nodes. -/
inductive Reachable : Scene → Prop where
  | parsed (tree : NodeTree) : Reachable (ofTree tree)
  | added {scene : Scene} (earlier : Reachable scene) (parent : Nat) (tree : NodeTree) :
      Reachable (scene.addTree parent tree)
  | edited {scene : Scene} (earlier : Reachable scene) (number : Nat) (edit : Node → Node) :
      Reachable (scene.change number edit)

/-- No number repeats, and the next node gets a number that no node has. -/
structure WellNumbered (scene : Scene) : Prop where
  nodup : scene.root.numbers.Nodup
  lt_size : ∀ number ∈ scene.root.numbers, number < scene.size

theorem wellNumbered_ofTree (tree : NodeTree) : (ofTree tree).WellNumbered := by
  have numbered : (ofTree tree).root.numbers = List.range' 0 tree.size := numbers_ofTree 0 tree
  constructor
  · rw [numbered]
    exact List.nodup_range'
  · intro number member
    rw [numbered, List.mem_range'_1] at member
    have within := member.2
    rwa [Nat.zero_add] at within

/-- The numbers of an added tree are new. -/
theorem WellNumbered.addTree {scene : Scene} (numbered : scene.WellNumbered) (parent : Nat)
    (tree : NodeTree) : (scene.addTree parent tree).WellNumbered := by
  have fresh : (NumberedTree.ofTree scene.size tree).numbers =
      List.range' scene.size tree.size := numbers_ofTree scene.size tree
  have counts : ∀ sought, (scene.addTree parent tree).root.numbers.count sought =
      scene.root.numbers.count sought +
        scene.root.numbers.count parent * (List.range' scene.size tree.size).count sought := by
    intro sought
    rw [← fresh]
    exact count_numbers_append parent sought _ scene.root
  constructor
  · rw [List.nodup_iff_count_le_one]
    intro sought
    have once := List.nodup_iff_count_le_one.mp numbered.nodup
    have onceNew : (List.range' scene.size tree.size).count sought ≤ 1 :=
      List.nodup_iff_count_le_one.mp List.nodup_range' sought
    rw [counts]
    by_cases new : scene.size ≤ sought
    · have absent : scene.root.numbers.count sought = 0 := by
        apply List.count_eq_zero_of_not_mem
        intro member
        have := numbered.lt_size sought member
        omega
      have product := Nat.mul_le_mul (once parent) onceNew
      omega
    · have absent : (List.range' scene.size tree.size).count sought = 0 := by
        apply List.count_eq_zero_of_not_mem
        intro member
        exact new (List.mem_range'_1.mp member).1
      rw [absent, Nat.mul_zero, Nat.add_zero]
      exact once sought
  · intro number member
    show number < scene.size + tree.size
    have present := List.count_pos_iff.mpr member
    rw [counts] at present
    by_cases old : number ∈ scene.root.numbers
    · have := numbered.lt_size number old
      omega
    · rw [List.count_eq_zero_of_not_mem old, Nat.zero_add] at present
      have new := List.count_pos_iff.mp (Nat.pos_of_mul_pos_left present)
      exact (List.mem_range'_1.mp new).2

theorem WellNumbered.change {scene : Scene} (numbered : scene.WellNumbered) (number : Nat)
    (edit : Node → Node) : (scene.change number edit).WellNumbered := by
  have same : (scene.change number edit).root.numbers = scene.root.numbers :=
    numbers_change number edit scene.root
  constructor
  · rw [same]
    exact numbered.nodup
  · rw [same]
    exact numbered.lt_size

theorem Reachable.wellNumbered {scene : Scene} (reachable : scene.Reachable) :
    scene.WellNumbered := by
  induction reachable with
  | parsed tree => exact wellNumbered_ofTree tree
  | added _ parent tree inductionHypothesis => exact inductionHypothesis.addTree parent tree
  | edited _ number edit inductionHypothesis => exact inductionHypothesis.change number edit

end Scene

end SceneMarkup
