import SceneMarkup.Proofs.Document.Settled
import SceneMarkup.Proofs.Scene.LiteralObject
import SceneMarkup.Proofs.Scene.WrittenNode

/-!
Contract: the emitted text of a scene is read back into the scene.

Owns:
- the quantities of a tree, and the tree without those that only sliders use;
- the tree that the literal of a settled tree is built into, and that it is the tree itself up to
  these quantities;
- the theorem that the scenes of documents survive their emission up to these quantities, and
  scenes that lose a quantity by it.

Does not own: numbers as text, which the theorem takes to be read back.
-/

namespace SceneMarkup

open SceneMarkup.Json SceneMarkup.Number

/-! ### Statement -/

namespace NodeTree

mutual
/-- The quantities of all nodes. -/
def quantities : NodeTree → List Float32
  | mk node children => node.quantities ++ quantitiesAll children

def quantitiesAll : List NodeTree → List Float32
  | [] => []
  | tree :: rest => tree.quantities ++ quantitiesAll rest
end

mutual
/-- The tree without the numbers that only sliders use, except on sliders. -/
def withoutIdleNumbers : NodeTree → NodeTree
  | mk node children => mk node.withoutIdleNumbers (allWithoutIdleNumbers children)

def allWithoutIdleNumbers : List NodeTree → List NodeTree
  | [] => []
  | tree :: rest => tree.withoutIdleNumbers :: allWithoutIdleNumbers rest
end

end NodeTree

namespace Emission

/-! ### Literals of trees -/

/-- The members of a literal besides its type and its children. -/
def scalars (node : Node) : List (String × Value) :=
  Draft.memberValues ((nodeEntries node).flatMap Entry.members)

/-- The children of a literal, which are left out where there are none. -/
def childValues (children : List NodeTree) : Option (List Value) :=
  if children.isEmpty then none else some (Draft.elementValues (literals children))

theorem childValues_getD (children : List NodeTree) :
    (childValues children).getD [] = Draft.elementValues (literals children) := by
  cases children <;> rfl

theorem value_literal (node : Node) (children : List NodeTree) :
    (literal (.mk node children)).value =
      .object (sortedMembers (Literal.objectMembers node.kind.name (scalars node)
        (childValues children))) := by
  have inside : Draft.memberValues
      (if children.isEmpty then [] else [("children", .array (literals children))]) =
        Literal.childrenMember (childValues children) := by
    cases children <;> rfl
  rw [literal, Draft.value, nodeMembers_eq, Draft.memberValues_eq_map, List.map_append,
    ← Draft.memberValues_eq_map, ← Draft.memberValues_eq_map, inside]
  rfl

theorem map_fst_scalars (node : Node) :
    (scalars node).map Prod.fst = (Entry.written (nodeEntries node)).map Entry.key := by
  rw [scalars, Draft.memberValues_eq_map, List.map_map, ← Entry.keys_members]
  rfl

theorem nodup_scalars (node : Node) : ((scalars node).map Prod.fst).Nodup := by
  rw [map_fst_scalars]
  exact keys_nodup.sublist (List.filter_sublist.map _)

theorem notStructural_scalars (node : Node) :
    ∀ member ∈ scalars node, canonicalName member.1 ∉ Literal.structuralNames := by
  intro member listed
  have key : member.1 ∈ (Entry.written (nodeEntries node)).map Entry.key := by
    rw [← map_fst_scalars]
    exact List.mem_map_of_mem listed
  obtain ⟨entry, written, same⟩ := List.mem_map.mp key
  rw [← same]
  exact (asked_nodeEntries entry (List.mem_of_mem_filter written)).2

theorem ofName?_name (kind : Kind) : Kind.ofName? kind.name = some kind := by
  cases kind <;> decide +kernel

section Node

variable {node : Node}

/-- The literal of a settled node makes the assignments of its written entries. -/
theorem assignments_scalars (settled : node.Settled)
    (recoverable : ∀ quantity ∈ node.quantities, Recoverable quantity) :
    (Literal.attributes (scalars node)).assignments node.kind .rgba =
      (Entry.written (nodeEntries node)).map Entry.made := by
  have restore := restores_nodeEntries settled recoverable node.id
  have read := Entry.assignments_members restore fun entry member =>
    (asked_nodeEntries entry member).1
  exact read

theorem distinct_scalars (settled : node.Settled)
    (recoverable : ∀ quantity ∈ node.quantities, Recoverable quantity) :
    (Literal.attributes (scalars node)).Distinct node.kind .rgba := by
  rw [Attributes.Distinct, assignments_scalars settled recoverable, List.map_map]
  exact fields_nodup.sublist (List.filter_sublist.map _)

/-- The literal of a settled node makes the node that the entries of the node restore. -/
theorem made_eq_restored (settled : node.Settled)
    (recoverable : ∀ quantity ∈ node.quantities, Recoverable quantity) (ledger : IdLedger) :
    (Node.made node.kind .rgba (Literal.attributes (scalars node)) ledger).1 =
      restoredNode node := by
  -- The generated id does not count, since the literal always has an id of its own.
  obtain ⟨id, made⟩ := Node.exists_id_of_made node.kind .rgba
    (Literal.attributes (scalars node)) ledger
  rw [made, assignments_scalars settled recoverable,
    Entry.assignAll_written (restores_nodeEntries settled recoverable id) fields_nodup,
    assignAll_made]

end Node

mutual
/-- The tree that the literal of a settled tree is built into. -/
def restored : NodeTree → NodeTree
  | .mk node children => .mk (restoredNode node) (restoredAll children)

def restoredAll : List NodeTree → List NodeTree
  | [] => []
  | tree :: rest => restored tree :: restoredAll rest
end

mutual
theorem outcome_build_restored (tree : NodeTree) (settled : SettledTree tree)
    (recoverable : ∀ quantity ∈ tree.quantities, Recoverable quantity) (ledger : IdLedger) :
    ∃ after, (Literal.build (literal tree).value).outcome ledger =
      (.ok (restored tree), after) := by
  match tree with
  | .mk node children =>
    rw [NodeTree.quantities] at recoverable
    obtain ⟨ofNode, below⟩ := List.forall_mem_append.mp recoverable
    let middle := (Node.made node.kind .rgba (Literal.attributes (scalars node)) ledger).2
    obtain ⟨after, built⟩ := outcome_buildAll_restored children settled.2 below middle
    rw [← childValues_getD] at built
    rw [value_literal, Literal.outcome_build_object (nodup_scalars node)
      (notStructural_scalars node) (ofName?_name node.kind) (distinct_scalars settled.1 ofNode)
      built, made_eq_restored settled.1 ofNode]
    exact ⟨after, rfl⟩

theorem outcome_buildAll_restored (trees : List NodeTree)
    (settled : NodeTree.EveryOf Node.Settled trees)
    (recoverable : ∀ quantity ∈ NodeTree.quantitiesAll trees, Recoverable quantity)
    (ledger : IdLedger) :
    ∃ after, (Literal.buildAll (Draft.elementValues (literals trees))).outcome ledger =
      (.ok (restoredAll trees), after) := by
  match trees with
  | [] =>
    rw [literals, Draft.elementValues, Literal.buildAll]
    exact ⟨_, rfl⟩
  | tree :: rest =>
    rw [NodeTree.quantitiesAll] at recoverable
    obtain ⟨ofTree, ofRest⟩ := List.forall_mem_append.mp recoverable
    obtain ⟨middle, built⟩ := outcome_build_restored tree settled.1 ofTree ledger
    obtain ⟨after, builtRest⟩ := outcome_buildAll_restored rest settled.2 ofRest middle
    rw [literals, Draft.elementValues, Literal.buildAll, BuildM.outcome_bind_ok _ built,
      BuildM.outcome_bind_ok _ builtRest]
    exact ⟨after, rfl⟩
end

mutual
/-- What the literal of a settled tree restores is the tree, without idle numbers. -/
theorem same_restored (tree : NodeTree) (settled : SettledTree tree)
    (recoverable : ∀ quantity ∈ tree.quantities, Recoverable quantity) :
    (restored tree).same tree.withoutIdleNumbers = true := by
  match tree with
  | .mk node children =>
    rw [NodeTree.quantities] at recoverable
    obtain ⟨ofNode, below⟩ := List.forall_mem_append.mp recoverable
    rw [restored, NodeTree.withoutIdleNumbers, NodeTree.same, restoredNode_beq settled.1 ofNode,
      sameAll_restoredAll children settled.2 below, Bool.and_self]

theorem sameAll_restoredAll (trees : List NodeTree)
    (settled : NodeTree.EveryOf Node.Settled trees)
    (recoverable : ∀ quantity ∈ NodeTree.quantitiesAll trees, Recoverable quantity) :
    NodeTree.sameAll (restoredAll trees) (NodeTree.allWithoutIdleNumbers trees) = true := by
  match trees with
  | [] => rfl
  | tree :: rest =>
    rw [NodeTree.quantitiesAll] at recoverable
    obtain ⟨ofTree, ofRest⟩ := List.forall_mem_append.mp recoverable
    rw [restoredAll, NodeTree.allWithoutIdleNumbers, NodeTree.sameAll,
      same_restored tree settled.1 ofTree, sameAll_restoredAll rest settled.2 ofRest, Bool.and_self]
end

/-- The literal of a settled tree is built into the tree, without idle numbers. -/
theorem outcome_build_literal (tree : NodeTree) (settled : SettledTree tree)
    (recoverable : ∀ quantity ∈ tree.quantities, Recoverable quantity) (ledger : IdLedger) :
    ∃ restored after,
      (Literal.build (literal tree).value).outcome ledger = (.ok restored, after) ∧
        restored.same tree.withoutIdleNumbers = true := by
  obtain ⟨after, built⟩ := outcome_build_restored tree settled recoverable ledger
  exact ⟨restored tree, after, built, same_restored tree settled recoverable⟩

mutual
/-- The literal of a tree is legible when its quantities are. -/
theorem legible_literal (tree : NodeTree)
    (legible : ∀ quantity ∈ tree.quantities, Draft.LegibleNumber quantity) :
    (literal tree).Legible := by
  match tree with
  | .mk node children =>
    rw [NodeTree.quantities] at legible
    obtain ⟨ofNode, below⟩ := List.forall_mem_append.mp legible
    rw [literal]
    apply membersLegible_append.mpr
    refine ⟨membersLegible_nodeMembers ofNode, ?_⟩
    split
    · exact trivial
    · exact ⟨legible_literals children below, trivial⟩

theorem legible_literals (trees : List NodeTree)
    (legible : ∀ quantity ∈ NodeTree.quantitiesAll trees, Draft.LegibleNumber quantity) :
    Draft.ElementsLegible (literals trees) := by
  match trees with
  | [] => exact trivial
  | tree :: rest =>
    rw [NodeTree.quantitiesAll] at legible
    obtain ⟨ofTree, ofRest⟩ := List.forall_mem_append.mp legible
    exact ⟨legible_literal tree ofTree, legible_literals rest ofRest⟩
end

/-- The text of a tree is read as the value of its literal. -/
theorem parse_emit {tree : NodeTree}
    (legible : ∀ quantity ∈ tree.quantities, Draft.LegibleNumber quantity)
    (nests : (literal tree).depth ≤ maximalDepth) :
    Literal.parse tree.emit = Literal.build (literal tree).value := by
  rw [Literal.parse, NodeTree.emit, read?_render (legible_literal tree legible) nests]

end Emission

/-! ### Scenes -/

/-- The scene of a document survives its emission: where its quantities are finite and are read
back from their text, its text is read into the same tree, without the numbers that only sliders
use. -/
theorem Scene.survives_emission {engine : Engine}
    (builtIn : engine.components = .standard ∨ engine.components = .empty) {content : String}
    {ledger after : IdLedger} {scene : Scene}
    (parsed : StateT.run (engine.parse content) ledger = (.ok scene, after))
    (nests : (Emission.literal scene.toTree).depth ≤ maximalDepth)
    (finite : ∀ quantity ∈ scene.toTree.quantities, isFiniteNumber quantity = true)
    (readBack : ∀ quantity ∈ scene.toTree.quantities, isFiniteNumber quantity = true →
      Emission.readBack? quantity = some quantity) (later : IdLedger) :
    ∃ tree last, (Literal.parse scene.emit).outcome later = (.ok tree, last) ∧
      (Scene.ofTree tree).toTree.same scene.toTree.withoutIdleNumbers = true := by
  have given : engine.components.Gives SettledTree := by
    rcases builtIn with standard | empty
    · rw [standard]
      exact ComponentRegistry.gives_standard
    · rw [empty]
      exact ComponentRegistry.gives_empty _
  have settled : SettledTree scene.toTree := Engine.settledTree_of_parse given parsed
  have recoverable : ∀ quantity ∈ scene.toTree.quantities, Emission.Recoverable quantity := by
    intro quantity member
    have isFinite := finite quantity member
    exact ⟨isFinite, readBack quantity member isFinite⟩
  obtain ⟨tree, last, built, same⟩ :=
    Emission.outcome_build_literal scene.toTree settled recoverable later
  have read : Literal.parse scene.emit = Literal.build (Emission.literal scene.toTree).value :=
    Emission.parse_emit (fun quantity member => (recoverable quantity member).legible) nests
  refine ⟨tree, last, ?_, ?_⟩
  · rw [read]
    exact built
  · rw [toTree_ofTree]
    exact same

/-- A card with a title row around a slider. -/
def volumeCard : String :=
  "<Card id=card title=Volume><slider id=level min=1 value=2.5 onChange=set/></Card>"

theorem Scene.survives_emission_of_volumeCard :
    ∃ scene after, StateT.run (Engine.parse ⟨.standard, none⟩ volumeCard) .empty =
        (.ok scene, after) ∧
      (Emission.literal scene.toTree).depth ≤ maximalDepth ∧
      (∀ quantity ∈ scene.toTree.quantities, isFiniteNumber quantity = true) ∧
      (∀ quantity ∈ scene.toTree.quantities, Emission.readBack? quantity = some quantity) ∧
      ∃ tree last, (Literal.parse scene.emit).outcome after = (.ok tree, last) ∧
        (Scene.ofTree tree).toTree.same scene.toTree.withoutIdleNumbers = true := by
  have computed : (match StateT.run (Engine.parse ⟨.standard, none⟩ volumeCard) .empty with
      | (.ok scene, _) => decide ((Emission.literal scene.toTree).depth ≤ maximalDepth ∧
          (∀ quantity ∈ scene.toTree.quantities, isFiniteNumber quantity = true) ∧
          ∀ quantity ∈ scene.toTree.quantities, Emission.readBack? quantity = some quantity)
      | _ => false) = true := by decide +kernel
  cases parsed : StateT.run (Engine.parse ⟨.standard, none⟩ volumeCard) .empty with
  | mk result after =>
    rw [parsed] at computed
    cases result with
    | error cause => cases computed
    | ok scene =>
      obtain ⟨nests, finite, readBack⟩ := of_decide_eq_true computed
      exact ⟨scene, after, rfl, nests, finite, readBack, survives_emission (.inl rfl) parsed nests
        finite (fun quantity member _ => readBack quantity member) after⟩

/-- The scene of a document is emitted within the levels, and its text is read into another
tree. -/
def Engine.LosesByEmission (engine : Engine) (content : String) : Prop :=
  ∃ scene after tree last,
    StateT.run (engine.parse content) .empty = (.ok scene, after) ∧
      (Emission.literal scene.toTree).depth ≤ maximalDepth ∧
      (Literal.parse scene.emit).outcome after = (.ok tree, last) ∧
      (Scene.ofTree tree).toTree.same scene.toTree = false

/-- Whether a document loses by its emission, found out without reading the text. -/
def Engine.isLossy (engine : Engine) (content : String) : Bool :=
  match StateT.run (engine.parse content) .empty with
  | (.ok scene, after) =>
    decide ((Emission.literal scene.toTree).depth ≤ maximalDepth ∧
        ∀ quantity ∈ scene.toTree.quantities, Draft.LegibleNumber quantity) &&
      match (Literal.build (Emission.literal scene.toTree).value).outcome after with
      | (.ok tree, _) => !tree.same scene.toTree
      | _ => false
  | _ => false

theorem Engine.losesByEmission_of_isLossy {engine : Engine} {content : String}
    (lossy : engine.isLossy content = true) : engine.LosesByEmission content := by
  unfold isLossy at lossy
  split at lossy
  · rename_i scene after parsed
    obtain ⟨fits, differs⟩ := Bool.and_eq_true_iff.mp lossy
    obtain ⟨nests, legible⟩ := of_decide_eq_true fits
    split at differs
    · rename_i tree last built
      refine ⟨scene, after, tree, last, parsed, nests, ?_, ?_⟩
      · rw [Scene.emit, Emission.parse_emit legible nests]
        exact built
      · rw [Scene.toTree_ofTree]
        simpa using differs
    · cases differs
  · cases lossy

/-- An input, which is no slider, loses its least number, and a title row its infinite width. -/
theorem Engine.emission_loses_quantities :
    LosesByEmission ⟨.standard, none⟩ "<input id=a min=5/>" ∧
      LosesByEmission ⟨.standard, none⟩ "<Card id=a title=T padding=-3e38/>" :=
  ⟨losesByEmission_of_isLossy (by decide +kernel), losesByEmission_of_isLossy (by decide +kernel)⟩

end SceneMarkup
