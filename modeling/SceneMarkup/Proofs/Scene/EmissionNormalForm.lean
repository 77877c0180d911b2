import SceneMarkup.Proofs.Document.FrontEnds
import SceneMarkup.Proofs.Json.Depth
import SceneMarkup.Proofs.Scene.EmissionRoundTrip
import SceneMarkup.Proofs.Scene.FiniteLiteral

/-!
Contract: the emitted text of a scene literal is its normal form.

Owns:
- the members of a restored node, which are those of the node;
- the levels of the literal of a tree that was built of a value, no more than those of the value;
- the theorem that the text of an accepted literal is accepted and emitted as the same text.

Does not own: the scenes of other documents, which may have quantities that are not finite.
-/

namespace SceneMarkup

open SceneMarkup.Json SceneMarkup.Number

namespace Emission

/-! ### The literal of the restored tree -/

/-- A number that was kept is written as the number, and a default is left out both times. -/
theorem numberMember_kept (key : String) (value : Float32) {default : Float32}
    (self : (default == default) = true) :
    numberMember key (kept value default) default = numberMember key value default := by
  unfold kept
  split
  · rfl
  · rename_i same
    have left : (default != default) = false := by rw [bne, self]; rfl
    rw [numberMember, numberMember, left, Bool.eq_false_of_not_eq_true same]
    rfl

theorem styleMembers_restoredStyle {node : Node} (settled : node.Settled) :
    styleMembers (restoredStyle node.style) = styleMembers node.style := by
  have selfZero : ((0 : Float32) == 0) = true := rfl
  have selfFont : (defaultFontSize == defaultFontSize) = true := rfl
  rw [restoredStyle_of_settled settled]
  simp only [styleMembers, numberMember_kept _ _ selfZero, numberMember_kept _ _ selfFont]

theorem layoutMembers_restoredLayout (layout : LayoutHints) :
    layoutMembers (restoredLayout layout) = layoutMembers layout := by
  have selfZero : ((0 : Float32) == 0) = true := rfl
  simp only [layoutMembers, restoredLayout, numberMember_kept _ _ selfZero]

theorem stateMembers_restoredState (kind : Kind) (state : WidgetState) :
    stateMembers kind (restoredState kind state) = stateMembers kind state := by
  have selfZero : ((0 : Float32) == 0) = true := rfl
  have selfHundred : ((100 : Float32) == 100) = true := rfl
  by_cases isSlider : kind = .slider
  · subst isSlider
    have numbers : restoredState .slider state =
        { state with
          value := ""
          placeholder := if state.placeholder != "" then state.placeholder else ""
          min := kept state.min 0, current := kept state.current 0
          max := kept state.max 100 } := rfl
    rw [numbers]
    simp only [stateMembers, if_true, kept_text, numberMember_kept _ _ selfZero,
      numberMember_kept _ _ selfHundred]
  · have shown : (kind != .slider) = true := bne_iff_ne.mpr isSlider
    simp only [stateMembers, restoredState, if_neg isSlider, shown, Bool.true_and, kept_text]

/-- The members of the restored node are those of the node. -/
theorem nodeMembers_restoredNode {node : Node} (settled : node.Settled) :
    nodeMembers (restoredNode node) = nodeMembers node := by
  have sameWidth : clampedSize node.width = node.width := settled.sizes .width
  have sameHeight : clampedSize node.height = node.height := settled.sizes .height
  unfold nodeMembers identityMembers restoredNode
  rw [sameWidth, sameHeight, styleMembers_restoredStyle settled, layoutMembers_restoredLayout,
    stateMembers_restoredState, kept_text, kept_text]

mutual
/-- The restored tree has the same literal. -/
theorem literal_restored (tree : NodeTree) (settled : SettledTree tree) :
    literal (restored tree) = literal tree := by
  match tree with
  | .mk node children =>
    have empty : (restoredAll children).isEmpty = children.isEmpty := by cases children <;> rfl
    rw [restored, literal, literal, nodeMembers_restoredNode settled.1, empty,
      literals_restoredAll children settled.2]

theorem literals_restoredAll (trees : List NodeTree)
    (settled : NodeTree.EveryOf Node.Settled trees) :
    literals (restoredAll trees) = literals trees := by
  match trees with
  | [] => rfl
  | tree :: rest =>
    rw [restoredAll, literals, literals, literal_restored tree settled.1,
      literals_restoredAll rest settled.2]
end

end Emission

/-! ### Quantities -/

namespace NodeTree

mutual
/-- All quantities of a tree of finite nodes are finite. -/
theorem isFiniteNumber_of_mem_quantities {tree : NodeTree} (finite : tree.Every Node.Finite) :
    ∀ quantity ∈ tree.quantities, isFiniteNumber quantity = true := by
  match tree with
  | .mk node children =>
    rw [quantities]
    exact List.forall_mem_append.mpr ⟨finite.1, isFiniteNumber_of_mem_quantitiesAll finite.2⟩

theorem isFiniteNumber_of_mem_quantitiesAll {trees : List NodeTree}
    (finite : EveryOf Node.Finite trees) :
    ∀ quantity ∈ quantitiesAll trees, isFiniteNumber quantity = true := by
  match trees with
  | [] => exact List.forall_mem_nil _
  | tree :: rest =>
    rw [quantitiesAll]
    exact List.forall_mem_append.mpr
      ⟨isFiniteNumber_of_mem_quantities finite.1, isFiniteNumber_of_mem_quantitiesAll finite.2⟩
end

end NodeTree

/-! ### Levels -/

namespace Emission

@[simp] theorem membersDepth_append (front back : List (String × Draft)) :
    Draft.membersDepth (front ++ back) =
      max (Draft.membersDepth front) (Draft.membersDepth back) := by
  induction front with
  | nil => rw [List.nil_append, Draft.membersDepth, Nat.zero_max]
  | cons member rest inductionHypothesis =>
    rw [List.cons_append, Draft.membersDepth, Draft.membersDepth, inductionHypothesis,
      Nat.max_assoc]

section Members

variable {key : String}

theorem membersDepth_memberIf {condition : Bool} {draft : Draft} (flat : draft.depth = 0) :
    Draft.membersDepth (memberIf condition key draft) = 0 := by
  cases condition with
  | false => rfl
  | true => rw [memberIf, if_pos rfl, Draft.membersDepth, flat, Draft.membersDepth, Nat.max_self]

@[simp] theorem membersDepth_numberMember {value default : Float32} :
    Draft.membersDepth (numberMember key value default) = 0 :=
  membersDepth_memberIf rfl

@[simp] theorem membersDepth_textMember {text : String} :
    Draft.membersDepth (textMember key text) = 0 :=
  membersDepth_memberIf rfl

@[simp] theorem membersDepth_flagMember {value default : Bool} :
    Draft.membersDepth (flagMember key value default) = 0 :=
  membersDepth_memberIf rfl

@[simp] theorem membersDepth_alignmentMember {alignment : Alignment} :
    Draft.membersDepth (alignmentMember key alignment) = 0 :=
  membersDepth_memberIf rfl

@[simp] theorem membersDepth_colorMember {color : Option Color} :
    Draft.membersDepth (colorMember key color) = 0 := by
  cases color <;> rfl

@[simp] theorem membersDepth_nameMember {name : Option String} :
    Draft.membersDepth (nameMember key name) = 0 := by
  cases name <;> rfl

/-- The members of a node are numbers, strings and truth values. -/
theorem membersDepth_nodeMembers (node : Node) : Draft.membersDepth (nodeMembers node) = 0 := by
  have identity : Draft.membersDepth (identityMembers node) = 0 := rfl
  have state : Draft.membersDepth (stateMembers node.kind node.state) = 0 := by
    unfold stateMembers
    split <;> simp
  simp [nodeMembers, styleMembers, layoutMembers, handlerMembers, identity, state]

/-- A node adds one level, and the array of its children another one. -/
theorem depth_literal (node : Node) (children : List NodeTree) :
    (literal (.mk node children)).depth =
      (if children.isEmpty then 0 else Draft.elementsDepth (literals children) + 1) + 1 := by
  rw [literal, Draft.depth, membersDepth_append, membersDepth_nodeMembers, Nat.zero_max]
  cases children <;> rfl

end Members

end Emission

namespace Literal

/-- The children of a literal are those of an array among its members. -/
theorem eq_nil_or_mem_of_children {members : List (String × Value)} {values : List Value}
    (found : children members = .ok values) :
    values = [] ∨ ∃ name, (name, .array values) ∈ members := by
  unfold children at found
  split at found
  · cases found
    exact .inl rfl
  · cases found
    exact .inl rfl
  · rename_i array present
    cases found
    unfold field? Text.lookupWord at present
    obtain ⟨⟨name, value⟩, searched, same⟩ := Option.map_eq_some_iff.mp present
    obtain rfl : value = .array values := same
    exact .inr ⟨name, List.mem_of_find?_eq_some searched⟩
  · cases found

mutual
/-- The literal of a tree has no more levels than the value that the tree is built of. -/
theorem gives_depth_build (value : Value) :
    BuildM.Gives (build value) fun tree => (Emission.literal tree).depth ≤ value.depth := by
  match value with
  | .object members =>
    rw [build]
    refine BuildM.gives_bind (gives_buildNode members) fun node _ => ?_
    split
    · exact BuildM.gives_throw _
    · rename_i values found
      refine BuildM.gives_bind (gives_depth_buildAll values) fun trees fewer => ?_
      apply BuildM.gives_pure
      rw [Emission.depth_literal, Value.depth]
      apply Nat.succ_le_succ
      rcases eq_nil_or_mem_of_children found with rfl | ⟨name, listed⟩
      · rw [List.length_eq_zero_iff.mp fewer.2]
        exact Nat.zero_le _
      · have array : (Value.array values).depth ≤ Value.membersDepth members :=
          Value.depth_le_membersDepth listed
        rw [Value.depth] at array
        split <;> omega
  | .null | .boolean _ | .number _ | .string _ | .array _ =>
    rw [build]
    · exact BuildM.gives_throw _
    · exact fun members => Value.noConfusion
termination_by sizeOf value
decreasing_by exact sizeOf_children (by assumption)

theorem gives_depth_buildAll (values : List Value) :
    BuildM.Gives (buildAll values) fun trees =>
      Draft.elementsDepth (Emission.literals trees) ≤ Value.elementsDepth values ∧
        trees.length = values.length := by
  match values with
  | [] =>
    rw [buildAll]
    exact BuildM.gives_pure ⟨Nat.le_refl _, rfl⟩
  | value :: rest =>
    rw [buildAll]
    refine BuildM.gives_bind (gives_depth_build value) fun tree fewer => ?_
    refine BuildM.gives_bind (gives_depth_buildAll rest) fun trees fewerRest => ?_
    apply BuildM.gives_pure
    rw [Emission.literals, Draft.elementsDepth, Value.elementsDepth, List.length_cons,
      List.length_cons, fewerRest.2]
    exact ⟨by omega, rfl⟩
termination_by sizeOf values
end

/-- No accepted text makes a tree of more levels than the reader allows. -/
theorem gives_depth_parse (source : String) :
    BuildM.Gives (parse source) fun tree => (Emission.literal tree).depth ≤ maximalDepth := by
  unfold parse
  cases found : read? source.toList with
  | none => exact BuildM.gives_throw _
  | some value =>
    intro ledger tree after built
    exact Nat.le_trans (gives_depth_build value ledger tree after built) (depth_le_of_read? found)

/-! ### The normal form -/

/-- Emitted text is a normal form. Where the quantities of the tree of an accepted literal are read
back from their text, its text is accepted in turn, and the tree read from it is emitted as the same
text. -/
theorem emission_is_normal_form {source : String} {ledger after : IdLedger} {tree : NodeTree}
    (parsed : (parse source).outcome ledger = (.ok tree, after))
    (readBack : ∀ quantity ∈ tree.quantities, isFiniteNumber quantity = true →
      Emission.readBack? quantity = some quantity) (later : IdLedger) :
    (Emission.literal (Scene.ofTree tree).toTree).depth ≤ maximalDepth ∧
      ∃ again last, (parse (Scene.ofTree tree).emit).outcome later = (.ok again, last) ∧
        (Scene.ofTree again).emit = (Scene.ofTree tree).emit := by
  have settled : SettledTree tree := gives_parse gives_buildNode source ledger tree after parsed
  have finite := gives_parse gives_finite_buildNode source ledger tree after parsed
  have nests := gives_depth_parse source ledger tree after parsed
  have recoverable : ∀ quantity ∈ tree.quantities, Emission.Recoverable quantity :=
    fun quantity member =>
      have isFinite := NodeTree.isFiniteNumber_of_mem_quantities finite quantity member
      ⟨isFinite, readBack quantity member isFinite⟩
  obtain ⟨last, built⟩ := Emission.outcome_build_restored tree settled recoverable later
  have read : parse (Scene.ofTree tree).emit = build (Emission.literal tree).value := by
    rw [Scene.emit, Scene.toTree_ofTree]
    exact Emission.parse_emit (fun quantity member => (recoverable quantity member).legible) nests
  refine ⟨by rwa [Scene.toTree_ofTree], Emission.restored tree, last, by rw [read, built], ?_⟩
  rw [Scene.emit, Scene.emit, Scene.toTree_ofTree, Scene.toTree_ofTree, NodeTree.emit,
    Emission.literal_restored tree settled, NodeTree.emit]

/-- A slider in a panel, under names in other cases, with values that set nothing and a number that
only sliders use. -/
def loosePanel : PortableElement :=
  .mk {
    tag := "VIEW"
    kind := .container
    attributes := [⟨"Padding", "-0"⟩, ⟨"min", "7"⟩, ⟨"W", "wide"⟩, ⟨"bg-color", ""⟩]
    builtIn := by decide +kernel
    named := by decide +kernel
    distinctNames := by decide
    notStructural := by decide +kernel
    unquoted := by decide
    notEightDigits := by decide
    distinctFields := by decide
  } [.mk {
    tag := "Slider"
    kind := .slider
    attributes := [⟨"value", " 2.5px "⟩, ⟨"max-value", "100"⟩, ⟨"FILL", "red"⟩]
    builtIn := by decide +kernel
    named := by decide
    distinctNames := by decide
    notStructural := by decide
    unquoted := by decide
    notEightDigits := by decide
    distinctFields := by decide
  } []]

theorem emission_is_normal_form_of_loosePanel :
    ∃ tree after, (parse loosePanel.literal.render).outcome .empty = (.ok tree, after) ∧
      (∀ quantity ∈ tree.quantities, isFiniteNumber quantity = true →
        Emission.readBack? quantity = some quantity) ∧
      (Emission.literal (Scene.ofTree tree).toTree).depth ≤ maximalDepth ∧
      ∃ again last, (parse (Scene.ofTree tree).emit).outcome after = (.ok again, last) ∧
        (Scene.ofTree again).emit = (Scene.ofTree tree).emit := by
  have parsed := loosePanel.outcome_parse_literal (by decide) .empty
  have readBack : ∀ quantity ∈ (loosePanel.tree .empty).1.quantities,
      isFiniteNumber quantity = true → Emission.readBack? quantity = some quantity := by
    decide +kernel
  exact ⟨_, _, parsed, readBack, emission_is_normal_form parsed readBack _⟩

end Literal

end SceneMarkup
