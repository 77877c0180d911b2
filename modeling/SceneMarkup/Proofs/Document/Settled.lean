import SceneMarkup.Document
import SceneMarkup.Proofs.Node.Settled

/-!
Contract: all nodes of all documents are settled.

Owns:
- what every value that a computation gives has in common, for the two kinds of computations;
- `Node.Kept`, properties of nodes that reading keeps, which all nodes of a document have when
  those of the factories do;
- the built-in factories, elements and literals, whose trees have settled nodes;
- the theorem that the scenes of documents have settled nodes.

Does not own: what being settled is good for.
-/

namespace SceneMarkup

open SceneMarkup.Text

/-! ### Computations -/

section Computations

variable {α β : Type} {holds : α → Prop} {later : β → Prop}

/-- Every value that a computation gives has a property, whatever names are taken. -/
def IdM.Gives (computation : IdM α) (holds : α → Prop) : Prop :=
  ∀ ledger, holds (StateT.run computation ledger).1

theorem IdM.gives_bind {first : IdM α} {next : α → IdM β} (given : IdM.Gives first holds)
    (goesOn : ∀ value, holds value → IdM.Gives (next value) later) :
    IdM.Gives (first >>= next) later :=
  fun ledger => goesOn _ (given ledger) (StateT.run first ledger).2

theorem IdM.gives_pure {value : α} (held : holds value) : IdM.Gives (pure value) holds :=
  fun _ => held

/-- Every value that a computation gives when it succeeds has a property. -/
def BuildM.Gives (computation : BuildM α) (holds : α → Prop) : Prop :=
  ∀ ledger value after, computation.outcome ledger = (.ok value, after) → holds value

theorem BuildM.gives_bind {first : BuildM α} {next : α → BuildM β}
    (given : BuildM.Gives first holds)
    (goesOn : ∀ value, holds value → BuildM.Gives (next value) later) :
    BuildM.Gives (first >>= next) later := by
  intro ledger value after ended
  cases result : first.outcome ledger with
  | mk outcome middle =>
    cases outcome with
    | error cause =>
      rw [BuildM.outcome_bind_error next result] at ended
      cases ended
    | ok found =>
      rw [BuildM.outcome_bind_ok next result] at ended
      exact goesOn found (given ledger found middle result) middle value after ended

theorem BuildM.gives_pure {value : α} (held : holds value) :
    BuildM.Gives (pure value) holds := by
  intro ledger found after ended
  cases ended
  exact held

theorem BuildM.gives_throw (cause : ParseError) :
    BuildM.Gives (throw cause : BuildM α) holds := by
  intro ledger found after ended
  cases ended

/-- A computation that only takes names gives the same values as part of one that may fail. -/
theorem BuildM.gives_lift {computation : IdM α} (given : IdM.Gives computation holds) :
    BuildM.Gives (liftM computation : BuildM α) holds := by
  intro ledger value after ended
  have found : (StateT.run computation ledger).1 = value := by
    cases ended
    rfl
  rw [← found]
  exact given ledger

end Computations

/-! ### Trees -/

namespace NodeTree

mutual
/-- All nodes of a tree have a property. -/
def Every (holds : Node → Prop) : NodeTree → Prop
  | mk node children => holds node ∧ EveryOf holds children

def EveryOf (holds : Node → Prop) : List NodeTree → Prop
  | [] => True
  | tree :: rest => tree.Every holds ∧ EveryOf holds rest
end

theorem everyOf_append {holds : Node → Prop} {front back : List NodeTree}
    (first : EveryOf holds front) (second : EveryOf holds back) :
    EveryOf holds (front ++ back) := by
  induction front with
  | nil => exact second
  | cons tree rest inductionHypothesis => exact ⟨first.1, inductionHypothesis first.2⟩

end NodeTree

abbrev SettledTree (tree : NodeTree) : Prop := tree.Every Node.Settled

/-! ### Nodes -/

namespace Node

/-- A property that new nodes have and that neither attributes nor texts take away. -/
structure Kept (holds : Node → Prop) : Prop where
  anonymous : ∀ kind, IdM.Gives (Node.anonymous kind) holds
  bindAll : ∀ {node : Node}, holds node → ∀ layout attributes,
    holds (node.bindAll layout attributes)
  text : ∀ {node : Node}, holds node → ∀ text, holds { node with text := text }

theorem Kept.gives_applyAll {holds : Node → Prop} (kept : Kept holds) {node : Node}
    (held : holds node) (layout : HexLayout) (attributes : Attributes) :
    IdM.Gives (node.applyAll layout attributes) holds :=
  fun _ => kept.bindAll held layout attributes

theorem gives_anonymous (kind : Kind) : IdM.Gives (anonymous kind) Settled :=
  fun _ => settled_ofKind (IdLedger.settled_generatedName kind _) kind

theorem kept_settled : Kept Settled where
  anonymous := gives_anonymous
  bindAll settled layout attributes := settled.bindAll layout attributes
  text settled _ := ⟨settled.id, settled.sizes, settled.image, settled.names, settled.slider⟩

theorem Settled.gives_applyAll {node : Node} (settled : node.Settled) (layout : HexLayout)
    (attributes : Attributes) : IdM.Gives (node.applyAll layout attributes) Settled :=
  kept_settled.gives_applyAll settled layout attributes

theorem Settled.withSize {node : Node} (settled : node.Settled) (width height : Float32) :
    (node.withSize width height).Settled := by
  refine ⟨settled.id, ?_, settled.image, settled.names, settled.slider⟩
  intro field
  cases field with
  | width => exact clampedSize_clampedSize width
  | height => exact clampedSize_clampedSize height
  | borderWidth => exact settled.sizes .borderWidth
  | cornerRadius => exact settled.sizes .cornerRadius
  | fontSize => exact settled.sizes .fontSize

/-- A node keeps being settled with another style whose sizes are settled. -/
theorem Settled.withStyle {node : Node} (settled : node.Settled) (style : Style)
    (border : clampedSize style.borderWidth = style.borderWidth)
    (corner : clampedSize style.cornerRadius = style.cornerRadius)
    (font : clampedSize style.fontSize = style.fontSize) :
    Settled { node with style := style } := by
  refine ⟨settled.id, ?_, settled.image, settled.names, settled.slider⟩
  intro field
  cases field with
  | width => exact settled.sizes .width
  | height => exact settled.sizes .height
  | borderWidth => exact border
  | cornerRadius => exact corner
  | fontSize => exact font

end Node

/-! ### Factories -/

namespace Factory

theorem gives_label {parent : Node} (settled : parent.Settled) {part : String}
    (visible : part.toList.all (fun letter => !isBlank letter) = true) (text : String) :
    IdM.Gives (label parent part text) Node.Settled := by
  intro ledger
  have letters : ∀ letter ∈ part.toList, isBlank letter = false := by
    intro letter member
    simpa using List.all_eq_true.mp visible letter member
  have made := Node.settled_ofKind (NodeId.settled_part settled.id letters) .text
  exact ⟨made.id, made.sizes, made.image, made.names, made.slider⟩

/-- The constant sizes of the built-in factories. -/
theorem clampedSize_constants : ∀ size ∈ [(0 : Float32), 1, 6, 8, 14, 18, 20],
    clampedSize size = size := by
  decide

theorem gives_button (attributes : Attributes) :
    IdM.Gives (button attributes) SettledTree := by
  refine IdM.gives_bind (Node.gives_anonymous .button) fun blank settled => ?_
  have sized := settled.withSize 120 40
  have styled := sized.withStyle
    { blank.style with background := some primary, cornerRadius := 6, textColor := some .white }
    (sized.sizes .borderWidth) (clampedSize_constants 6 (by simp)) (sized.sizes .fontSize)
  refine IdM.gives_bind (styled.gives_applyAll _ _) fun node settledNode => ?_
  refine IdM.gives_bind (gives_label settledNode (by decide) _) fun text settledText => ?_
  have sizedText := settledText.withSize node.width node.height
  have caption := sizedText.withStyle
    { text.style with textColor := node.style.textColor, fontSize := node.style.fontSize }
    (sizedText.sizes .borderWidth) (sizedText.sizes .cornerRadius) (settledNode.sizes .fontSize)
  -- Alignment, like position and text below, has no part in being settled.
  exact IdM.gives_pure ⟨settledNode,
    ⟨⟨caption.id, caption.sizes, caption.image, caption.names, caption.slider⟩, trivial⟩, trivial⟩

theorem gives_optional {holds : Node → Prop} (text : Option String)
    {build : String → IdM NodeTree}
    (given : ∀ text, IdM.Gives (build text) (NodeTree.Every holds)) :
    IdM.Gives (optional text build) (NodeTree.EveryOf holds) := by
  cases text with
  | none => exact IdM.gives_pure trivial
  | some text =>
    exact IdM.gives_bind (given text) fun tree held => IdM.gives_pure ⟨held, trivial⟩

theorem gives_cardTitle {card : Node} (settled : card.Settled) (innerWidth : Float32)
    (title : String) : IdM.Gives (cardTitle card innerWidth title) SettledTree := by
  refine IdM.gives_bind (gives_label settled (by decide) title) fun text settledText => ?_
  have sized := settledText.withSize innerWidth 24
  have row := sized.withStyle { text.style with fontSize := 18, textColor := some ink }
    (sized.sizes .borderWidth) (sized.sizes .cornerRadius) (clampedSize_constants 18 (by simp))
  exact IdM.gives_pure ⟨⟨row.id, row.sizes, row.image, row.names, row.slider⟩, trivial⟩

theorem gives_cardSubtitle {card : Node} (settled : card.Settled) (innerWidth : Float32)
    (subtitle : String) : IdM.Gives (cardSubtitle card innerWidth subtitle) SettledTree := by
  refine IdM.gives_bind (gives_label settled (by decide) subtitle) fun text settledText => ?_
  have sized := settledText.withSize innerWidth 20
  have row := sized.withStyle { text.style with textColor := some muted }
    (sized.sizes .borderWidth) (sized.sizes .cornerRadius) (sized.sizes .fontSize)
  exact IdM.gives_pure ⟨⟨row.id, row.sizes, row.image, row.names, row.slider⟩, trivial⟩

theorem gives_card (attributes : Attributes) : IdM.Gives (card attributes) SettledTree := by
  refine IdM.gives_bind (Node.gives_anonymous .container) fun blank settled => ?_
  have sized := settled.withSize 300 200
  have styled := sized.withStyle
    { blank.style with
      background := some .white, borderColor := some borderGray, borderWidth := 1,
      cornerRadius := 8 }
    (clampedSize_constants 1 (by simp)) (clampedSize_constants 8 (by simp)) (sized.sizes .fontSize)
  have padded : Node.Settled { (blank.withSize 300 200) with
      style.background := some .white, style.borderColor := some borderGray,
      style.borderWidth := 1, style.cornerRadius := 8, layout.padding := 16 } :=
    ⟨styled.id, styled.sizes, styled.image, styled.names, styled.slider⟩
  refine IdM.gives_bind (padded.gives_applyAll _ _) fun node settledNode => ?_
  refine IdM.gives_bind (gives_optional _ (gives_cardTitle settledNode _)) fun title first => ?_
  refine IdM.gives_bind (gives_optional _ (gives_cardSubtitle settledNode _))
    fun subtitle second => ?_
  exact IdM.gives_pure ⟨settledNode, NodeTree.everyOf_append first second⟩

theorem gives_headerTitle {header : Node} (settled : header.Settled) (title : String) :
    IdM.Gives (headerTitle header title) SettledTree := by
  refine IdM.gives_bind (gives_label settled (by decide) title) fun text settledText => ?_
  have sized := settledText.withSize (clampedSize (header.width - 40)) header.height
  have row := sized.withStyle { text.style with fontSize := 20, textColor := some .white }
    (sized.sizes .borderWidth) (sized.sizes .cornerRadius) (clampedSize_constants 20 (by simp))
  exact IdM.gives_pure ⟨⟨row.id, row.sizes, row.image, row.names, row.slider⟩, trivial⟩

theorem gives_header (attributes : Attributes) : IdM.Gives (header attributes) SettledTree := by
  refine IdM.gives_bind (Node.gives_anonymous .container) fun blank settled => ?_
  have sized := settled.withSize 800 60
  have styled := sized.withStyle { blank.style with background := some headerBackground }
    (sized.sizes .borderWidth) (sized.sizes .cornerRadius) (sized.sizes .fontSize)
  refine IdM.gives_bind (styled.gives_applyAll _ _) fun node settledNode => ?_
  refine IdM.gives_bind (gives_optional _ (gives_headerTitle settledNode)) fun title row => ?_
  exact IdM.gives_pure ⟨settledNode, row⟩

end Factory

/-! ### Registries -/

namespace ComponentRegistry

/-- All factories of a registry build trees whose nodes have a property. -/
def Gives (registry : ComponentRegistry) (holds : NodeTree → Prop) : Prop :=
  ∀ entry ∈ registry.factories, ∀ attributes, IdM.Gives (entry.2 attributes) holds

theorem Gives.of_find? {registry : ComponentRegistry} {holds : NodeTree → Prop}
    (given : registry.Gives holds) {name : String} {factory : Factory}
    (found : registry.find? name = some factory) (attributes : Attributes) :
    IdM.Gives (factory attributes) holds := by
  obtain ⟨front, back, listed, _⟩ := List.lookup_eq_some_iff.mp found
  have entry : (name.toLower, factory) ∈ registry.factories := by
    rw [listed]
    simp
  exact given _ entry attributes

theorem Gives.register {registry : ComponentRegistry} {holds : NodeTree → Prop}
    (given : registry.Gives holds) (name : String) {factory : Factory}
    (factoryGiven : ∀ attributes, IdM.Gives (factory attributes) holds) :
    (registry.register name factory).Gives holds := by
  intro entry member
  rcases List.mem_cons.mp member with rfl | member
  · exact factoryGiven
  · exact given entry (List.mem_of_mem_filter member)

theorem gives_empty (holds : NodeTree → Prop) : empty.Gives holds := by
  intro entry member
  cases member

theorem gives_standard : standard.Gives SettledTree :=
  (((gives_empty _).register "Button" Factory.gives_button).register "Card"
    Factory.gives_card).register "Header" Factory.gives_header

end ComponentRegistry

/-! ### Markup -/

namespace Markup

variable {registry : ComponentRegistry} {holds : Node → Prop}

theorem gives_resolveTag (kept : Node.Kept holds) (given : registry.Gives (NodeTree.Every holds))
    (tag : OpeningTag) (offset : Nat) :
    BuildM.Gives (resolveTag registry tag offset) (NodeTree.Every holds) := by
  unfold resolveTag
  cases found : registry.find? tag.name with
  | some factory => exact BuildM.gives_lift (given.of_find? found tag.attributes)
  | none =>
    dsimp only
    by_cases isInclude : sameWord tag.name "include" = true
    · rw [if_pos isInclude]
      refine BuildM.gives_bind (BuildM.gives_lift (kept.anonymous .container)) fun node held => ?_
      exact BuildM.gives_pure ⟨held, trivial⟩
    · rw [if_neg isInclude]
      cases Kind.ofTag? tag.name with
      | none => exact BuildM.gives_throw _
      | some kind =>
        refine BuildM.gives_bind (BuildM.gives_lift (kept.anonymous kind)) fun blank heldBlank => ?_
        refine BuildM.gives_bind (BuildM.gives_lift (kept.gives_applyAll heldBlank _ _))
          fun node held => ?_
        exact BuildM.gives_pure ⟨held, trivial⟩

theorem every_withVerbatimText (kept : Node.Kept holds) {tree : NodeTree}
    (held : tree.Every holds) (text : List Char) : (withVerbatimText tree text).Every holds := by
  unfold withVerbatimText
  by_cases empty : text = []
  · rw [if_pos empty]
    exact held
  · rw [if_neg empty]
    cases tree with
    | mk node children => exact ⟨kept.text held.1 _, held.2⟩

mutual
theorem gives_buildElement (kept : Node.Kept holds) (given : registry.Gives (NodeTree.Every holds))
    (element : Element) :
    BuildM.Gives (buildElement registry element) (NodeTree.Every holds) := by
  match element with
  | .mk tag start content children =>
    rw [buildElement]
    refine BuildM.gives_bind (gives_resolveTag kept given tag start) fun tree held => ?_
    cases content with
    | none => exact BuildM.gives_pure held
    | some pieces =>
      dsimp only
      by_cases verbatim : isVerbatim tree.node.kind (contentText pieces) = true
      · rw [if_pos verbatim]
        exact BuildM.gives_pure (every_withVerbatimText kept held _)
      · rw [if_neg verbatim]
        refine BuildM.gives_bind (gives_buildElements kept given children)
          fun inside heldInside => ?_
        cases tree with
        | mk node own =>
          exact BuildM.gives_pure ⟨held.1, NodeTree.everyOf_append held.2 heldInside⟩

theorem gives_buildElements (kept : Node.Kept holds)
    (given : registry.Gives (NodeTree.Every holds)) (elements : List Element) :
    BuildM.Gives (buildElements registry elements) (NodeTree.EveryOf holds) := by
  match elements with
  | [] =>
    rw [buildElements]
    exact BuildM.gives_pure trivial
  | element :: rest =>
    rw [buildElements]
    refine BuildM.gives_bind (gives_buildElement kept given element) fun tree held => ?_
    refine BuildM.gives_bind (gives_buildElements kept given rest) fun trees heldRest => ?_
    exact BuildM.gives_pure ⟨held, heldRest⟩
end

theorem gives_parseTree (kept : Node.Kept holds) (given : registry.Gives (NodeTree.Every holds))
    (source : String) : BuildM.Gives (parseTree registry source) (NodeTree.Every holds) := by
  unfold parseTree
  cases strictPieces source.toList with
  | error tag => exact BuildM.gives_throw _
  | ok pieces =>
    dsimp only
    cases rootElement? pieces with
    | none => exact BuildM.gives_throw _
    | some element => exact gives_buildElement kept given element

end Markup

/-! ### Literals -/

namespace Literal

open SceneMarkup.Json

theorem gives_lift {α : Type} (result : Except LiteralError α) :
    BuildM.Gives (lift result) fun _ => True := by
  cases result with
  | error cause => exact BuildM.gives_throw _
  | ok value => exact BuildM.gives_pure trivial

theorem gives_buildNode_of_kept {holds : Node → Prop} (kept : Node.Kept holds)
    (members : List (String × Value)) : BuildM.Gives (buildNode members) holds := by
  refine BuildM.gives_bind (gives_lift _) fun kind _ => ?_
  refine BuildM.gives_bind (BuildM.gives_lift (kept.anonymous kind)) fun blank heldBlank => ?_
  exact BuildM.gives_lift (kept.gives_applyAll heldBlank _ _)

theorem gives_buildNode (members : List (String × Value)) :
    BuildM.Gives (buildNode members) Node.Settled :=
  gives_buildNode_of_kept Node.kept_settled members

mutual
/-- What the nodes of all literals have in common, all nodes of a tree built of one have. -/
theorem gives_build {holds : Node → Prop}
    (nodes : ∀ members, BuildM.Gives (buildNode members) holds) (value : Value) :
    BuildM.Gives (build value) (NodeTree.Every holds) := by
  match value with
  | .object members =>
    rw [build]
    refine BuildM.gives_bind (nodes members) fun node held => ?_
    split
    · exact BuildM.gives_throw _
    · rename_i values found
      refine BuildM.gives_bind (gives_buildAll nodes values) fun trees heldTrees => ?_
      exact BuildM.gives_pure ⟨held, heldTrees⟩
  | .null | .boolean _ | .number _ | .string _ | .array _ =>
    rw [build]
    · exact BuildM.gives_throw _
    · exact fun members => Value.noConfusion
termination_by sizeOf value
decreasing_by exact sizeOf_children (by assumption)

theorem gives_buildAll {holds : Node → Prop}
    (nodes : ∀ members, BuildM.Gives (buildNode members) holds) (values : List Value) :
    BuildM.Gives (buildAll values) (NodeTree.EveryOf holds) := by
  match values with
  | [] =>
    rw [buildAll]
    exact BuildM.gives_pure trivial
  | value :: rest =>
    rw [buildAll]
    refine BuildM.gives_bind (gives_build nodes value) fun tree held => ?_
    refine BuildM.gives_bind (gives_buildAll nodes rest) fun trees heldRest => ?_
    exact BuildM.gives_pure ⟨held, heldRest⟩
termination_by sizeOf values
end

theorem gives_parse {holds : Node → Prop}
    (nodes : ∀ members, BuildM.Gives (buildNode members) holds) (source : String) :
    BuildM.Gives (parse source) (NodeTree.Every holds) := by
  unfold parse
  cases read? source.toList with
  | none => exact BuildM.gives_throw _
  | some value => exact gives_build nodes value

end Literal

/-! ### Scenes -/

mutual
/-- A numbered tree still has the nodes of the tree it was made of. -/
theorem NumberedTree.toTree_ofTree (tree : NodeTree) (start : Nat) :
    (ofTree start tree).toTree = tree := by
  match tree with
  | .mk node children => rw [ofTree, toTree, toTrees_ofTrees]

theorem NumberedTree.toTrees_ofTrees (trees : List NodeTree) (start : Nat) :
    toTrees (ofTrees start trees) = trees := by
  match trees with
  | [] => rfl
  | tree :: rest => rw [ofTrees, toTrees, toTree_ofTree, toTrees_ofTrees]
end

theorem Scene.toTree_ofTree (tree : NodeTree) : (ofTree tree).toTree = tree :=
  NumberedTree.toTree_ofTree tree 0

namespace Engine

variable {engine : Engine}

theorem gives_unsupported : IdM.Gives unsupported SettledTree := by
  refine IdM.gives_bind (Node.gives_anonymous .container) fun panel settledPanel => ?_
  refine IdM.gives_bind (Node.gives_anonymous .text) fun text settledText => ?_
  have sizedPanel := settledPanel.withSize 400 300
  have sizedText := settledText.withSize (panel.withSize 400 300).width
    (panel.withSize 400 300).height
  exact IdM.gives_pure ⟨⟨sizedPanel.id, sizedPanel.sizes, sizedPanel.image, sizedPanel.names,
    sizedPanel.slider⟩, ⟨⟨sizedText.id, sizedText.sizes, sizedText.image, sizedText.names,
    sizedText.slider⟩, trivial⟩, trivial⟩

theorem gives_treeOf {holds : Node → Prop} (kept : Node.Kept holds)
    (given : engine.components.Gives (NodeTree.Every holds))
    (fallback : IdM.Gives unsupported (NodeTree.Every holds)) (content : String)
    (format : DocumentFormat) :
    BuildM.Gives (engine.treeOf content format) (NodeTree.Every holds) := by
  cases format with
  | markup => exact Markup.gives_parseTree kept given content
  | json => exact Literal.gives_parse (Literal.gives_buildNode_of_kept kept) content
  | other => exact BuildM.gives_lift fallback

/-- All nodes of the scenes of documents have a property that factories establish and reading
keeps. -/
theorem every_of_parse {holds : Node → Prop} (kept : Node.Kept holds)
    (given : engine.components.Gives (NodeTree.Every holds))
    (fallback : IdM.Gives unsupported (NodeTree.Every holds)) {content : String}
    {ledger after : IdLedger} {scene : Scene}
    (parsed : StateT.run (engine.parse content) ledger = (.ok scene, after)) :
    scene.toTree.Every holds := by
  unfold parse at parsed
  dsimp only at parsed
  generalize engine.expand content = expanded at parsed
  cases built : (engine.treeOf expanded (DocumentFormat.detect expanded)).outcome ledger with
  | mk result later =>
    unfold BuildM.outcome at built
    rw [StateT.run_bind, built] at parsed
    cases result with
    | error cause => cases parsed
    | ok tree =>
      cases parsed
      rw [Scene.toTree_ofTree]
      exact gives_treeOf kept given fallback expanded _ ledger tree later built

/-- The scenes of documents have settled nodes, where factories build settled nodes. -/
theorem settledTree_of_parse (given : engine.components.Gives SettledTree) {content : String}
    {ledger after : IdLedger} {scene : Scene}
    (parsed : StateT.run (engine.parse content) ledger = (.ok scene, after)) :
    SettledTree scene.toTree :=
  every_of_parse Node.kept_settled given gives_unsupported parsed

end Engine

end SceneMarkup
