import SceneMarkup.Markup.Tree
import SceneMarkup.Proofs.Node.TwoRuns
import SceneMarkup.Proofs.Scene.Arena
import SceneMarkup.Scene.Literal

/-!
Contract: reading a document does not depend on the documents read before it.

Owns:
- the trees that two runs of one document give, node by node along its elements or its members;
- the built-in factories, whose parts are named after the id of their root;
- the theorem that two runs end alike, for markup and for literals.

Does not own: which ids are generated.
-/

namespace SceneMarkup

/-! ### Statement -/

/-- A leaf that is named after the node above it. -/
def partOf (id : NodeId) (part : String × Node) : NodeTree :=
  .leaf (part.2.withId ⟨id.name ++ "_" ++ part.1⟩)

/-- The same parts below two nodes, named after the id of each. -/
def PartsAlike (id other : NodeId) (parts others : List NodeTree) : Prop :=
  ∃ named : List (String × Node), parts = named.map (partOf id) ∧ others = named.map (partOf other)

/-- The trees that one tag makes in two runs. -/
structure MadeAlike (chosen : Prop) (tree other : NodeTree) : Prop where
  top : tree.node.Alike chosen other.node
  parts : PartsAlike tree.node.id other.node.id tree.children other.children

/-- All factories of the registry are built-in ones, under whatever names. -/
def ComponentRegistry.BuiltIn (registry : ComponentRegistry) : Prop :=
  ∀ entry ∈ registry.factories, entry.2 ∈ [Factory.button, Factory.card, Factory.header]

namespace Markup

open SceneMarkup.Text

/-- A tag chooses the id of its node. An include that nothing has expanded ignores its
attributes. -/
def ChoosesId (registry : ComponentRegistry) (tag : OpeningTag) : Prop :=
  tag.attributes.ids ≠ [] ∧
    (registry.find? tag.name = none → sameWord tag.name "include" = false)

/-- The elements inside an element whose node has a kind; verbatim text has none. -/
def innerElements (kind : Kind) (content : Option (List Piece)) (children : List Element) :
    List Element :=
  match content with
  | none => []
  | some pieces => if isVerbatim kind (contentText pieces) then [] else children

mutual
/-- The trees that one element makes in two runs. -/
inductive ElementAlike (registry : ComponentRegistry) : Element → NodeTree → NodeTree → Prop
  | element {tag : OpeningTag} {start : Nat} {content : Option (List Piece)}
      {children : List Element} {tree other : NodeTree} {inside otherInside : List NodeTree}
      (made : MadeAlike (ChoosesId registry tag) tree other)
      (plain : registry.find? tag.name = none → tree.children = [])
      (below : ElementsAlike registry (innerElements tree.node.kind content children) inside
        otherInside) :
      ElementAlike registry (.mk tag start content children)
        (.mk tree.node (tree.children ++ inside)) (.mk other.node (other.children ++ otherInside))

inductive ElementsAlike (registry : ComponentRegistry) :
    List Element → List NodeTree → List NodeTree → Prop
  | nil : ElementsAlike registry [] [] []
  | cons {element : Element} {rest : List Element} {tree other : NodeTree}
      {trees others : List NodeTree} (first : ElementAlike registry element tree other)
      (later : ElementsAlike registry rest trees others) :
      ElementsAlike registry (element :: rest) (tree :: trees) (other :: others)
end

/-- The trees of one document in two runs. -/
def DocumentAlike (registry : ComponentRegistry) (source : String) (tree other : NodeTree) :
    Prop :=
  ∃ pieces element, strictPieces source.toList = .ok pieces ∧
    rootElement? pieces = some element ∧ ElementAlike registry element tree other

end Markup

namespace Literal

open SceneMarkup.Json

mutual
/-- The trees that one literal makes in two runs. -/
inductive ValueAlike : Value → NodeTree → NodeTree → Prop
  | object {members : List (String × Value)} {values : List Value} {node other : Node}
      {inside otherInside : List NodeTree}
      (made : node.Alike ((attributes members).ids ≠ []) other)
      (listed : children members = .ok values) (below : ValuesAlike values inside otherInside) :
      ValueAlike (.object members) (.mk node inside) (.mk other otherInside)

inductive ValuesAlike : List Value → List NodeTree → List NodeTree → Prop
  | nil : ValuesAlike [] [] []
  | cons {value : Value} {rest : List Value} {tree other : NodeTree}
      {trees others : List NodeTree} (first : ValueAlike value tree other)
      (later : ValuesAlike rest trees others) :
      ValuesAlike (value :: rest) (tree :: trees) (other :: others)
end

/-- The trees of one text in two runs. -/
def DocumentAlike (source : String) (tree other : NodeTree) : Prop :=
  ∃ value, read? source.toList = some value ∧ ValueAlike value tree other

end Literal

/-! ### Factories -/

/-- Attributes of other names can be left out without leaving out ids. -/
theorem Attributes.ids_except (attributes : Attributes) {names : List String}
    (others : "id" ∉ names.map canonicalName) : (attributes.except names).ids = attributes.ids := by
  rw [ids, ids, Attributes.except, List.filterMap_filter]
  apply List.filterMap_congr
  intro written _
  by_cases isId : canonicalName written.name = "id"
  · have kept : (names.map canonicalName).contains (canonicalName written.name) = false := by
      rw [isId]
      simpa using others
    rw [kept]
    rfl
  · rw [if_neg isId, ite_self]

theorem PartsAlike.append {id other : NodeId} {parts others more moreOthers : List NodeTree}
    (first : PartsAlike id other parts others) (second : PartsAlike id other more moreOthers) :
    PartsAlike id other (parts ++ more) (others ++ moreOthers) := by
  obtain ⟨named, rfl, rfl⟩ := first
  obtain ⟨namedLater, rfl, rfl⟩ := second
  exact ⟨named ++ namedLater, List.map_append.symm, List.map_append.symm⟩

namespace Factory

/-- One part below two nodes. -/
def PartAlike (id other : NodeId) (part otherPart : NodeTree) : Prop :=
  PartsAlike id other [part] [otherPart]

/-- A label is the same for two nodes that differ in their ids only. -/
theorem relates_label (parent : Node) (id : NodeId) (part text : String) :
    IdM.Relates (fun label other => ∃ leaf : Node,
        label = leaf.withId ⟨parent.id.name ++ "_" ++ part⟩ ∧
        other = leaf.withId ⟨id.name ++ "_" ++ part⟩)
      (label parent part text) (label (parent.withId id) part text) :=
  fun _ _ => ⟨{ Node.ofKind parent.id .text with text }, rfl, rfl⟩

theorem relates_optional (text : Option String) {id other : NodeId}
    {build buildOther : String → IdM NodeTree}
    (related : ∀ text, IdM.Relates (PartAlike id other) (build text) (buildOther text)) :
    IdM.Relates (PartsAlike id other) (optional text build) (optional text buildOther) := by
  cases text with
  | none => exact IdM.relates_pure ⟨[], rfl, rfl⟩
  | some text =>
    exact IdM.relates_bind (related text) fun _ _ alike => IdM.relates_pure alike

theorem relates_cardTitle (card : Node) (id : NodeId) (innerWidth : Float32) (title : String) :
    IdM.Relates (PartAlike card.id id) (cardTitle card innerWidth title)
      (cardTitle (card.withId id) innerWidth title) := by
  refine IdM.relates_bind (relates_label card id "title" title) ?_
  rintro _ _ ⟨leaf, rfl, rfl⟩
  exact IdM.relates_pure ⟨[("title", { leaf.withSize innerWidth 24 with
    x := card.layout.padding
    y := card.layout.padding
    style.fontSize := 18
    style.textColor := some ink })], rfl, rfl⟩

theorem relates_cardSubtitle (card : Node) (id : NodeId) (innerWidth : Float32)
    (subtitle : String) :
    IdM.Relates (PartAlike card.id id) (cardSubtitle card innerWidth subtitle)
      (cardSubtitle (card.withId id) innerWidth subtitle) := by
  refine IdM.relates_bind (relates_label card id "subtitle" subtitle) ?_
  rintro _ _ ⟨leaf, rfl, rfl⟩
  exact IdM.relates_pure ⟨[("subtitle", { leaf.withSize innerWidth 20 with
    x := card.layout.padding
    y := card.layout.padding + 28
    style.textColor := some muted })], rfl, rfl⟩

theorem relates_headerTitle (header : Node) (id : NodeId) (title : String) :
    IdM.Relates (PartAlike header.id id) (headerTitle header title)
      (headerTitle (header.withId id) title) := by
  refine IdM.relates_bind (relates_label header id "title" title) ?_
  rintro _ _ ⟨leaf, rfl, rfl⟩
  exact IdM.relates_pure ⟨[("title",
    { leaf.withSize (clampedSize (header.width - 40)) header.height with
      x := 20
      style.fontSize := 20
      style.textColor := some .white
      layout.align := .center })], rfl, rfl⟩

/-- The label of a button. -/
def buttonParts (attributes : Attributes) (node : Node) : IdM (List NodeTree) := do
  let caption :=
    ((attributes.nonEmpty? "label").or (attributes.nonEmpty? "text")).getD "Button"
  let text := (← label node "label" caption).withSize node.width node.height
  return [.leaf { text with
    style.textColor := node.style.textColor
    style.fontSize := node.style.fontSize
    layout.align := .center
    layout.justify := .center }]

/-- The rows of a card. -/
def cardParts (attributes : Attributes) (node : Node) : IdM (List NodeTree) := do
  let innerWidth := clampedSize (node.width - 2 * node.layout.padding)
  let title ← optional (attributes.nonEmpty? "title") (cardTitle node innerWidth)
  let subtitle ← optional (attributes.nonEmpty? "subtitle") (cardSubtitle node innerWidth)
  return title ++ subtitle

/-- A factory first makes a node of the attributes that it does not consume itself, and then the
parts of that node. -/
def assemble (kind : Kind) (edit : Node → Node) (consumed : List String)
    (parts : Node → IdM (List NodeTree)) : Factory := fun attributes => do
  let node ← (edit (← Node.anonymous kind)).applyAll .argb (attributes.except consumed)
  return .mk node (← parts node)

theorem relates_buttonParts (attributes : Attributes) (node : Node) (id : NodeId) :
    IdM.Relates (PartsAlike node.id id) (buttonParts attributes node)
      (buttonParts attributes (node.withId id)) := by
  refine IdM.relates_bind (relates_label node id "label" _) ?_
  rintro _ _ ⟨leaf, rfl, rfl⟩
  exact IdM.relates_pure ⟨[("label", { leaf.withSize node.width node.height with
    style.textColor := node.style.textColor
    style.fontSize := node.style.fontSize
    layout.align := .center
    layout.justify := .center })], rfl, rfl⟩

theorem relates_cardParts (attributes : Attributes) (node : Node) (id : NodeId) :
    IdM.Relates (PartsAlike node.id id) (cardParts attributes node)
      (cardParts attributes (node.withId id)) := by
  refine IdM.relates_bind (relates_optional _ (relates_cardTitle node id _)) fun _ _ first => ?_
  refine IdM.relates_bind (relates_optional _ (relates_cardSubtitle node id _))
    fun _ _ second => ?_
  exact IdM.relates_pure (first.append second)

/-- No factory consumes the id, so two runs differ at most in an id that no attribute names. -/
theorem relates_assemble (kind : Kind) {edit : Node → Node}
    (kept : ∀ node id, edit (node.withId id) = (edit node).withId id) {consumed : List String}
    (others : "id" ∉ consumed.map canonicalName) {parts : Node → IdM (List NodeTree)}
    (related : ∀ node id, IdM.Relates (PartsAlike node.id id) (parts node)
      (parts (node.withId id))) (attributes : Attributes) :
    IdM.Relates (MadeAlike (attributes.ids ≠ [])) (assemble kind edit consumed parts attributes)
      (assemble kind edit consumed parts attributes) := by
  refine IdM.relates_bind (Node.relates_anonymous kind) fun blank otherBlank alike => ?_
  have applied := (alike.edit edit kept).relates_applyAll .argb (attributes.except consumed)
  rw [attributes.ids_except others] at applied
  refine IdM.relates_bind applied fun node other top => ?_
  have partsAlike := related node other.id
  rw [← top.fields] at partsAlike
  exact IdM.relates_bind partsAlike fun _ _ same => IdM.relates_pure ⟨top, same⟩

theorem relates_button (attributes : Attributes) :
    IdM.Relates (MadeAlike (attributes.ids ≠ [])) (button attributes) (button attributes) := by
  have assembled : button attributes = assemble .button (fun node => { node.withSize 120 40 with
      style.background := some primary
      style.cornerRadius := 6
      style.textColor := some .white }) ["label", "text"] (buttonParts attributes) attributes := rfl
  rw [assembled]
  exact relates_assemble .button (fun _ _ => rfl) (by decide) (relates_buttonParts attributes) _

theorem relates_card (attributes : Attributes) :
    IdM.Relates (MadeAlike (attributes.ids ≠ [])) (card attributes) (card attributes) := by
  have assembled : card attributes = assemble .container (fun node => { node.withSize 300 200 with
      style.background := some .white
      style.borderColor := some borderGray
      style.borderWidth := 1
      style.cornerRadius := 8
      layout.padding := 16 }) ["title", "subtitle"] (cardParts attributes) attributes := rfl
  rw [assembled]
  exact relates_assemble .container (fun _ _ => rfl) (by decide) (relates_cardParts attributes) _

theorem relates_header (attributes : Attributes) :
    IdM.Relates (MadeAlike (attributes.ids ≠ [])) (header attributes) (header attributes) := by
  have assembled : header attributes = assemble .container (fun node =>
      { node.withSize 800 60 with style.background := some headerBackground }) ["title"]
      (fun node => optional (attributes.nonEmpty? "title") (headerTitle node)) attributes := rfl
  rw [assembled]
  exact relates_assemble .container (fun _ _ => rfl) (by decide)
    (fun node id => relates_optional _ (relates_headerTitle node id)) _

end Factory

namespace ComponentRegistry

theorem BuiltIn.relates_of_find? {registry : ComponentRegistry} (builtIn : registry.BuiltIn)
    {name : String} {factory : Factory} (found : registry.find? name = some factory)
    (attributes : Attributes) :
    IdM.Relates (MadeAlike (attributes.ids ≠ [])) (factory attributes) (factory attributes) := by
  obtain ⟨front, back, listed, _⟩ := List.lookup_eq_some_iff.mp found
  have entry : (name.toLower, factory) ∈ registry.factories := by
    rw [listed]
    simp
  have known := builtIn _ entry
  simp only [List.mem_cons, List.not_mem_nil, or_false] at known
  obtain rfl | rfl | rfl := known
  · exact Factory.relates_button attributes
  · exact Factory.relates_card attributes
  · exact Factory.relates_header attributes

theorem builtIn_empty : empty.BuiltIn := by
  intro entry member
  cases member

theorem BuiltIn.register {registry : ComponentRegistry} (builtIn : registry.BuiltIn)
    (name : String) {factory : Factory}
    (known : factory ∈ [Factory.button, Factory.card, Factory.header]) :
    (registry.register name factory).BuiltIn := by
  intro entry member
  rcases List.mem_cons.mp member with rfl | member
  · exact known
  · exact builtIn entry (List.mem_of_mem_filter member)

theorem builtIn_standard : standard.BuiltIn :=
  ((builtIn_empty.register "Button" (by simp)).register "Card" (by simp)).register "Header"
    (by simp)

end ComponentRegistry

/-! ### Markup -/

theorem MadeAlike.mono {chosen weaker : Prop} {tree other : NodeTree}
    (made : MadeAlike chosen tree other) (implied : weaker → chosen) :
    MadeAlike weaker tree other :=
  ⟨⟨made.top.fields, fun named => made.top.id (implied named)⟩, made.parts⟩

theorem madeAlike_leaf {chosen : Prop} {node other : Node} (alike : node.Alike chosen other) :
    MadeAlike chosen (.leaf node) (.leaf other) :=
  ⟨alike, [], rfl, rfl⟩

namespace Markup

open SceneMarkup.Text

variable {registry : ComponentRegistry}

theorem relates_resolveTag (builtIn : registry.BuiltIn) (tag : OpeningTag) (offset : Nat) :
    BuildM.Relates (fun tree other => MadeAlike (ChoosesId registry tag) tree other ∧
        (registry.find? tag.name = none → tree.children = []))
      (resolveTag registry tag offset) (resolveTag registry tag offset) := by
  unfold resolveTag
  cases found : registry.find? tag.name with
  | some factory =>
    have made := builtIn.relates_of_find? found tag.attributes
    exact BuildM.relates_lift fun ledger other =>
      ⟨(made ledger other).mono And.left, fun absent => by cases absent⟩
  | none =>
    dsimp only
    by_cases isInclude : sameWord tag.name "include" = true
    · rw [if_pos isInclude]
      refine BuildM.relates_bind (BuildM.relates_lift (Node.relates_anonymous .container))
        fun node other alike => BuildM.relates_pure ⟨?_, fun _ => rfl⟩
      refine (madeAlike_leaf alike).mono fun chooses => ?_
      rw [chooses.2 found] at isInclude
      cases isInclude
    · rw [if_neg isInclude]
      cases Kind.ofTag? tag.name with
      | none => exact BuildM.relates_throw _
      | some kind =>
        refine BuildM.relates_bind (BuildM.relates_lift (Node.relates_anonymous kind))
          fun blank otherBlank alike => ?_
        refine BuildM.relates_bind (BuildM.relates_lift (alike.relates_applyAll _ _))
          fun node other same => BuildM.relates_pure ⟨?_, fun _ => rfl⟩
        exact (madeAlike_leaf same).mono And.left

/-- Verbatim text is set alike at the top of two trees. -/
theorem madeAlike_withVerbatimText {chosen : Prop} {tree other : NodeTree}
    (made : MadeAlike chosen tree other) (text : List Char) :
    MadeAlike chosen (withVerbatimText tree text) (withVerbatimText other text) := by
  unfold withVerbatimText
  by_cases empty : text = []
  · rw [if_pos empty, if_pos empty]
    exact made
  · rw [if_neg empty, if_neg empty]
    exact ⟨made.top.edit (fun node => { node with text := String.ofList text }) fun _ _ => rfl,
      made.parts⟩

theorem kind_withVerbatimText (tree : NodeTree) (text : List Char) :
    (withVerbatimText tree text).node.kind = tree.node.kind := by
  unfold withVerbatimText
  split <;> rfl

theorem children_withVerbatimText (tree : NodeTree) (text : List Char) :
    (withVerbatimText tree text).children = tree.children := by
  unfold withVerbatimText
  split <;> rfl

/-- An element in which no elements count makes the trees of its tag. -/
theorem elementAlike_of_empty {tag : OpeningTag} {start : Nat} {content : Option (List Piece)}
    {children : List Element} {tree other : NodeTree}
    (made : MadeAlike (ChoosesId registry tag) tree other)
    (plain : registry.find? tag.name = none → tree.children = [])
    (empty : innerElements tree.node.kind content children = []) :
    ElementAlike registry (.mk tag start content children) tree other := by
  have below : ElementsAlike registry (innerElements tree.node.kind content children) [] [] := by
    rw [empty]
    exact .nil
  have alike : ElementAlike registry (.mk tag start content children) _ _ :=
    .element made plain below
  cases tree with
  | mk node parts =>
    cases other with
    | mk otherNode otherParts =>
      simpa only [NodeTree.node, NodeTree.children, List.append_nil] using alike

mutual
theorem relates_buildElement (builtIn : registry.BuiltIn) (element : Element) :
    BuildM.Relates (ElementAlike registry element) (buildElement registry element)
      (buildElement registry element) := by
  match element with
  | .mk tag start content children =>
    rw [buildElement]
    refine BuildM.relates_bind (relates_resolveTag builtIn tag start) fun tree other alike => ?_
    obtain ⟨made, plain⟩ := alike
    cases content with
    | none => exact BuildM.relates_pure (elementAlike_of_empty made plain rfl)
    | some pieces =>
      dsimp only
      rw [made.top.kind]
      by_cases verbatim : isVerbatim tree.node.kind (contentText pieces) = true
      · rw [if_pos verbatim, if_pos verbatim]
        refine BuildM.relates_pure (elementAlike_of_empty (madeAlike_withVerbatimText made _)
          (by rwa [children_withVerbatimText]) ?_)
        rw [kind_withVerbatimText]
        exact if_pos verbatim
      · rw [if_neg verbatim, if_neg verbatim]
        refine BuildM.relates_bind (relates_buildElements builtIn children)
          fun inside otherInside below => BuildM.relates_pure (.element made plain ?_)
        rw [innerElements, if_neg verbatim]
        exact below

theorem relates_buildElements (builtIn : registry.BuiltIn) (elements : List Element) :
    BuildM.Relates (ElementsAlike registry elements) (buildElements registry elements)
      (buildElements registry elements) := by
  match elements with
  | [] =>
    rw [buildElements]
    exact BuildM.relates_pure .nil
  | element :: rest =>
    rw [buildElements]
    refine BuildM.relates_bind (relates_buildElement builtIn element) fun _ _ first => ?_
    refine BuildM.relates_bind (relates_buildElements builtIn rest) fun _ _ later => ?_
    exact BuildM.relates_pure (.cons first later)
end

theorem relates_parseTree (builtIn : registry.BuiltIn) (source : String) :
    BuildM.Relates (DocumentAlike registry source) (parseTree registry source)
      (parseTree registry source) := by
  unfold parseTree
  cases lexed : strictPieces source.toList with
  | error tag => exact BuildM.relates_throw _
  | ok pieces =>
    dsimp only
    cases root : rootElement? pieces with
    | none => exact BuildM.relates_throw _
    | some element =>
      exact (relates_buildElement builtIn element).mono fun _ _ alike =>
        ⟨pieces, element, lexed, root, alike⟩

end Markup

/-! ### Literals -/

namespace Literal

open SceneMarkup.Json

theorem relates_lift {α : Type} (result : Except LiteralError α) :
    BuildM.Relates (fun value other => value = other) (lift result)
      (lift result) := by
  cases result with
  | error cause => exact BuildM.relates_throw _
  | ok value => exact BuildM.relates_pure rfl

theorem relates_buildNode (members : List (String × Value)) :
    BuildM.Relates (Node.Alike ((attributes members).ids ≠ [])) (buildNode members)
      (buildNode members) := by
  refine BuildM.relates_bind (relates_lift (kind members)) ?_
  rintro known _ rfl
  refine BuildM.relates_bind (BuildM.relates_lift (Node.relates_anonymous known))
    fun blank otherBlank alike => ?_
  have applied := alike.relates_applyAll .rgba ((attributes members).except structuralNames)
  rw [(attributes members).ids_except (by decide)] at applied
  exact BuildM.relates_lift applied

mutual
theorem relates_build (value : Value) :
    BuildM.Relates (ValueAlike value) (build value) (build value) := by
  match value with
  | .object members =>
    rw [build]
    refine BuildM.relates_bind (relates_buildNode members) fun node other alike => ?_
    split
    · exact BuildM.relates_throw _
    · rename_i values found
      refine BuildM.relates_bind (relates_buildAll values) fun inside otherInside below => ?_
      exact BuildM.relates_pure (.object alike found below)
  | .null | .boolean _ | .number _ | .string _ | .array _ =>
    rw [build]
    · exact BuildM.relates_throw _
    · exact fun members => Value.noConfusion
termination_by sizeOf value
decreasing_by exact sizeOf_children (by assumption)

theorem relates_buildAll (values : List Value) :
    BuildM.Relates (ValuesAlike values) (buildAll values) (buildAll values) := by
  match values with
  | [] =>
    rw [buildAll]
    exact BuildM.relates_pure .nil
  | value :: rest =>
    rw [buildAll]
    refine BuildM.relates_bind (relates_build value) fun _ _ first => ?_
    refine BuildM.relates_bind (relates_buildAll rest) fun _ _ later => ?_
    exact BuildM.relates_pure (.cons first later)
termination_by sizeOf values
end

theorem relates_parse (source : String) :
    BuildM.Relates (DocumentAlike source) (parse source) (parse source) := by
  unfold parse
  cases read : read? source.toList with
  | none => exact BuildM.relates_throw _
  | some value => exact (relates_build value).mono fun _ _ alike => ⟨value, read, alike⟩

end Literal

/-! ### Documents -/

/-- Whatever names were taken before, a document in markup or a literal ends with the same error, or
with trees that differ at most in ids: those of nodes whose id was generated and of their parts. -/
theorem parsing_ignores_earlier_names {registry : ComponentRegistry} (builtIn : registry.BuiltIn)
    (source : String) (ledger other : IdLedger) :
    EndAlike (Markup.DocumentAlike registry source)
        ((Markup.parseTree registry source).outcome ledger).1
        ((Markup.parseTree registry source).outcome other).1 ∧
      EndAlike (Literal.DocumentAlike source) ((Literal.parse source).outcome ledger).1
        ((Literal.parse source).outcome other).1 :=
  ⟨Markup.relates_parseTree builtIn source ledger other,
    Literal.relates_parse source ledger other⟩

/-- A page with two cards, of which one has an id. -/
def twoCards : String := "<view><Card title='T'/><Card id='c' title='T'/></view>"

/-- The generated ids of two runs are numbered differently, and with them the title of a card. The
ids of the other card are the same. -/
theorem parsing_ignores_earlier_names_of_cards :
    ComponentRegistry.standard.BuiltIn ∧
      EndAlike (Markup.DocumentAlike .standard twoCards)
        ((Markup.parseTree .standard twoCards).outcome .empty).1
        ((Markup.parseTree .standard twoCards).outcome ⟨["container_1"], fun _ => 1⟩).1 ∧
      ((Markup.parseTree .standard twoCards).outcome .empty).1.toOption.map NodeTree.ids =
        some [⟨"container_0"⟩, ⟨"container_1"⟩, ⟨"container_1_title"⟩, ⟨"c"⟩, ⟨"c_title"⟩] ∧
      ((Markup.parseTree .standard twoCards).outcome
          ⟨["container_1"], fun _ => 1⟩).1.toOption.map NodeTree.ids =
        some [⟨"container_2"⟩, ⟨"container_3"⟩, ⟨"container_3_title"⟩, ⟨"c"⟩, ⟨"c_title"⟩] :=
  ⟨ComponentRegistry.builtIn_standard,
    (parsing_ignores_earlier_names ComponentRegistry.builtIn_standard _ _ _).1,
    by decide +kernel, by decide +kernel⟩

/-- An include that nothing has expanded gets another id when it is read again, though it has the
attribute `id`. -/
theorem include_id_differs_between_runs :
    ∃ pieces ∈ (Markup.strictPieces "<include id='a'/>".toList).toOption,
      ∃ element ∈ Markup.rootElement? pieces, element.tag.attributes.ids = [⟨"a"⟩] ∧
        ∃ tree ∈ ((Markup.parseTree .standard "<include id='a'/>").outcome .empty).1.toOption,
          ∃ other ∈ ((Markup.parseTree .standard "<include id='a'/>").outcome
              ((Markup.parseTree .standard "<include id='a'/>").outcome .empty).2).1.toOption,
            tree.node.id ≠ other.node.id := by
  decide +kernel

end SceneMarkup
