import SceneMarkup.Proofs.Document.Independence
import SceneMarkup.Proofs.Node.Fields
import SceneMarkup.Proofs.Number.Defined
import SceneMarkup.Proofs.Scene.FiniteLiteral
import SceneMarkup.Proofs.Scene.Lookup

/-!
Contract: sizes are never negative, and all quantities of nodes are numbers.

Owns:
- `Node.Measured`, what is certain of the quantities of a node;
- `Scene.Reached`, the scenes that documents and changes of theirs lead to;
- the numbers that factories compute, and those that attributes and sizes leave in a node;
- the theorem that all nodes of such scenes are measured.

Does not own: infinite quantities, which sizes set by an application may be.
-/

namespace SceneMarkup

open SceneMarkup.Number

/-! ### Statement -/

/-- A node whose sizes are no less than zero and whose quantities are all defined. -/
structure Node.Measured (node : Node) : Prop where
  nonnegative : ∀ field : SizeField, 0 ≤ node.sizeAt field
  sizes : ∀ field : SizeField, (node.sizeAt field).isNaN = false
  numbers : ∀ field : NumberField, (node.numberAt field).isNaN = false

/-- Trees read from markup or from literals, and their parts. -/
inductive NodeTree.Parsed : NodeTree → Prop where
  | markup {registry : ComponentRegistry} (builtIn : registry.BuiltIn) {source : String}
      {ledger after : IdLedger} {tree : NodeTree}
      (parsed : (Markup.parseTree registry source).outcome ledger = (.ok tree, after)) :
      Parsed tree
  | literal {source : String} {ledger after : IdLedger} {tree : NodeTree}
      (parsed : (Literal.parse source).outcome ledger = (.ok tree, after)) : Parsed tree
  | part {node : Node} {children : List NodeTree} (whole : Parsed (.mk node children))
      {tree : NodeTree} (member : tree ∈ children) : Parsed tree

namespace Scene

/-- Scenes that are read from documents with built-in factories and changed afterwards: trees are
added, attributes of any name and value are applied, and sizes are set to any value. -/
inductive Reached : Scene → Prop where
  | document {engine : Engine} (builtIn : engine.components.BuiltIn) {content : String}
      {ledger after : IdLedger} {scene : Scene}
      (parsed : StateT.run (engine.parse content) ledger = (.ok scene, after)) : Reached scene
  | tree {tree : NodeTree} (parsed : tree.Parsed) : Reached (.ofTree tree)
  | treeAdded {scene : Scene} (earlier : Reached scene) (parent : Nat) {tree : NodeTree}
      (parsed : tree.Parsed) : Reached (scene.addTree parent tree)
  | applied {scene : Scene} (earlier : Reached scene) (number : Nat) (layout : HexLayout)
      (written : Attribute) :
      Reached (scene.change number fun node => node.bindAll layout [written])
  | resized {scene : Scene} (earlier : Reached scene) (number : Nat) (field : SizeField)
      (value : Float32) :
      Reached (scene.change number fun node => node.assign (.size field value))

end Scene

/-! ### Numbers of nodes -/

namespace Node

/-- A node whose quantities other than sizes are all defined. -/
def Numeric (node : Node) : Prop :=
  ∀ field : NumberField, (node.numberAt field).isNaN = false

/-- The numbers that new nodes have and that built-in factories write. -/
theorem isNaN_constants : ∀ number ∈ [(0 : Float32), 16, 20, 100], number.isNaN = false := by
  decide

theorem numeric_ofKind (id : NodeId) (kind : Kind) : (ofKind id kind).Numeric := by
  intro field
  cases field with
  | max => exact isNaN_constants 100 (by simp)
  | _ => exact isNaN_constants 0 (by simp)

theorem numberAt_setNumber (node : Node) (field other : NumberField) (value : Float32) :
    (node.setNumber value field).numberAt other =
      if other = field then value else node.numberAt other := by
  cases field <;> cases other <;> rfl

/-- Only assignments of numbers touch numbers. -/
theorem numberAt_assign_of_ne (node : Node) {made : Assignment} (field : NumberField)
    (other : ∀ assigned value, made ≠ .number assigned value) :
    (node.assign made).numberAt field = node.numberAt field := by
  cases made with
  | id => rfl
  | number assigned value => exact absurd rfl (other assigned value)
  | _ assigned => cases assigned <;> cases field <;> rfl

namespace Numeric

variable {node : Node}

theorem of_same (numeric : node.Numeric) {other : Node}
    (same : ∀ field, other.numberAt field = node.numberAt field) : other.Numeric := by
  intro field
  rw [same]
  exact numeric field

theorem setNumber (numeric : node.Numeric) {value : Float32} (known : value.isNaN = false)
    (field : NumberField) : (node.setNumber value field).Numeric := by
  intro other
  rw [numberAt_setNumber]
  by_cases same : other = field
  · rw [if_pos same]
    exact known
  · rw [if_neg same]
    exact numeric other

/-- A finite number that is assigned leaves all numbers defined. -/
theorem assign (numeric : node.Numeric) {made : Assignment}
    (fits : ∀ field value, made = .number field value → isFiniteNumber value = true) :
    (node.assign made).Numeric := by
  cases made with
  | number field value =>
    exact numeric.setNumber (isNaN_of_isFiniteNumber (fits field value rfl)) field
  | _ => exact numeric.of_same fun field =>
      numberAt_assign_of_ne node field fun _ _ same => by cases same

end Numeric

end Node

/-- The numbers that attributes assign are finite. -/
theorem Attributes.isFiniteNumber_of_mem_assignments {kind : Kind} {layout : HexLayout}
    {attributes : Attributes} {field : NumberField} {value : Float32}
    (member : .number field value ∈ attributes.assignments kind layout) :
    isFiniteNumber value = true := by
  obtain ⟨written, _, assigned⟩ := List.mem_filterMap.mp member
  obtain ⟨property, _, read⟩ := Attributes.exists_read_of_assigned? assigned
  exact Binding.finite_of_read read

namespace Node

theorem Numeric.bindAll {node : Node} (numeric : node.Numeric) (layout : HexLayout)
    (attributes : Attributes) : (node.bindAll layout attributes).Numeric := by
  rw [bindAll_eq_assignAll]
  refine List.foldlRecOn _ _ numeric fun _ held made member => Numeric.assign held ?_
  rintro field value rfl
  exact Attributes.isFiniteNumber_of_mem_assignments member

theorem kept_numeric : Kept Numeric where
  anonymous kind _ := numeric_ofKind _ kind
  bindAll numeric layout attributes := numeric.bindAll layout attributes
  text numeric _ := numeric.of_same fun field => by cases field <;> rfl

end Node

/-! ### Factories -/

abbrev NumericTree (tree : NodeTree) : Prop := tree.Every Node.Numeric

namespace Factory

open Node (isNaN_constants)

theorem gives_numeric_label (parent : Node) (part text : String) :
    IdM.Gives (label parent part text) Node.Numeric := by
  intro ledger
  have made := Node.numeric_ofKind ⟨parent.id.name ++ "_" ++ part⟩ .text
  exact made.of_same fun field => by cases field <;> rfl

theorem gives_numeric_button (attributes : Attributes) :
    IdM.Gives (button attributes) NumericTree := by
  refine IdM.gives_bind (Node.kept_numeric.anonymous .button) fun blank numeric => ?_
  have styled : Node.Numeric { (blank.withSize 120 40) with
      style.background := some primary, style.cornerRadius := 6,
      style.textColor := some .white } := numeric.of_same fun field => by cases field <;> rfl
  refine IdM.gives_bind (Node.kept_numeric.gives_applyAll styled _ _) fun node numericNode => ?_
  refine IdM.gives_bind (gives_numeric_label node "label" _) fun text caption => ?_
  exact IdM.gives_pure
    ⟨numericNode, ⟨caption.of_same fun field => by cases field <;> rfl, trivial⟩, trivial⟩

/-- The title stands at the padding of the card. -/
theorem gives_numeric_cardTitle {card : Node} (numeric : card.Numeric) (innerWidth : Float32)
    (title : String) : IdM.Gives (cardTitle card innerWidth title) NumericTree := by
  refine IdM.gives_bind (gives_numeric_label card "title" title) fun text row => ?_
  have placed := (row.setNumber (numeric .padding) .x).setNumber (numeric .padding) .y
  exact IdM.gives_pure ⟨placed.of_same fun field => by cases field <;> rfl, trivial⟩

/-- The subtitle stands below the title, by a finite distance. -/
theorem gives_numeric_cardSubtitle {card : Node} (numeric : card.Numeric) (innerWidth : Float32)
    (subtitle : String) : IdM.Gives (cardSubtitle card innerWidth subtitle) NumericTree := by
  refine IdM.gives_bind (gives_numeric_label card "subtitle" subtitle) fun text row => ?_
  have distance : (28 : Float32).isFinite = true := by decide
  have below : (card.layout.padding + 28).isNaN = false := isNaN_add (numeric .padding) distance
  have placed := (row.setNumber (numeric .padding) .x).setNumber below .y
  exact IdM.gives_pure ⟨placed.of_same fun field => by cases field <;> rfl, trivial⟩

theorem gives_numeric_card (attributes : Attributes) : IdM.Gives (card attributes) NumericTree := by
  refine IdM.gives_bind (Node.kept_numeric.anonymous .container) fun blank numeric => ?_
  have padded : Node.Numeric { (blank.withSize 300 200) with
      style.background := some .white, style.borderColor := some borderGray,
      style.borderWidth := 1, style.cornerRadius := 8, layout.padding := 16 } :=
    (numeric.setNumber (isNaN_constants 16 (by simp)) .padding).of_same
      fun field => by cases field <;> rfl
  refine IdM.gives_bind (Node.kept_numeric.gives_applyAll padded _ _) fun node numericNode => ?_
  refine IdM.gives_bind (gives_optional _ (gives_numeric_cardTitle numericNode _))
    fun title first => ?_
  refine IdM.gives_bind (gives_optional _ (gives_numeric_cardSubtitle numericNode _))
    fun subtitle second => ?_
  exact IdM.gives_pure ⟨numericNode, NodeTree.everyOf_append first second⟩

theorem gives_numeric_headerTitle (header : Node) (title : String) :
    IdM.Gives (headerTitle header title) NumericTree := by
  refine IdM.gives_bind (gives_numeric_label header "title" title) fun text row => ?_
  have placed := row.setNumber (isNaN_constants 20 (by simp)) .x
  exact IdM.gives_pure ⟨placed.of_same fun field => by cases field <;> rfl, trivial⟩

theorem gives_numeric_header (attributes : Attributes) :
    IdM.Gives (header attributes) NumericTree := by
  refine IdM.gives_bind (Node.kept_numeric.anonymous .container) fun blank numeric => ?_
  have styled : Node.Numeric { (blank.withSize 800 60) with
      style.background := some headerBackground } :=
    numeric.of_same fun field => by cases field <;> rfl
  refine IdM.gives_bind (Node.kept_numeric.gives_applyAll styled _ _) fun node numericNode => ?_
  refine IdM.gives_bind (gives_optional _ (gives_numeric_headerTitle node)) fun title row => ?_
  exact IdM.gives_pure ⟨numericNode, row⟩

end Factory

theorem Engine.gives_numeric_unsupported : IdM.Gives unsupported NumericTree := by
  refine IdM.gives_bind (Node.kept_numeric.anonymous .container) fun panel top => ?_
  refine IdM.gives_bind (Node.kept_numeric.anonymous .text) fun text caption => ?_
  exact IdM.gives_pure ⟨top.of_same fun field => by cases field <;> rfl,
    ⟨caption.of_same fun field => by cases field <;> rfl, trivial⟩, trivial⟩

/-! ### Registries -/

namespace ComponentRegistry

/-- What the built-in factories establish, a registry of them establishes under any names. -/
theorem BuiltIn.gives {holds : NodeTree → Prop} {registry : ComponentRegistry}
    (builtIn : registry.BuiltIn)
    (button : ∀ attributes, IdM.Gives (Factory.button attributes) holds)
    (card : ∀ attributes, IdM.Gives (Factory.card attributes) holds)
    (header : ∀ attributes, IdM.Gives (Factory.header attributes) holds) :
    registry.Gives holds := by
  intro entry member
  have known := builtIn entry member
  simp only [List.mem_cons, List.not_mem_nil, or_false] at known
  rcases known with same | same | same
  · rw [same]
    exact button
  · rw [same]
    exact card
  · rw [same]
    exact header

theorem BuiltIn.gives_settled {registry : ComponentRegistry} (builtIn : registry.BuiltIn) :
    registry.Gives SettledTree :=
  builtIn.gives Factory.gives_button Factory.gives_card Factory.gives_header

theorem BuiltIn.gives_numeric {registry : ComponentRegistry} (builtIn : registry.BuiltIn) :
    registry.Gives NumericTree :=
  builtIn.gives Factory.gives_numeric_button Factory.gives_numeric_card
    Factory.gives_numeric_header

end ComponentRegistry

/-! ### Sizes of nodes -/

namespace Node

def Sized (node : Node) : Prop := ∀ field : SizeField, 0 ≤ node.sizeAt field

/-- Sizes that clamping leaves alone are no less than zero. -/
theorem sized_of_settled {node : Node} (settled : node.Settled) : node.Sized := by
  intro field
  rw [← settled.sizes field]
  exact zero_le_clampedSize _

/-- Only assignments of sizes touch sizes. -/
theorem sizeAt_assign_of_ne (node : Node) {made : Assignment} (field : SizeField)
    (other : ∀ assigned value, made ≠ .size assigned value) :
    (node.assign made).sizeAt field = node.sizeAt field := by
  cases made with
  | id => rfl
  | size assigned value => exact absurd rfl (other assigned value)
  | _ assigned => cases assigned <;> cases field <;> rfl

/-- Whatever is assigned, sizes stay no less than zero. -/
theorem Sized.assign {node : Node} (sized : node.Sized) (made : Assignment) :
    (node.assign made).Sized := by
  intro other
  cases made with
  | size field value =>
    rw [sizeAt_assign]
    by_cases same : other = field
    · rw [if_pos same]
      exact zero_le_clampedSize value
    · rw [if_neg same]
      exact sized other
  | _ =>
    rw [sizeAt_assign_of_ne _ other fun _ _ same => by cases same]
    exact sized other

theorem Sized.bindAll {node : Node} (sized : node.Sized) (layout : HexLayout)
    (attributes : Attributes) : (node.bindAll layout attributes).Sized := by
  rw [bindAll_eq_assignAll]
  exact List.foldlRecOn _ _ sized fun _ held made _ => Sized.assign held made

/-- Sizes no less than zero are defined, so that a node is measured by its sizes and numbers. -/
theorem measured_iff {node : Node} : node.Measured ↔ node.Sized ∧ node.Numeric := by
  constructor
  · intro measured
    exact ⟨measured.nonnegative, measured.numbers⟩
  · rintro ⟨sized, numeric⟩
    exact ⟨sized, fun field => isNaN_of_le (sized field), numeric⟩

/-- Attributes of any names and values keep a node measured. -/
theorem Measured.bindAll {node : Node} (measured : node.Measured) (layout : HexLayout)
    (attributes : Attributes) : (node.bindAll layout attributes).Measured := by
  rw [measured_iff] at measured ⊢
  exact ⟨measured.1.bindAll layout attributes, measured.2.bindAll layout attributes⟩

/-- A size set to any value, also to none, keeps a node measured. -/
theorem Measured.resize {node : Node} (measured : node.Measured) (field : SizeField)
    (value : Float32) : (node.assign (.size field value)).Measured := by
  rw [measured_iff] at measured ⊢
  exact ⟨measured.1.assign _, measured.2.assign fun _ _ same => by cases same⟩

end Node

/-! ### Trees -/

namespace NodeTree

variable {holds : Node → Prop}

theorem everyOf_iff {trees : List NodeTree} :
    EveryOf holds trees ↔ ∀ tree ∈ trees, tree.Every holds := by
  induction trees with
  | nil => simp [EveryOf]
  | cons tree rest inductionHypothesis => simp [EveryOf, inductionHypothesis]

mutual
theorem every_measured {tree : NodeTree} (settled : SettledTree tree)
    (numeric : NumericTree tree) : tree.Every Node.Measured := by
  match tree with
  | .mk node children =>
    exact ⟨Node.measured_iff.mpr ⟨Node.sized_of_settled settled.1, numeric.1⟩,
      everyOf_measured settled.2 numeric.2⟩

theorem everyOf_measured {trees : List NodeTree} (settled : EveryOf Node.Settled trees)
    (numeric : EveryOf Node.Numeric trees) : EveryOf Node.Measured trees := by
  match trees with
  | [] => exact trivial
  | tree :: rest =>
    exact ⟨every_measured settled.1 numeric.1, everyOf_measured settled.2 numeric.2⟩
end

/-- All nodes of parsed trees are measured. -/
theorem Parsed.every_measured {tree : NodeTree} (parsed : tree.Parsed) :
    tree.Every Node.Measured := by
  induction parsed with
  | markup builtIn parsed =>
    exact NodeTree.every_measured
      (Markup.gives_parseTree Node.kept_settled builtIn.gives_settled _ _ _ _ parsed)
      (Markup.gives_parseTree Node.kept_numeric builtIn.gives_numeric _ _ _ _ parsed)
  | literal parsed =>
    exact NodeTree.every_measured
      (Literal.gives_parse (Literal.gives_buildNode_of_kept Node.kept_settled) _ _ _ _ parsed)
      (Literal.gives_parse (Literal.gives_buildNode_of_kept Node.kept_numeric) _ _ _ _ parsed)
  | part whole member inductionHypothesis => exact everyOf_iff.mp inductionHypothesis.2 _ member

end NodeTree

namespace NumberedTree

variable {holds : Node → Prop}

theorem every_toTree_iff {tree : NumberedTree} : tree.toTree.Every holds ↔
    holds tree.node ∧ ∀ below ∈ tree.children, below.toTree.Every holds := by
  cases tree with
  | mk number node children =>
    rw [toTree, NodeTree.Every, NodeTree.everyOf_iff, toTrees_eq_map, List.forall_mem_map]
    rfl

/-- An edit that keeps a property of nodes keeps it for all nodes. -/
theorem every_change {edit : Node → Node} (kept : ∀ node, holds node → holds (edit node))
    (target : Nat) {tree : NumberedTree} (held : tree.toTree.Every holds) :
    (tree.change target edit).toTree.Every holds := by
  induction tree using below_induction with
  | step tree inductionHypothesis =>
    obtain ⟨here, below⟩ := every_toTree_iff.mp held
    rw [every_toTree_iff, node_change, children_change, List.forall_mem_map]
    refine ⟨?_, fun part member => inductionHypothesis part member (below part member)⟩
    by_cases same : tree.number = target
    · rw [if_pos same]
      exact kept _ here
    · rw [if_neg same]
      exact here

theorem every_append (target : Nat) {added tree : NumberedTree}
    (new : added.toTree.Every holds) (held : tree.toTree.Every holds) :
    (append target added tree).toTree.Every holds := by
  induction tree using below_induction with
  | step tree inductionHypothesis =>
    obtain ⟨here, below⟩ := every_toTree_iff.mp held
    rw [append_eq, every_toTree_iff]
    refine ⟨here, fun part member => ?_⟩
    rcases List.mem_append.mp member with old | last
    · obtain ⟨child, inside, rfl⟩ := List.mem_map.mp old
      exact inductionHypothesis child inside (below child inside)
    · split at last
      · rw [List.mem_singleton.mp last]
        exact new
      · cases last

theorem every_of_find? {sought : Nat} {tree part : NumberedTree} (held : tree.toTree.Every holds)
    (found : tree.find? sought = some part) : part.toTree.Every holds := by
  induction tree using below_induction with
  | step tree inductionHypothesis =>
    rcases find?_cases found with ⟨_, rfl⟩ | ⟨_, below, member, searched⟩
    · exact held
    · exact inductionHypothesis below member ((every_toTree_iff.mp held).2 below member) searched

end NumberedTree

/-! ### Scenes -/

namespace Scene

/-- Sizes are never negative, and no quantity is undefined: in every scene that a document makes and
that trees, attributes and sizes have changed, this is true of every node. -/
theorem reached_is_measured {scene : Scene} (reached : scene.Reached) :
    scene.toTree.Every Node.Measured ∧
      ∀ number node, scene.node? number = some node → node.Measured := by
  have every : scene.toTree.Every Node.Measured := by
    induction reached with
    | document builtIn parsed =>
      exact NodeTree.every_measured
        (Engine.every_of_parse Node.kept_settled builtIn.gives_settled Engine.gives_unsupported
          parsed)
        (Engine.every_of_parse Node.kept_numeric builtIn.gives_numeric
          Engine.gives_numeric_unsupported parsed)
    | tree parsed =>
      rw [toTree_ofTree]
      exact parsed.every_measured
    | treeAdded _ parent parsed inductionHypothesis =>
      refine NumberedTree.every_append parent ?_ inductionHypothesis
      rw [NumberedTree.toTree_ofTree]
      exact parsed.every_measured
    | applied _ number layout written inductionHypothesis =>
      exact NumberedTree.every_change (fun _ measured => measured.bindAll layout [written]) number
        inductionHypothesis
    | resized _ number field value inductionHypothesis =>
      exact NumberedTree.every_change (fun _ measured => measured.resize field value) number
        inductionHypothesis
  refine ⟨every, fun number node found => ?_⟩
  obtain ⟨part, searched, rfl⟩ := Option.map_eq_some_iff.mp found
  exact (NumberedTree.every_toTree_iff.mp (NumberedTree.every_of_find? every searched)).1

/-- A card that is narrower than nothing, with rows far outside of it. -/
def squeezedCard : String := "<Card id=card title=A subtitle=B width=-5 padding=3e38px/>"

/-- A scene to whose top an attribute that is no number, the width zero divided by zero and the
height one divided by zero are given. -/
def stretched (scene : Scene) : Scene :=
  let applied := scene.change 0 fun node => node.bindAll .argb [⟨"font-size", "nan"⟩]
  let widened := applied.change 0 fun node => node.assign (.size .width (0 / 0))
  widened.change 0 fun node => node.assign (.size .height (1 / 0))

/-- The card ends up with no width and an infinite height, and its subtitle below the title. -/
theorem reached_is_measured_of_squeezedCard :
    ∃ scene after, StateT.run (Engine.parse ⟨.standard, none⟩ squeezedCard) .empty =
        (.ok scene, after) ∧
      scene.stretched.Reached ∧ scene.stretched.toTree.Every Node.Measured ∧
      (scene.stretched.node? 0).map (fun node => (node.width, node.height)) = some (0, 1 / 0) ∧
      (scene.stretched.node? 2).map (fun node => (node.width, node.y)) = some (0, 3e38 + 28) := by
  have computed : ((StateT.run (Engine.parse ⟨.standard, none⟩ squeezedCard) .empty).1.toOption.map
      fun scene => decide (
        (scene.stretched.node? 0).map (fun node => (node.width, node.height)) = some (0, 1 / 0) ∧
        (scene.stretched.node? 2).map (fun node => (node.width, node.y)) =
          some (0, 3e38 + 28))) = some true := by decide +kernel
  cases parsed : StateT.run (Engine.parse ⟨.standard, none⟩ squeezedCard) .empty with
  | mk result after =>
    rw [parsed] at computed
    cases result with
    | error cause => cases computed
    | ok scene =>
      obtain ⟨card, subtitle⟩ := of_decide_eq_true (Option.some.inj computed)
      have reached : scene.stretched.Reached :=
        (((Reached.document ComponentRegistry.builtIn_standard parsed).applied 0 _ _).resized 0 _
          _).resized 0 _ _
      exact ⟨scene, after, rfl, reached, (reached_is_measured reached).1, card, subtitle⟩

end Scene

end SceneMarkup
