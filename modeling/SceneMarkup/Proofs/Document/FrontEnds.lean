import SceneMarkup.Proofs.Color.Layout
import SceneMarkup.Proofs.Json.WrittenDraft
import SceneMarkup.Proofs.Markup.RoundTrip
import SceneMarkup.Proofs.Scene.LiteralObject

/-!
Contract: one tree of elements, written as markup and as a scene literal.

Owns:
- `PortableElement`, a tree of built-in elements that both forms can write;
- its text as markup and its draft as a literal;
- the theorem that both texts are read into the same tree, up to generated ids.

Does not own: factories, includes and the text of text elements.
-/

namespace SceneMarkup

open SceneMarkup.Text SceneMarkup.Json SceneMarkup.Markup

/-! ### Statement -/

/-- Letters, digits, underscores and hyphens. -/
def isPortableNameCharacter (character : Char) : Bool :=
  isNameCharacter character || character == '-'

/-- The tag of a built-in element with attributes that both forms can write. No attribute has the
name of a structural member, and no two of them write one field of the node. -/
structure PortableHead where
  tag : String
  kind : Kind
  attributes : Attributes
  builtIn : Kind.ofTag? tag = some kind
  named : ∀ written ∈ attributes,
    written.name.toList ≠ [] ∧ written.name.toList.all isPortableNameCharacter = true
  distinctNames : (attributes.map Attribute.name).Nodup
  notStructural : ∀ written ∈ attributes, canonicalName written.name ∉ Literal.structuralNames
  unquoted : ∀ written ∈ attributes, '"' ∉ written.value.toList
  notEightDigits : ∀ written ∈ attributes, Color.isEightDigits written.value = false
  distinctFields : attributes.Distinct kind .argb

/-- A tree of elements that both forms can write. -/
inductive PortableElement where
  | mk (head : PortableHead) (children : List PortableElement)

def Attribute.markup (written : Attribute) : List Char :=
  ' ' :: (written.name.toList ++ '=' :: '"' :: (written.value.toList ++ ['"']))

namespace PortableElement

mutual
/-- An element as markup: its children between its two tags. -/
def text : PortableElement → List Char
  | mk head children =>
    '<' :: (head.tag.toList ++ (head.attributes.flatMap Attribute.markup ++ ['>']))
      ++ (textAll children ++ '<' :: '/' :: (head.tag.toList ++ ['>']))

def textAll : List PortableElement → List Char
  | [] => []
  | element :: rest => element.text ++ textAll rest
end

def markup (element : PortableElement) : String := String.ofList element.text

mutual
/-- An element as a literal: its tag as the type, its attributes as strings, and its children. -/
def literal : PortableElement → Draft
  | mk head children =>
    .object (("type", .string head.tag) ::
      (head.attributes.map (fun written => (written.name, .string written.value))
        ++ [("children", .array (literals children))]))

def literals : List PortableElement → List Draft
  | [] => []
  | element :: rest => element.literal :: literals rest
end

/-- Two nodes of an element are equal, except that an element without an id may have two ids. -/
def SameNode (head : PortableHead) (node other : Node) : Prop :=
  if head.attributes.ids = [] then node.assign (.id other.id) = other else node = other

mutual
/-- Two trees of an element have its shape, with the same nodes up to generated ids. -/
def Agree : PortableElement → NodeTree → NodeTree → Prop
  | mk head children, .mk node inner, .mk otherNode otherInner =>
    SameNode head node otherNode ∧ AgreeAll children inner otherInner

def AgreeAll : List PortableElement → List NodeTree → List NodeTree → Prop
  | [], [], [] => True
  | element :: rest, tree :: trees, other :: others =>
    element.Agree tree other ∧ AgreeAll rest trees others
  | _, _, _ => False
end

/-! ### The tree of an element -/

mutual
/-- The tree that an element makes from a ledger on, and the ledger it leaves. -/
def tree (ledger : IdLedger) : PortableElement → NodeTree × IdLedger
  | mk head children =>
    let made := Node.made head.kind .argb head.attributes ledger
    let inner := trees made.2 children
    (.mk made.1 inner.1, inner.2)

def trees (ledger : IdLedger) : List PortableElement → List NodeTree × IdLedger
  | [] => ([], ledger)
  | element :: rest =>
    let first := element.tree ledger
    let others := trees first.2 rest
    (first.1 :: others.1, others.2)
end

theorem sameNode_made (head : PortableHead) (ledger otherLedger : IdLedger) :
    SameNode head (Node.made head.kind .argb head.attributes ledger).1
      (Node.made head.kind .argb head.attributes otherLedger).1 := by
  obtain ⟨id, made⟩ := Node.exists_id_of_made head.kind .argb head.attributes ledger
  obtain ⟨otherId, otherMade⟩ := Node.exists_id_of_made head.kind .argb head.attributes otherLedger
  have renamed : Node.ofKind otherId head.kind =
      (Node.ofKind id head.kind).assign (.id otherId) := rfl
  unfold SameNode
  by_cases unnamed : head.attributes.ids = []
  · have unset := (Attributes.ids_eq_nil_iff _ head.kind .argb).mp unnamed
    rw [if_pos unnamed, otherMade, renamed, Node.assignAll_assign_id _ _ unset, made]
    rfl
  · have set := not_not.mp (mt (Attributes.ids_eq_nil_iff _ head.kind .argb).mpr unnamed)
    rw [if_neg unnamed, otherMade, renamed, Node.assignAll_of_id_mem _ _ set, made]

mutual
/-- The trees of an element from two ledgers agree. -/
theorem agree_tree (element : PortableElement) (ledger otherLedger : IdLedger) :
    element.Agree (element.tree ledger).1 (element.tree otherLedger).1 := by
  match element with
  | mk head children =>
    exact ⟨sameNode_made head ledger otherLedger, agreeAll_trees children _ _⟩

theorem agreeAll_trees (elements : List PortableElement) (ledger otherLedger : IdLedger) :
    AgreeAll elements (trees ledger elements).1 (trees otherLedger elements).1 := by
  match elements with
  | [] => exact trivial
  | element :: rest => exact ⟨agree_tree element _ _, agreeAll_trees rest _ _⟩
end

end PortableElement

/-! ### Markup -/

theorem isAttributeNameCharacter_of_portable {character : Char}
    (portable : isPortableNameCharacter character = true) :
    isAttributeNameCharacter character = true := by
  unfold isPortableNameCharacter at portable
  unfold isAttributeNameCharacter
  rw [portable]
  rfl

namespace PortableHead

theorem quotable (head : PortableHead) (written : Attribute)
    (member : written ∈ head.attributes) :
    (written.name.toList ≠ [] ∧ written.name.toList.all isAttributeNameCharacter = true) ∧
      '"' ∉ written.value.toList := by
  obtain ⟨nonempty, letters⟩ := head.named written member
  refine ⟨⟨nonempty, List.all_eq_true.mpr ?_⟩, head.unquoted written member⟩
  intro letter inside
  exact isAttributeNameCharacter_of_portable (List.all_eq_true.mp letters letter inside)

/-- The attribute in quotes behind one space. -/
def quotedAttribute (written : Attribute)
    (fits : (written.name.toList ≠ [] ∧
      written.name.toList.all isAttributeNameCharacter = true) ∧ '"' ∉ written.value.toList) :
    QuotedAttribute where
  gap := [' ']
  name := written.name.toList
  value := written.value.toList
  separated := QuotedAttribute.separated_space
  named := fits.1
  unquoted := fits.2

def writtenTag (head : PortableHead) : WrittenTag where
  name := head.tag
  kind := head.kind
  attributes := head.attributes.pmap quotedAttribute head.quotable
  trailing := []
  builtIn := head.builtIn
  separated := rfl

/-- The closing tag in the same spelling. -/
def writtenEnd (head : PortableHead) : WrittenEnd head.writtenTag where
  name := head.tag
  trailing := []
  sameName := beq_self_eq_true _
  separated := rfl

theorem text_writtenTag (head : PortableHead) :
    head.writtenTag.text false =
      '<' :: (head.tag.toList ++ (head.attributes.flatMap Attribute.markup ++ ['>'])) := by
  have attributes : (head.attributes.pmap quotedAttribute head.quotable).flatMap
      QuotedAttribute.text = head.attributes.flatMap Attribute.markup := by
    rw [List.flatMap_def, List.flatMap_def, List.map_pmap]
    have same : (fun (written : Attribute) fits => (quotedAttribute written fits).text) =
        fun written _ => written.markup := rfl
    rw [same, List.pmap_eq_map]
  simp [WrittenTag.text, WrittenTag.body, WrittenTag.ending, writtenTag, attributes]

theorem tag_writtenTag (head : PortableHead) :
    head.writtenTag.tag false = ⟨head.tag, head.attributes, false⟩ := by
  have entries : (head.attributes.pmap quotedAttribute head.quotable).map
      QuotedAttribute.entry = head.attributes := by
    have same : (fun (written : Attribute) fits => (quotedAttribute written fits).entry) =
        fun written _ => written := by
      funext written fits
      simp [quotedAttribute, QuotedAttribute.entry]
    rw [List.map_pmap, same, List.pmap_eq_map, List.map_id']
  rw [WrittenTag.tag, writtenTag, entries]

end PortableHead

/-- The tag of a built-in element makes the node of its attributes. -/
theorem outcome_resolveTag_of_builtIn {tag : OpeningTag} {kind : Kind}
    (builtIn : Kind.ofTag? tag.name = some kind) (start : Nat) (ledger : IdLedger) :
    (resolveTag .empty tag start).outcome ledger =
      (.ok (.leaf (Node.made kind .argb tag.attributes ledger).1),
        (Node.made kind .argb tag.attributes ledger).2) := by
  unfold resolveTag
  simp only [ComponentRegistry.empty, ComponentRegistry.find?, List.lookup_nil]
  rw [if_neg (not_include_of_builtIn builtIn), builtIn]
  rfl

namespace PortableElement

/-- Nothing between two tags. -/
def noRun (onlyBlanks : Bool) : PlainRun onlyBlanks :=
  ⟨[], List.not_mem_nil, List.not_mem_nil, fun _ => rfl⟩

mutual
/-- The written form of an element. -/
def written : PortableElement → WrittenElement
  | mk head children => .paired head.writtenTag (writtenAll children) head.writtenEnd

def writtenAll {onlyBlanks : Bool} : List PortableElement → WrittenContent onlyBlanks
  | [] => .last (noRun onlyBlanks)
  | element :: rest => .next (noRun onlyBlanks) element.written (writtenAll rest)
end

mutual
theorem text_written (element : PortableElement) : element.written.text = element.text := by
  match element with
  | mk head children =>
    rw [written, WrittenElement.text, text, PortableHead.text_writtenTag, text_writtenAll]
    rfl

theorem text_writtenAll {onlyBlanks : Bool} (elements : List PortableElement) :
    (writtenAll elements : WrittenContent onlyBlanks).text = textAll elements := by
  match elements with
  | [] => rfl
  | element :: rest =>
    rw [writtenAll, WrittenContent.text, textAll, text_written, text_writtenAll]
    rfl
end

/-- Content with an element in it is not verbatim text, and without one it has no text. -/
theorem contentText_of_isVerbatim {onlyBlanks : Bool} {kind : Kind}
    (fits : kind = .text → onlyBlanks = true) {elements : List PortableElement} {start : Nat}
    (verbatim : isVerbatim kind
      (contentText ((writtenAll elements : WrittenContent onlyBlanks).pieces start)) = true) :
    elements = [] ∧
      contentText ((writtenAll elements : WrittenContent onlyBlanks).pieces start) = [] := by
  obtain ⟨run, only, blank⟩ := exists_of_isVerbatim fits verbatim
  cases elements with
  | nil =>
    rw [only, WrittenContent.pieces, contentText_run, trim_eq_nil_iff]
    exact ⟨rfl, blank⟩
  | cons element rest => cases only

mutual
/-- The outline of an element as markup is built into its tree. -/
theorem outcome_buildElement_written (element : PortableElement) (start : Nat)
    (ledger : IdLedger) :
    (buildElement .empty (element.written.outline start)).outcome ledger =
      (.ok (element.tree ledger).1, (element.tree ledger).2) := by
  match element with
  | mk head children =>
    have resolved : (resolveTag .empty (head.writtenTag.tag false) start).outcome ledger =
        (.ok (.leaf (Node.made head.kind .argb head.attributes ledger).1),
          (Node.made head.kind .argb head.attributes ledger).2) := by
      rw [PortableHead.tag_writtenTag]
      exact outcome_resolveTag_of_builtIn head.builtIn start ledger
    let top := NodeTree.leaf (Node.made head.kind .argb head.attributes ledger).1
    have kind : top.node.kind = head.kind := Node.kind_bindAll _ _ _
    rw [written, WrittenElement.outline, buildElement, BuildM.outcome_bind_ok _ resolved]
    dsimp only
    -- A text element without children has content that is verbatim text, and that text is empty.
    let content : WrittenContent (head.writtenTag.kind == .text) := writtenAll children
    by_cases verbatim : isVerbatim top.node.kind
        (contentText (content.pieces (head.writtenTag.stop start))) = true
    · have fits : top.node.kind = .text → (head.writtenTag.kind == .text) = true := by
        rw [kind]
        exact beq_iff_eq.mpr
      obtain ⟨childless, nothing⟩ := contentText_of_isVerbatim fits verbatim
      rw [if_pos verbatim, nothing, BuildM.outcome_pure, childless]
      rfl
    · rw [if_neg verbatim, BuildM.outcome_bind_ok _ (outcome_buildElements_written children _ _)]
      rfl

theorem outcome_buildElements_written {onlyBlanks : Bool} (elements : List PortableElement)
    (start : Nat) (ledger : IdLedger) :
    (buildElements .empty
        ((writtenAll elements : WrittenContent onlyBlanks).outlines start)).outcome ledger =
      (.ok (trees ledger elements).1, (trees ledger elements).2) := by
  match elements with
  | [] => rfl
  | element :: rest =>
    rw [writtenAll, WrittenContent.outlines, buildElements,
      BuildM.outcome_bind_ok _ (outcome_buildElement_written element _ ledger),
      BuildM.outcome_bind_ok _ (outcome_buildElements_written rest _ _)]
    rfl
end

/-- The markup of an element is read into its tree. -/
theorem outcome_parseTree_markup (element : PortableElement) (ledger : IdLedger) :
    (parseTree .empty element.markup).outcome ledger =
      (.ok (element.tree ledger).1, (element.tree ledger).2) := by
  have scanned : pieces .strict element.text = element.written.pieces 0 := by
    show piecesAt .strict 0 element.text = _
    simpa [text_written] using @piecesAt_element .strict element.written 0 []
  have accepted : strictPieces element.text = .ok (element.written.pieces 0) :=
    strictPieces_eq_ok_iff.mpr ⟨scanned.symm, ended_element element.written 0⟩
  have root := rootElement?_element (noRun true) element.written 0 0 []
  have nothing : (noRun true).pieces 0 = [] := rfl
  rw [nothing, List.nil_append, List.append_nil] at root
  rw [parseTree, markup, String.toList_ofList, accepted]
  dsimp only
  rw [root]
  exact outcome_buildElement_written element 0 ledger

end PortableElement

/-! ### Literals -/

theorem ofName?_of_ofTag? {tag : String} {kind : Kind} (builtIn : Kind.ofTag? tag = some kind) :
    Kind.ofName? tag = some kind := by
  have entry : (tag.toLower, kind) ∈ Kind.tags := by
    obtain ⟨front, back, listed, _⟩ := List.lookup_eq_some_iff.mp builtIn
    rw [listed]
    simp
  have named : ∀ entry ∈ Kind.tags, ∀ other ∈ Kind.all, other.name = entry.1 → other = entry.2 := by
    decide
  unfold Kind.ofName?
  cases found : Kind.all.find? fun kind => kind.name == tag.toLower with
  | none => exact builtIn
  | some other =>
    have matched := List.find?_some found
    rw [named _ entry other (List.mem_of_find?_eq_some found) (beq_iff_eq.mp matched)]
    rfl

/-- Values that are no eight-digit literals make the same assignments in both forms. -/
theorem assigned?_layout {written : Attribute}
    (others : Color.isEightDigits written.value = false) (kind : Kind) :
    Attributes.assigned? kind .argb written = Attributes.assigned? kind .rgba written := by
  cases asked : Property.ofName? written.name with
  | none => rw [Attributes.assigned?_of_unknown asked, Attributes.assigned?_of_unknown asked]
  | some property =>
    rw [Attributes.assigned?_of_property asked, Attributes.assigned?_of_property asked]
    cases property with
    | color field =>
      have resolved : (Binding.present (trimmed written.value)).map (Color.resolve · .argb) =
          (Binding.present (trimmed written.value)).map (Color.resolve · .rgba) := by
        unfold Binding.present
        by_cases empty : trimmed written.value = ""
        · rw [if_pos empty]
          rfl
        · rw [if_neg empty, Option.map_some, Option.map_some, Color.resolve_layout]
          rw [Color.isEightDigits_trimmed]
          exact others
      rw [Binding.read, Binding.read, resolved]
    | _ => rfl

namespace PortableHead

/-- The attributes of a head as scalar members. -/
def scalars (head : PortableHead) : List (String × Value) :=
  head.attributes.map fun written => (written.name, .string written.value)

theorem attributes_scalars (head : PortableHead) :
    Literal.attributes head.scalars = head.attributes := by
  rw [Literal.attributes, scalars, List.filterMap_map]
  exact List.filterMap_some

theorem notStructural_scalars (head : PortableHead) :
    ∀ member ∈ head.scalars, canonicalName member.1 ∉ Literal.structuralNames := by
  intro member listed
  obtain ⟨written, inside, rfl⟩ := List.mem_map.mp listed
  exact head.notStructural written inside

theorem nodup_scalars (head : PortableHead) : (head.scalars.map Prod.fst).Nodup := by
  rw [scalars, List.map_map]
  exact head.distinctNames

/-- In both forms, attributes make the same assignments. -/
theorem assignments_layout (head : PortableHead) :
    head.attributes.assignments head.kind .argb = head.attributes.assignments head.kind .rgba := by
  apply List.filterMap_congr
  intro written member
  exact assigned?_layout (head.notEightDigits written member) head.kind

end PortableHead

namespace PortableElement

theorem value_literal (head : PortableHead) (children : List PortableElement) :
    (mk head children).literal.value =
      .object (sortedMembers (Literal.objectMembers head.tag head.scalars
        (some (Draft.elementValues (literals children))))) := by
  rw [literal, Draft.value, Draft.memberValues_eq_map, List.map_cons, List.map_append, List.map_map]
  rfl

mutual
/-- The value of an element as a literal is built into its tree. -/
theorem outcome_build_literal (element : PortableElement) (ledger : IdLedger) :
    (Literal.build element.literal.value).outcome ledger =
      (.ok (element.tree ledger).1, (element.tree ledger).2) := by
  match element with
  | mk head children =>
    have sameNode := Node.made_eq_of_perm (.of_eq head.assignments_layout) head.distinctFields
      ledger
    have distinct : head.attributes.Distinct head.kind .rgba := by
      unfold Attributes.Distinct
      rw [← head.assignments_layout]
      exact head.distinctFields
    let values := some (Draft.elementValues (literals children))
    have built : (Literal.buildAll (values.getD [])).outcome
        (Node.made head.kind .rgba head.attributes ledger).2 = (.ok _, _) :=
      outcome_buildAll_literals children _
    rw [← head.attributes_scalars] at distinct built
    have object := Literal.outcome_build_object head.nodup_scalars head.notStructural_scalars
      (ofName?_of_ofTag? head.builtIn) distinct built
    rw [value_literal, object, tree, sameNode, head.attributes_scalars]

theorem outcome_buildAll_literals (elements : List PortableElement) (ledger : IdLedger) :
    (Literal.buildAll (Draft.elementValues (literals elements))).outcome ledger =
      (.ok (trees ledger elements).1, (trees ledger elements).2) := by
  match elements with
  | [] =>
    rw [literals, Draft.elementValues, Literal.buildAll]
    rfl
  | element :: rest =>
    rw [literals, Draft.elementValues, Literal.buildAll,
      BuildM.outcome_bind_ok _ (outcome_build_literal element _),
      BuildM.outcome_bind_ok _ (outcome_buildAll_literals rest _)]
    rfl
end

mutual
/-- Literals of elements have no numbers. -/
theorem legible_literal (element : PortableElement) : element.literal.Legible := by
  match element with
  | mk head children =>
    apply Draft.membersLegible_iff.mpr
    intro member listed
    rcases List.mem_cons.mp listed with rfl | listed
    · exact trivial
    rcases List.mem_append.mp listed with listed | listed
    · obtain ⟨written, _, rfl⟩ := List.mem_map.mp listed
      exact trivial
    · rw [List.mem_singleton.mp listed]
      exact legible_literals children

theorem legible_literals (elements : List PortableElement) :
    Draft.ElementsLegible (literals elements) := by
  match elements with
  | [] => exact trivial
  | element :: rest => exact ⟨legible_literal element, legible_literals rest⟩
end

/-- The text of an element as a literal is read into its tree. -/
theorem outcome_parse_literal (element : PortableElement)
    (fits : element.literal.depth ≤ maximalDepth) (ledger : IdLedger) :
    (Literal.parse element.literal.render).outcome ledger =
      (.ok (element.tree ledger).1, (element.tree ledger).2) := by
  rw [Literal.parse, read?_render (legible_literal element) fits]
  exact outcome_build_literal element ledger

/-- Both forms of an element are read, and into trees that agree up to generated ids. -/
theorem front_ends_agree (element : PortableElement)
    (fits : element.literal.depth ≤ maximalDepth) (ledger otherLedger : IdLedger) :
    ∃ tree after otherTree otherAfter,
      (parseTree .empty element.markup).outcome ledger = (.ok tree, after) ∧
        (Literal.parse element.literal.render).outcome otherLedger =
          (.ok otherTree, otherAfter) ∧
        element.Agree tree otherTree := by
  exact ⟨_, _, _, _, outcome_parseTree_markup element ledger,
    outcome_parse_literal element fits otherLedger, agree_tree element ledger otherLedger⟩

/-- A named panel around a caption with a generated id. -/
def panel : PortableElement :=
  .mk {
    tag := "View"
    kind := .container
    attributes := [⟨"id", "panel"⟩, ⟨"bg-color", "#fff"⟩, ⟨"W", " 12px "⟩]
    builtIn := by decide +kernel
    named := by decide +kernel
    distinctNames := by decide
    notStructural := by decide +kernel
    unquoted := by decide +kernel
    notEightDigits := by decide +kernel
    distinctFields := by decide +kernel
  } [.mk {
    tag := "text"
    kind := .text
    attributes := [⟨"content", "a < b"⟩, ⟨"hidden", "no"⟩]
    builtIn := by decide +kernel
    named := by decide +kernel
    distinctNames := by decide
    notStructural := by decide +kernel
    unquoted := by decide +kernel
    notEightDigits := by decide +kernel
    distinctFields := by decide +kernel
  } []]

theorem front_ends_agree_on_panel :
    panel.literal.depth ≤ maximalDepth ∧
      ∃ tree after otherTree otherAfter,
        (parseTree .empty panel.markup).outcome .empty = (.ok tree, after) ∧
          (Literal.parse panel.literal.render).outcome .empty = (.ok otherTree, otherAfter) ∧
          panel.Agree tree otherTree :=
  ⟨by decide, front_ends_agree panel (by decide) .empty .empty⟩

end PortableElement

end SceneMarkup
