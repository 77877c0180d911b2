import SceneMarkup.Markup.Tree
import SceneMarkup.Proofs.Node.Building

/-!
Contract: the nodes of a document without factories, read off the outline of its elements.

Owns:
- `Opening`, an opening tag at its byte position, with its kind or the error that it causes;
- the opening tags that count in an element, in document order;
- the kinds of a tree in pre-order;
- the theorem that building an element gives exactly the kinds of its opening tags.

Does not own: how the outline comes from the source.
-/

namespace SceneMarkup

namespace NodeTree

/-- The kinds of all nodes, each node before its children. -/
def kinds (tree : NodeTree) : List Kind := (tree.preorder 0).map fun entry => entry.2.kind

/-- The kinds of several trees side by side. -/
def kindsAll (trees : List NodeTree) : List Kind :=
  (preorderAll 0 trees).map fun entry => entry.2.kind

@[simp] theorem kinds_mk (node : Node) (children : List NodeTree) :
    (mk node children).kinds = node.kind :: kindsAll children := by
  have below := congrArg (List.map Node.kind) (map_snd_preorderAll children 1 0)
  rw [List.map_map, List.map_map] at below
  rw [kinds, preorder, List.map_cons]
  exact congrArg _ below

@[simp] theorem kindsAll_nil : kindsAll [] = [] := rfl

@[simp] theorem kindsAll_cons (tree : NodeTree) (rest : List NodeTree) :
    kindsAll (tree :: rest) = tree.kinds ++ kindsAll rest := by
  rw [kindsAll, preorderAll, List.map_append]
  rfl

end NodeTree

namespace Markup

open SceneMarkup.Text

/-- The kind that an opening tag stands for without factories: an include that nothing has expanded
is a container, and a tag that is not built in stands for none. -/
def tagKind? (tag : OpeningTag) : Option Kind :=
  if sameWord tag.name "include" then some .container else Kind.ofTag? tag.name

/-- The name of an include is not that of a built-in tag. -/
theorem not_include_of_builtIn {name : String} {kind : Kind}
    (builtIn : Kind.ofTag? name = some kind) : ¬ sameWord name "include" = true := by
  intro included
  have lowered : name.toLower = "include".toLower := beq_iff_eq.mp included
  have absent : Kind.tags.lookup "include".toLower = none := by decide +kernel
  rw [Kind.ofTag?, lowered, absent] at builtIn
  cases builtIn

theorem tagKind?_of_builtIn (tag : OpeningTag) {kind : Kind}
    (builtIn : Kind.ofTag? tag.name = some kind) : tagKind? tag = some kind := by
  rw [tagKind?, if_neg (not_include_of_builtIn builtIn), builtIn]

/-- An opening tag at a byte position. -/
structure Opening where
  tag : OpeningTag
  offset : Nat
deriving DecidableEq, Repr

/-- The kind that an opening tag stands for, or the error that an unknown tag causes. -/
def Opening.checkedKind (opening : Opening) : Except ParseError Kind :=
  match tagKind? opening.tag with
  | some kind => .ok kind
  | none => .error (.unknownTag opening.tag.name opening.offset)

/-- Whether content is the verbatim text of its element. -/
def isVerbatimContent (tag : OpeningTag) (content : List Char) : Bool :=
  tagKind? tag == some .text && (trim (withoutComments content)).head? != some '<'

mutual
/-- The opening tags of an element and of those inside it, in order; verbatim text has none. -/
def Element.openings : Element → List Opening
  | .mk tag start content children => ⟨tag, start⟩ ::
    match content with
    | none => []
    | some pieces => if isVerbatimContent tag (sourceOf pieces) then [] else openingsAll children

def openingsAll : List Element → List Opening
  | [] => []
  | element :: rest => element.openings ++ openingsAll rest
end

/-! ### Building without factories -/

section Building

variable {ledger : IdLedger}

/-- A known tag makes one node of its kind. -/
theorem outcome_resolveTag_of_known {tag : OpeningTag} {kind : Kind}
    (known : tagKind? tag = some kind) (offset : Nat) (ledger : IdLedger) :
    ∃ node later, (resolveTag .empty tag offset).outcome ledger = (.ok (.leaf node), later) ∧
      node.kind = kind := by
  unfold tagKind? at known
  unfold resolveTag
  simp only [ComponentRegistry.empty, ComponentRegistry.find?, List.lookup_nil]
  split at known
  · rename_i included
    cases known
    rw [if_pos included]
    exact ⟨_, _, rfl, rfl⟩
  · rename_i notIncluded
    rw [if_neg notIncluded, known]
    exact ⟨_, _, rfl, Node.kind_bindAll _ _ _⟩

theorem outcome_resolveTag_of_unknown {tag : OpeningTag} (unknown : tagKind? tag = none)
    (offset : Nat) :
    (resolveTag .empty tag offset).outcome ledger =
      (.error (.unknownTag tag.name offset), ledger) := by
  unfold tagKind? at unknown
  unfold resolveTag
  simp only [ComponentRegistry.empty, ComponentRegistry.find?, List.lookup_nil]
  split at unknown
  · cases unknown
  · rename_i notIncluded
    rw [if_neg notIncluded, unknown]
    rfl

theorem kinds_withVerbatimText (node : Node) (text : List Char) :
    (withVerbatimText (.leaf node) text).kinds = [node.kind] := by
  unfold withVerbatimText
  split <;> rfl

/-- An unknown tag is the error of its element, whatever is inside. -/
theorem outcome_buildElement_of_unknown {tag : OpeningTag} (unknown : tagKind? tag = none)
    (start : Nat) (content : Option (List Piece)) (children : List Element) :
    (buildElement .empty (.mk tag start content children)).outcome ledger =
      (.error (.unknownTag tag.name start), ledger) := by
  rw [buildElement]
  exact BuildM.outcome_bind_error _ (outcome_resolveTag_of_unknown unknown start)

end Building

theorem checkedKind_of_unknown {tag : OpeningTag} (unknown : tagKind? tag = none) (start : Nat) :
    Opening.checkedKind ⟨tag, start⟩ = .error (.unknownTag tag.name start) := by
  simp only [Opening.checkedKind, unknown]

theorem checkedKind_of_known {tag : OpeningTag} {kind : Kind} (known : tagKind? tag = some kind)
    (start : Nat) : Opening.checkedKind ⟨tag, start⟩ = .ok kind := by
  simp only [Opening.checkedKind, known]

theorem isVerbatimContent_of_known {tag : OpeningTag} {kind : Kind}
    (known : tagKind? tag = some kind) (pieces : List Piece) :
    isVerbatimContent tag (sourceOf pieces) = isVerbatim kind (contentText pieces) := by
  rw [isVerbatimContent, known]
  rfl

mutual
/-- Building an element gives the kinds of its opening tags, or the error of the first unknown
one. -/
theorem outcome_buildElement (element : Element) (ledger : IdLedger) :
    ((buildElement .empty element).outcome ledger).1.map NodeTree.kinds =
      element.openings.mapM Opening.checkedKind := by
  match element with
  | .mk tag start content children =>
    cases known : tagKind? tag with
    | none =>
      rw [outcome_buildElement_of_unknown known]
      cases content <;> rw [Element.openings, List.mapM_cons, checkedKind_of_unknown known] <;> rfl
    | some kind =>
      obtain ⟨node, later, resolved, rfl⟩ :=
        outcome_resolveTag_of_known known start ledger
      rw [buildElement, BuildM.outcome_bind_ok _ resolved]
      cases content with
      | none =>
        rw [Element.openings, List.mapM_cons, checkedKind_of_known known]
        rfl
      | some pieces =>
        rw [Element.openings, List.mapM_cons, checkedKind_of_known known,
          isVerbatimContent_of_known known]
        have kindOfLeaf : (NodeTree.leaf node).node.kind = node.kind := rfl
        dsimp only
        by_cases verbatim : isVerbatim node.kind (contentText pieces) = true
        · rw [if_pos verbatim, if_pos (by rw [kindOfLeaf, verbatim]), BuildM.outcome_pure]
          exact congrArg Except.ok (kinds_withVerbatimText node (contentText pieces))
        · rw [if_neg verbatim, if_neg (by rw [kindOfLeaf]; exact verbatim)]
          -- The children start from the ledger that their parent leaves.
          have inside := outcome_buildElements children later
          cases built : (buildElements .empty children).outcome later with
          | mk result last =>
            rw [built] at inside
            rw [← inside]
            cases result with
            | error cause =>
              rw [BuildM.outcome_bind_error _ built]
              rfl
            | ok trees =>
              rw [BuildM.outcome_bind_ok _ built, BuildM.outcome_pure]
              exact congrArg Except.ok (NodeTree.kinds_mk node trees)

theorem outcome_buildElements (elements : List Element) (ledger : IdLedger) :
    ((buildElements .empty elements).outcome ledger).1.map NodeTree.kindsAll =
      (openingsAll elements).mapM Opening.checkedKind := by
  match elements with
  | [] =>
    rw [buildElements, openingsAll, BuildM.outcome_pure]
    exact congrArg Except.ok NodeTree.kindsAll_nil
  | element :: rest =>
    rw [buildElements, openingsAll, List.mapM_append]
    have first := outcome_buildElement element ledger
    cases built : (buildElement .empty element).outcome ledger with
    | mk result middle =>
      rw [built] at first
      rw [← first]
      cases result with
      | error cause =>
        rw [BuildM.outcome_bind_error _ built]
        rfl
      | ok tree =>
        have others := outcome_buildElements rest middle
        rw [BuildM.outcome_bind_ok _ built]
        cases builtRest : (buildElements .empty rest).outcome middle with
        | mk result last =>
          rw [builtRest] at others
          rw [← others]
          cases result with
          | error cause =>
            rw [BuildM.outcome_bind_error _ builtRest]
            rfl
          | ok trees =>
            rw [BuildM.outcome_bind_ok _ builtRest, BuildM.outcome_pure]
            exact congrArg Except.ok (NodeTree.kindsAll_cons tree trees)
end

end Markup

end SceneMarkup
