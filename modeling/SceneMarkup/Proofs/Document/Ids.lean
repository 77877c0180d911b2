import SceneMarkup.Proofs.Markup.Construction
import SceneMarkup.Proofs.Node.Names
import SceneMarkup.Proofs.Scene.Index

/-!
Contract: the ids of the nodes of a document without factories.

Owns:
- the id that an opening tag chooses, if it chooses one;
- the ids that opening tags are given one after the other, from a ledger on;
- the freshness of the ids that are generated, as far as the document was read by then;
- the documents whose nodes have different ids, each found under its own.

Does not own: the names of the parts that factories make.
-/

namespace SceneMarkup

namespace Markup

open SceneMarkup.Text

/-! ### Statement -/

/-- The attributes of an opening tag that count: an include that nothing has expanded has none. -/
def Opening.applied (opening : Opening) : Attributes :=
  if sameWord opening.tag.name "include" then [] else opening.tag.attributes

/-- The id that an opening tag chooses: the last one that its attributes name. -/
def Opening.chosen? (opening : Opening) : Option NodeId := opening.applied.ids.getLast?

/-- Ids given to opening tags in the order of the document. -/
structure GivenIds (ledger : IdLedger) (openings : List Opening) (ids : List NodeId) : Prop where
  length : openings.length = ids.length
  /-- An id that is chosen is given. -/
  chosen : ∀ entry ∈ openings.zip ids, ∀ id, entry.1.chosen? = some id → entry.2 = id
  /-- Any other id is the numbered name of a kind, and was not taken before the document. -/
  generated : ∀ entry ∈ openings.zip ids, entry.1.chosen? = none →
    entry.2.name ∉ ledger.taken ∧ ∃ kind number, tagKind? entry.1.tag = some kind ∧
      entry.2.name = IdLedger.generatedName kind number
  /-- It differs from all ids that were given before it. -/
  fresh : (openings.zip ids).Pairwise fun earlier later =>
    later.1.chosen? = none → later.2 ≠ earlier.2

/-- No tag chooses an id that was generated for an earlier tag. -/
def NoneForestalled (openings : List Opening) (ids : List NodeId) : Prop :=
  (openings.zip ids).Pairwise fun earlier later =>
    earlier.1.chosen? = none → later.1.chosen? ≠ some earlier.2

instance (openings : List Opening) (ids : List NodeId) :
    Decidable (NoneForestalled openings ids) := inferInstanceAs (Decidable (List.Pairwise _ _))

/-! ### One tag after the other -/

/-- Ids are given to opening tags one after the other, from one ledger to another. -/
inductive Named : IdLedger → List Opening → List NodeId → IdLedger → Prop
  | nil (ledger : IdLedger) : Named ledger [] [] ledger
  | cons {ledger after : IdLedger} {opening : Opening} {rest : List Opening} {ids : List NodeId}
      {kind : Kind} (known : tagKind? opening.tag = some kind)
      (later : Named (Node.made kind .argb opening.applied ledger).2 rest ids after) :
      Named ledger (opening :: rest)
        ((Node.made kind .argb opening.applied ledger).1.id :: ids) after

theorem Named.append {ledger middle after : IdLedger} {front back : List Opening}
    {ids others : List NodeId} (first : Named ledger front ids middle)
    (second : Named middle back others after) :
    Named ledger (front ++ back) (ids ++ others) after := by
  induction first with
  | nil => exact second
  | cons known _ inductionHypothesis => exact .cons known (inductionHypothesis second)

/-- The id of a node that a tag makes without choosing one was not taken. -/
theorem made_not_mem {opening : Opening} (unchosen : opening.chosen? = none) (kind : Kind)
    (ledger : IdLedger) :
    (Node.made kind .argb opening.applied ledger).1.id =
        ⟨IdLedger.generatedName kind (ledger.nextFree kind)⟩ ∧
      (Node.made kind .argb opening.applied ledger).1.id.name ∉ ledger.taken := by
  have given := Node.id_made kind .argb opening.applied ledger
  rw [← Opening.chosen?, unchosen, Option.getD_none] at given
  rw [given]
  exact ⟨rfl, ledger.generatedName_nextFree_not_mem kind⟩

theorem Named.givenIds {ledger after : IdLedger} {openings : List Opening} {ids : List NodeId}
    (named : Named ledger openings ids after) : GivenIds ledger openings ids := by
  induction named with
  | nil => exact ⟨rfl, by simp, by simp, .nil⟩
  | @cons ledger after opening rest ids kind known _ inductionHypothesis =>
    -- What was taken before the tag, and what it was given, is taken for the tags behind it.
    have taken : ∀ {name : String}, name ∈ ledger.taken →
        name ∈ (Node.made kind .argb opening.applied ledger).2.taken := fun before =>
      (Node.mem_taken_made _ _ _ _).mpr (.inr (.inr before))
    refine ⟨congrArg Nat.succ inductionHypothesis.length, ?_, ?_, ?_⟩
    · intro entry member id chosen
      rcases List.mem_cons.mp member with rfl | later
      · have given := Node.id_made kind .argb opening.applied ledger
        rw [← Opening.chosen?, chosen, Option.getD_some] at given
        exact given
      · exact inductionHypothesis.chosen entry later id chosen
    · intro entry member unchosen
      rcases List.mem_cons.mp member with rfl | later
      · obtain ⟨given, free⟩ := made_not_mem unchosen kind ledger
        exact ⟨free, kind, ledger.nextFree kind, known, congrArg NodeId.name given⟩
      · obtain ⟨free, shape⟩ := inductionHypothesis.generated entry later unchosen
        exact ⟨fun before => free (taken before), shape⟩
    · refine List.pairwise_cons.mpr ⟨fun entry later unchosen same => ?_,
        inductionHypothesis.fresh⟩
      have free := (inductionHypothesis.generated entry later unchosen).1
      rw [same] at free
      exact free (Node.id_made_mem kind .argb opening.applied ledger)

/-! ### Documents -/

/-- A known tag makes one node of its kind and of the attributes that count. -/
theorem outcome_resolveTag_made (opening : Opening) {kind : Kind}
    (known : tagKind? opening.tag = some kind) (offset : Nat) (ledger : IdLedger) :
    (resolveTag .empty opening.tag offset).outcome ledger =
      (.ok (.leaf (Node.made kind .argb opening.applied ledger).1),
        (Node.made kind .argb opening.applied ledger).2) := by
  unfold tagKind? at known
  unfold resolveTag Opening.applied
  simp only [ComponentRegistry.empty, ComponentRegistry.find?, List.lookup_nil]
  split at known
  · rename_i included
    cases known
    rw [if_pos included, if_pos included]
    rfl
  · rename_i notIncluded
    rw [if_neg notIncluded, if_neg notIncluded, known]
    rfl

theorem ids_withVerbatimText (node : Node) (text : List Char) :
    (withVerbatimText (.leaf node) text).ids = [node.id] := by
  unfold withVerbatimText
  split <;> rfl

mutual
/-- Building an element gives ids to its opening tags one after the other. -/
theorem named_buildElement {element : Element} {ledger after : IdLedger} {tree : NodeTree}
    (built : (buildElement .empty element).outcome ledger = (.ok tree, after)) :
    Named ledger element.openings tree.ids after := by
  match element with
  | .mk tag start content children =>
    cases known : tagKind? tag with
    | none =>
      rw [outcome_buildElement_of_unknown known] at built
      cases built
    | some kind =>
      have resolved := outcome_resolveTag_made ⟨tag, start⟩ known start ledger
      rw [buildElement, BuildM.outcome_bind_ok _ resolved] at built
      cases content with
      | none =>
        cases built
        rw [Element.openings]
        exact .cons known (.nil _)
      | some pieces =>
        have kindOfLeaf : (NodeTree.leaf
            (Node.made kind .argb (Opening.applied ⟨tag, start⟩) ledger).1).node.kind = kind :=
          Node.kind_bindAll _ _ _
        rw [Element.openings]
        dsimp only at built ⊢
        rw [isVerbatimContent_of_known known]
        rw [kindOfLeaf] at built
        by_cases verbatim : isVerbatim kind (contentText pieces) = true
        · rw [if_pos verbatim] at built ⊢
          cases built
          rw [ids_withVerbatimText]
          exact .cons known (.nil _)
        · rw [if_neg verbatim] at built ⊢
          cases inside : (buildElements .empty children).outcome
              (Node.made kind .argb (Opening.applied ⟨tag, start⟩) ledger).2 with
          | mk result last =>
            cases result with
            | error cause =>
              rw [BuildM.outcome_bind_error _ inside] at built
              cases built
            | ok trees =>
              rw [BuildM.outcome_bind_ok _ inside, BuildM.outcome_pure] at built
              cases built
              rw [NodeTree.ids, NodeTree.nodes_mk]
              exact .cons known (named_buildElements inside)

theorem named_buildElements {elements : List Element} {ledger after : IdLedger}
    {trees : List NodeTree}
    (built : (buildElements .empty elements).outcome ledger = (.ok trees, after)) :
    Named ledger (openingsAll elements) ((NodeTree.nodesAll trees).map Node.id) after := by
  match elements with
  | [] =>
    cases built
    rw [openingsAll]
    exact .nil _
  | element :: rest =>
    rw [buildElements] at built
    rw [openingsAll]
    cases first : (buildElement .empty element).outcome ledger with
    | mk result middle =>
      cases result with
      | error cause =>
        rw [BuildM.outcome_bind_error _ first] at built
        cases built
      | ok tree =>
        rw [BuildM.outcome_bind_ok _ first] at built
        cases others : (buildElements .empty rest).outcome middle with
        | mk result last =>
          cases result with
          | error cause =>
            rw [BuildM.outcome_bind_error _ others] at built
            cases built
          | ok trees =>
            rw [BuildM.outcome_bind_ok _ others, BuildM.outcome_pure] at built
            cases built
            rw [NodeTree.nodesAll_cons, List.map_append]
            exact (named_buildElement first).append (named_buildElements others)
end

/-! ### Distinct ids -/

/-- Where the chosen ids differ, all ids do, unless one was generated before it is chosen. -/
theorem GivenIds.nodup_iff {ledger : IdLedger} {openings : List Opening} {ids : List NodeId}
    (given : GivenIds ledger openings ids)
    (distinct : (openings.filterMap Opening.chosen?).Nodup) :
    ids.Nodup ↔ NoneForestalled openings ids := by
  have idsOfZip : (openings.zip ids).map Prod.snd = ids :=
    List.map_snd_zip (Nat.le_of_eq given.length.symm)
  have openingsOfZip : (openings.zip ids).map Prod.fst = openings :=
    List.map_fst_zip (Nat.le_of_eq given.length)
  have nodup : ids.Nodup ↔ (openings.zip ids).Pairwise fun earlier later =>
      earlier.2 ≠ later.2 := by
    conv_lhs => rw [← idsOfZip]
    exact List.pairwise_map
  rw [nodup]
  constructor
  · intro apart
    refine apart.imp_of_mem fun {earlier later} _ member differ _ chosen => ?_
    exact differ (given.chosen later member earlier.2 chosen).symm
  · intro unforestalled
    have chosenApart : (openings.zip ids).Pairwise fun earlier later =>
        ∀ id, earlier.1.chosen? = some id → later.1.chosen? ≠ some id := by
      have apart := List.pairwise_filterMap.mp distinct
      rw [← openingsOfZip, List.pairwise_map] at apart
      exact apart.imp fun differ id first second => differ id first id second rfl
    refine (given.fresh.and (chosenApart.and unforestalled)).imp_of_mem
      fun {earlier later} earlierMember laterMember facts same => ?_
    obtain ⟨fresh, choices, early⟩ := facts
    cases laterChoice : later.1.chosen? with
    | none => exact fresh laterChoice same.symm
    | some id =>
      have laterId := given.chosen later laterMember id laterChoice
      cases earlierChoice : earlier.1.chosen? with
      | none => exact early earlierChoice (by rw [laterChoice, same, laterId])
      | some other =>
        have earlierId := given.chosen earlier earlierMember other earlierChoice
        refine choices other earlierChoice ?_
        rw [laterChoice, ← laterId, ← same, earlierId]

/-- Generated ids differ from each other and from all ids chosen before them. So the nodes of a
document whose chosen ids differ have different ids, each found under its own, exactly when no tag
chooses an id that was generated for an earlier one. -/
theorem generated_ids_avoid_earlier {source : String} {ledger after : IdLedger} {tree : NodeTree}
    (accepted : (parseTree .empty source).outcome ledger = (.ok tree, after)) :
    ∃ pieces element, strictPieces source.toList = .ok pieces ∧
      rootElement? pieces = some element ∧ GivenIds ledger element.openings tree.ids ∧
      ((element.openings.filterMap Opening.chosen?).Nodup →
        (tree.ids.Nodup ↔ NoneForestalled element.openings tree.ids) ∧
        ((Scene.ofTree tree).Indexed ↔ NoneForestalled element.openings tree.ids)) := by
  unfold parseTree at accepted
  cases lexed : strictPieces source.toList with
  | error tag =>
    rw [lexed] at accepted
    cases accepted
  | ok pieces =>
    rw [lexed] at accepted
    dsimp only at accepted
    cases root : rootElement? pieces with
    | none =>
      rw [root] at accepted
      cases accepted
    | some element =>
      rw [root] at accepted
      have given := (named_buildElement accepted).givenIds
      refine ⟨pieces, element, rfl, root, given, fun distinct => ?_⟩
      exact ⟨given.nodup_iff distinct,
        (Scene.indexed_ofTree_iff tree).trans (given.nodup_iff distinct)⟩

/-- A name that was chosen early is passed over, and one that is generated but not given can be
chosen later. -/
theorem generated_ids_avoid_earlier_around_chosen :
    ∃ tree after, (parseTree .empty
        "<view><text id='text_1'/><text/><text/><text id='text_0'/></view>").outcome .empty =
          (.ok tree, after) ∧
      tree.ids = [⟨"container_0"⟩, ⟨"text_1"⟩, ⟨"text_2"⟩, ⟨"text_3"⟩, ⟨"text_0"⟩] ∧
      (Scene.ofTree tree).Indexed := by
  obtain ⟨tree, given, ids, pieces, lexed, element, root, distinct, unforestalled⟩ :
      ∃ tree ∈ ((parseTree .empty
          "<view><text id='text_1'/><text/><text/><text id='text_0'/></view>").outcome
            .empty).1.toOption,
        tree.ids = [⟨"container_0"⟩, ⟨"text_1"⟩, ⟨"text_2"⟩, ⟨"text_3"⟩, ⟨"text_0"⟩] ∧
        ∃ pieces ∈ (strictPieces
            "<view><text id='text_1'/><text/><text/><text id='text_0'/></view>".toList).toOption,
          ∃ element ∈ rootElement? pieces, (element.openings.filterMap Opening.chosen?).Nodup ∧
            NoneForestalled element.openings tree.ids := by
    decide +kernel
  obtain ⟨after, accepted⟩ := BuildM.outcome_of_mem given
  obtain ⟨_, _, sameLexed, sameRoot, _, reached⟩ := generated_ids_avoid_earlier accepted
  rw [sameLexed] at lexed
  cases lexed
  rw [sameRoot] at root
  cases root
  exact ⟨tree, after, accepted, ids, (reached distinct).2.mpr unforestalled⟩

/-- A node keeps the id that was generated for it when a later tag chooses the same. -/
theorem ids_repeat_of_late_choice :
    ∃ pieces ∈ (strictPieces "<view><text/><text id='text_0'/></view>".toList).toOption,
      ∃ element ∈ rootElement? pieces, (element.openings.filterMap Opening.chosen?).Nodup ∧
        ∃ tree ∈ ((parseTree .empty "<view><text/><text id='text_0'/></view>").outcome
            .empty).1.toOption, ¬ tree.ids.Nodup := by
  decide +kernel

end Markup

end SceneMarkup
