import SceneMarkup.Proofs.Json.Members
import SceneMarkup.Proofs.Node.Assigning
import SceneMarkup.Scene.Literal

/-!
Contract: literal objects that are written with a type, attributes and children.

Owns:
- the members of such an object, and what is found of them in any order;
- the node that a kind and a row of attributes make;
- the theorem that the object is built into this node with its children.

Does not own: the text of the object.
-/

namespace SceneMarkup

open SceneMarkup.Text SceneMarkup.Json

/-! ### Names of members -/

namespace Literal

/-- A member that has the name of a structural one is structural. -/
theorem canonicalName_of_sameWord {key name : String} (structural : name ∈ structuralNames)
    (same : sameWord key name = true) : canonicalName key ∈ structuralNames := by
  have lower : ∀ name ∈ structuralNames,
      name.toLower = name ∧ '-' ∉ name.toList ∧ '_' ∉ name.toList := by decide +kernel
  obtain ⟨lowered, noHyphen, noUnderscore⟩ := lower name structural
  have spelled : key.toLower = name := (beq_iff_eq.mp same).trans lowered
  rw [canonicalName_of_toLower spelled noHyphen noUnderscore]
  exact structural

/-! ### Members of an object -/

/-- The member for children, where there is one. -/
def childrenMember : Option (List Value) → List (String × Value)
  | none => []
  | some values => [("children", .array values)]

/-- The members of an object of a type with attributes and perhaps with children. -/
def objectMembers (typeName : String) (scalars : List (String × Value))
    (values : Option (List Value)) : List (String × Value) :=
  ("type", .string typeName) :: (scalars ++ childrenMember values)

section Object

variable {typeName : String} {scalars : List (String × Value)} {values : Option (List Value)}
  {listed : List (String × Value)}

/-- Besides its type and its children, an object has no structural members. -/
theorem structural_of_mem (order : listed.Perm (objectMembers typeName scalars values))
    (others : ∀ member ∈ scalars, canonicalName member.1 ∉ structuralNames) {name : String}
    (structural : name ∈ structuralNames) {member : String × Value} (present : member ∈ listed)
    (same : sameWord member.1 name = true) :
    member = ("type", .string typeName) ∨ member ∈ childrenMember values := by
  rcases List.mem_cons.mp (order.mem_iff.mp present) with isType | present
  · exact .inl isType
  rcases List.mem_append.mp present with isScalar | isChildren
  · exact absurd (canonicalName_of_sameWord structural same) (others member isScalar)
  · exact .inr isChildren

theorem key_of_mem_childrenMember {member : String × Value}
    (present : member ∈ childrenMember values) : member.1 = "children" := by
  cases values with
  | none => cases present
  | some values => rw [List.mem_singleton.mp present]

theorem field?_type (order : listed.Perm (objectMembers typeName scalars values))
    (others : ∀ member ∈ scalars, canonicalName member.1 ∉ structuralNames) :
    field? listed "type" = some (.string typeName) := by
  have otherName : ¬ sameWord "children" "type" = true := by decide +kernel
  have present : ("type", .string typeName) ∈ listed :=
    order.mem_iff.mpr List.mem_cons_self
  apply lookupWord_of_unique present (beq_self_eq_true _)
  intro other present same
  rcases structural_of_mem order others List.mem_cons_self present same with isType | isChildren
  · exact isType
  · rw [key_of_mem_childrenMember isChildren] at same
    exact absurd same otherName

theorem children_eq_ok (order : listed.Perm (objectMembers typeName scalars values))
    (others : ∀ member ∈ scalars, canonicalName member.1 ∉ structuralNames) :
    children listed = .ok (values.getD []) := by
  have otherName : ¬ sameWord "type" "children" = true := by decide +kernel
  have fromChildren : ∀ member ∈ listed, sameWord member.1 "children" = true →
      member ∈ childrenMember values := by
    intro member present same
    rcases structural_of_mem order others (by decide) present same with isType | isChildren
    · rw [isType] at same
      exact absurd same otherName
    · exact isChildren
  cases values with
  | none =>
    have absent : field? listed "children" = none := by
      apply lookupWord_eq_none
      intro member present
      exact Bool.eq_false_iff.mpr fun same =>
        absurd (fromChildren member present same) List.not_mem_nil
    rw [children, absent]
    rfl
  | some values =>
    have listedChildren : ("children", .array values) ∈ listed := by
      apply order.mem_iff.mpr
      apply List.mem_cons_of_mem
      exact List.mem_append_right _ List.mem_cons_self
    have found : field? listed "children" = some (.array values) := by
      apply lookupWord_of_unique listedChildren (beq_self_eq_true _)
      intro other present same
      exact List.mem_singleton.mp (fromChildren other present same)
    rw [children, found]
    rfl

/-- The attributes of an object are its scalar members, whatever their order. -/
theorem attributes_perm (order : listed.Perm (objectMembers typeName scalars values))
    (others : ∀ member ∈ scalars, canonicalName member.1 ∉ structuralNames) :
    ((attributes listed).except structuralNames).Perm (attributes scalars) := by
  have structural : structuralNames.map canonicalName = structuralNames := by decide
  have isType : canonicalName "type" ∈ structuralNames := by decide
  have noAttribute : attributes (childrenMember values) = [] := by
    cases values <;> rfl
  have whole : attributes (objectMembers typeName scalars values) =
      ⟨"type", typeName⟩ :: attributes scalars := by
    have parts : attributes (scalars ++ childrenMember values) =
        attributes scalars ++ attributes (childrenMember values) := List.filterMap_append
    rw [noAttribute, List.append_nil] at parts
    rw [← parts]
    rfl
  have kept : (attributes scalars).filter
      (fun written => !structuralNames.contains (canonicalName written.name)) =
        attributes scalars := by
    rw [List.filter_eq_self]
    intro written made
    obtain ⟨member, present, same⟩ := List.mem_filterMap.mp made
    obtain ⟨text, _, rfl⟩ := Option.map_eq_some_iff.mp same
    simpa using others member present
  have listedAttributes := (order.filterMap fun member =>
    (scalarText? member.2).map fun text => (⟨member.1, text⟩ : Attribute)).filter
      fun written => !structuralNames.contains (canonicalName written.name)
  have sorted : ((attributes listed).except structuralNames).Perm
      ((attributes (objectMembers typeName scalars values)).filter
        fun written => !structuralNames.contains (canonicalName written.name)) := by
    rw [Attributes.except, structural]
    exact listedAttributes
  rw [whole, List.filter_cons_of_neg (by simpa using isType), kept] at sorted
  exact sorted

theorem nodup_objectMembers (names : (scalars.map Prod.fst).Nodup)
    (others : ∀ member ∈ scalars, canonicalName member.1 ∉ structuralNames) :
    ((objectMembers typeName scalars values).map Prod.fst).Nodup := by
  have structural : ∀ name ∈ ["type", "children"], canonicalName name ∈ structuralNames := by
    decide
  have apart : ∀ name ∈ ["type", "children"], name ∉ scalars.map Prod.fst := by
    intro name listed present
    obtain ⟨member, isScalar, rfl⟩ := List.mem_map.mp present
    exact others member isScalar (structural _ listed)
  have keys : ∀ key ∈ (childrenMember values).map Prod.fst, key = "children" := by
    intro key present
    obtain ⟨member, isChildren, rfl⟩ := List.mem_map.mp present
    exact key_of_mem_childrenMember isChildren
  rw [objectMembers, List.map_cons, List.map_append, List.nodup_cons, List.mem_append, not_or,
    List.nodup_append]
  refine ⟨⟨apart "type" (by simp), ?_⟩, names, ?_, ?_⟩
  · intro present
    have otherName : "type" ≠ "children" := by decide
    exact otherName (keys _ present)
  · cases values with
    | none => exact List.nodup_nil
    | some values => exact List.nodup_singleton _
  · rintro name isScalar key present rfl
    rw [keys name present] at isScalar
    exact apart "children" (by simp) isScalar

/-- An object is built into the node of its type and its attributes, with its children. -/
theorem outcome_build_object (names : (scalars.map Prod.fst).Nodup)
    (others : ∀ member ∈ scalars, canonicalName member.1 ∉ structuralNames) {kind : Kind}
    (known : Kind.ofName? typeName = some kind)
    (distinct : (attributes scalars).Distinct kind .rgba) {ledger after : IdLedger}
    {trees : List NodeTree}
    (built : (buildAll (values.getD [])).outcome
      (Node.made kind .rgba (attributes scalars) ledger).2 = (.ok trees, after)) :
    (build (.object (sortedMembers (objectMembers typeName scalars values)))).outcome ledger =
      (.ok (.mk (Node.made kind .rgba (attributes scalars) ledger).1 trees), after) := by
  have order : (sortedMembers (objectMembers typeName scalars values)).Perm
      (objectMembers typeName scalars values) :=
    sortedMembers_perm (nodup_objectMembers names others)
  have sameNode := Node.made_eq_of_perm
    ((attributes_perm order others).symm.filterMap _) distinct ledger
  have node : (buildNode (sortedMembers (objectMembers typeName scalars values))).outcome ledger =
      (.ok (Node.made kind .rgba (attributes scalars) ledger).1,
        (Node.made kind .rgba (attributes scalars) ledger).2) := by
    have found : Literal.kind (sortedMembers (objectMembers typeName scalars values)) =
        .ok kind := by
      rw [Literal.kind, field?_type order others]
      dsimp only [Option.some_or]
      rw [known]
    rw [buildNode, found, sameNode]
    rfl
  rw [build, BuildM.outcome_bind_ok _ node]
  split
  · rename_i unread
    rw [children_eq_ok order others] at unread
    cases unread
  · rename_i read
    rw [children_eq_ok order others] at read
    cases read
    rw [BuildM.outcome_bind_ok _ built, BuildM.outcome_pure]

end Object

end Literal

end SceneMarkup
