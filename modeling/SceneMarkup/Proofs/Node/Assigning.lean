import Mathlib.Data.List.Nodup
import SceneMarkup.Proofs.Node.Building

/-!
Contract: rows of attributes as rows of assignments.

Owns:
- the assignment that an attribute makes, and a row of attributes as the row of its assignments;
- the order of assignments, which does not count where no two of them write one field;
- the id of a node, which a row of assignments sets at most once and otherwise leaves alone.

Does not own: which attributes a document has.
-/

namespace SceneMarkup

/-! ### Assignments in a row -/

namespace Node

variable {node : Node}

/-- Assignments to two fields can be made in either order. -/
theorem assign_comm (node : Node) {first second : Assignment}
    (different : first.field ≠ second.field) :
    (node.assign first).assign second = (node.assign second).assign first := by
  cases first with
  | id =>
    cases second with
    | id => exact absurd rfl different
    | _ field => cases field <;> rfl
  | _ field =>
    cases second with
    | id => cases field <;> rfl
    | _ other => cases field <;> cases other <;> first | rfl | exact absurd rfl different

/-- A later assignment to a field replaces an earlier one. -/
theorem assign_id_assign_id (node : Node) (first second : NodeId) :
    (node.assign (.id first)).assign (.id second) = node.assign (.id second) := rfl

/-- The node after several assignments. -/
def assignAll (node : Node) (assignments : List Assignment) : Node :=
  assignments.foldl assign node

theorem assignAll_nil (node : Node) : node.assignAll [] = node := rfl

theorem assignAll_cons (node : Node) (first : Assignment) (rest : List Assignment) :
    node.assignAll (first :: rest) = (node.assign first).assignAll rest := rfl

theorem assignAll_append (node : Node) (front back : List Assignment) :
    node.assignAll (front ++ back) = (node.assignAll front).assignAll back :=
  List.foldl_append

/-- The order of assignments does not count where no two of them write one field. -/
theorem assignAll_of_perm {assignments others : List Assignment} (same : assignments.Perm others)
    (distinct : (assignments.map Assignment.field).Nodup) (node : Node) :
    node.assignAll assignments = node.assignAll others := by
  apply same.foldl_eq'
  intro first inFirst second inSecond current
  by_cases equal : first = second
  · rw [equal]
  · apply assign_comm
    intro sameField
    exact equal (List.inj_on_of_nodup_map distinct inFirst inSecond sameField)

/-- Assignments that leave the id alone do so whatever the id is. -/
theorem assignAll_assign_id {assignments : List Assignment} (node : Node) (id : NodeId)
    (others : Field.id ∉ assignments.map Assignment.field) :
    (node.assign (.id id)).assignAll assignments =
      (node.assignAll assignments).assign (.id id) := by
  induction assignments generalizing node with
  | nil => rfl
  | cons first rest inductionHypothesis =>
    rw [List.map_cons, List.mem_cons, not_or] at others
    have different : (Assignment.id id).field ≠ first.field := others.1
    rw [assignAll_cons, assignAll_cons, assign_comm node different]
    exact inductionHypothesis _ others.2

/-- Of a node whose id is assigned, the id it had before does not count. -/
theorem assignAll_of_id_mem {assignments : List Assignment} (node : Node) (id : NodeId)
    (assigned : Field.id ∈ assignments.map Assignment.field) :
    (node.assign (.id id)).assignAll assignments = node.assignAll assignments := by
  induction assignments generalizing node with
  | nil => exact absurd assigned List.not_mem_nil
  | cons first rest inductionHypothesis =>
    rw [assignAll_cons, assignAll_cons]
    by_cases isId : first.field = .id
    · cases first with
      | id => rw [assign_id_assign_id]
      | _ => exact absurd isId Field.noConfusion
    · have different : (Assignment.id id).field ≠ first.field := Ne.symm isId
      rw [assign_comm node different]
      apply inductionHypothesis
      rw [List.map_cons] at assigned
      exact (List.mem_cons.mp assigned).resolve_left (Ne.symm isId)

end Node

/-! ### Attributes as assignments -/

/-- A name without hyphens and underscores is the canonical name of its spellings in any case. -/
theorem canonicalName_of_toLower {written name : String} (same : written.toLower = name)
    (noHyphen : '-' ∉ name.toList) (noUnderscore : '_' ∉ name.toList) :
    canonicalName written = name := by
  have letters : name.toList = written.toList.map Char.toLower := by
    rw [← same]
    exact String.toList_map
  have kept : written.toList.filter (fun letter => letter ≠ '-' ∧ letter ≠ '_') =
      written.toList := by
    rw [List.filter_eq_self]
    intro letter member
    have lowered : letter.toLower ∈ name.toList := by
      rw [letters]
      exact List.mem_map_of_mem member
    rw [decide_eq_true_eq]
    constructor
    · rintro rfl
      exact noHyphen lowered
    · rintro rfl
      exact noUnderscore lowered
  rw [canonicalName, kept, ← letters, String.ofList_toList]

namespace Attributes

/-- The assignment that an attribute makes on nodes of a kind, if it makes one. -/
def assigned? (kind : Kind) (layout : HexLayout) (written : Attribute) : Option Assignment :=
  (Binding.assignment kind layout written).toOption.join

/-- A property in any spelling of its name makes the assignment read from the value. -/
theorem assigned?_of_property {written : Attribute} {property : Property}
    (asked : Property.ofName? written.name = some property) (kind : Kind) (layout : HexLayout) :
    assigned? kind layout written =
      (Binding.read kind layout written.name written.value property).toOption.join := by
  rw [assigned?, Binding.assignment, asked]

theorem assigned?_of_unknown {written : Attribute}
    (unknown : Property.ofName? written.name = none) (kind : Kind) (layout : HexLayout) :
    assigned? kind layout written = none := by
  rw [assigned?, Binding.assignment, unknown]
  rfl

/-- An assignment is read from the value as that of the property that the name asks for. -/
theorem exists_read_of_assigned? {kind : Kind} {layout : HexLayout} {written : Attribute}
    {made : Assignment} (assigned : assigned? kind layout written = some made) :
    ∃ property, Property.ofName? written.name = some property ∧
      Binding.read kind layout written.name written.value property = .ok (some made) := by
  cases asked : Property.ofName? written.name with
  | none =>
    rw [assigned?_of_unknown asked] at assigned
    cases assigned
  | some property =>
    rw [assigned?_of_property asked] at assigned
    refine ⟨property, rfl, ?_⟩
    cases read : Binding.read kind layout written.name written.value property with
    | error cause =>
      rw [read] at assigned
      cases assigned
    | ok result =>
      rw [read] at assigned
      have found : result = some made := assigned
      rw [found]

/-- The assignments that attributes make on nodes of a kind, in order. -/
def assignments (kind : Kind) (layout : HexLayout) (attributes : Attributes) : List Assignment :=
  attributes.filterMap (assigned? kind layout)

/-- No two of the assignments write one field. -/
def Distinct (kind : Kind) (layout : HexLayout) (attributes : Attributes) : Prop :=
  ((attributes.assignments kind layout).map Assignment.field).Nodup

instance (kind : Kind) (layout : HexLayout) (attributes : Attributes) :
    Decidable (attributes.Distinct kind layout) :=
  inferInstanceAs (Decidable (List.Nodup _))

end Attributes

theorem Node.bindAll_eq_assignAll (node : Node) (layout : HexLayout) (attributes : Attributes) :
    node.bindAll layout attributes =
      node.assignAll (attributes.assignments node.kind layout) := by
  induction attributes generalizing node with
  | nil => rfl
  | cons written rest inductionHypothesis =>
    have first : ((node.bind layout written).toOption).getD node =
        ((Attributes.assigned? node.kind layout written).map node.assign).getD node := by
      unfold Node.bind Attributes.assigned?
      cases Binding.assignment node.kind layout written with
      | error cause => rfl
      | ok assignment => cases assignment <;> rfl
    rw [Node.bindAll, List.foldl_cons, first]
    rw [Attributes.assignments, List.filterMap_cons]
    cases Attributes.assigned? node.kind layout written with
    | none => exact inductionHypothesis node
    | some assignment =>
      have later := inductionHypothesis (node.assign assignment)
      rw [kind_assign] at later
      exact later

/-! ### Ids -/

/-- The id that an assignment sets, if it sets one. -/
def Assignment.id? : Assignment → Option NodeId
  | id value => some value
  | _ => none

theorem Property.eq_id_of_field {property : Property} {kind : Kind}
    (isId : property.field kind = .id) : property = .id := by
  cases property with
  | id => rfl
  | value =>
    by_cases slider : kind = .slider
    · simp [Property.field, slider] at isId
    · simp [Property.field, slider] at isId
  | _ => exact absurd isId Field.noConfusion

/-- Exactly the attribute `id`, in any spelling, asks for the id. -/
theorem Property.ofName?_eq_id_iff {name : String} :
    Property.ofName? name = some .id ↔ canonicalName name = "id" := by
  constructor
  · intro asked
    obtain ⟨front, back, listed, _⟩ := List.lookup_eq_some_iff.mp asked
    have entry : (canonicalName name, Property.id) ∈ Property.table := by
      rw [listed]
      simp
    have only : ∀ entry ∈ Property.table, entry.2 = .id → entry.1 = "id" := by decide
    exact only _ entry rfl
  · intro isId
    rw [Property.ofName?, isId]
    rfl

namespace Binding

/-- An assignment of a value that may not be readable is one of a value that was read. -/
theorem exists_of_wrapped {α : Type} {result : Except BindingError α} {wrap : α → Assignment}
    {made : Assignment}
    (read : (do return some (wrap (← result)) : Except BindingError (Option Assignment)) =
      .ok (some made)) : ∃ value, result = .ok value ∧ made = wrap value := by
  cases result with
  | error cause => cases read
  | ok value =>
    cases read
    exact ⟨value, rfl, rfl⟩

/-- A property writes the field that belongs to it. -/
theorem field_of_read {kind : Kind} {layout : HexLayout} {name written : String}
    {property : Property} {made : Assignment}
    (read : Binding.read kind layout name written property = .ok (some made)) :
    made.field = property.field kind := by
  cases property with
  | id =>
    obtain ⟨value, _, rfl⟩ := Option.map_eq_some_iff.mp (Except.ok.inj read)
    rfl
  | color field => cases read; rfl
  | text field => cases read; rfl
  | path field => cases read; rfl
  | name field => cases read; rfl
  | value =>
    unfold Binding.read at read
    unfold Property.field
    by_cases slider : kind = .slider
    · rw [if_pos slider] at read ⊢
      obtain ⟨value, _, rfl⟩ := exists_of_wrapped read
      rfl
    · rw [if_neg slider] at read ⊢
      cases read
      rfl
  | _ =>
    unfold Binding.read at read
    obtain ⟨value, _, rfl⟩ := exists_of_wrapped read
    rfl

end Binding

namespace Attributes

/-- The ids that attributes name are those that their assignments set. -/
theorem ids_eq_filterMap (attributes : Attributes) (kind : Kind) (layout : HexLayout) :
    attributes.ids = (attributes.assignments kind layout).filterMap Assignment.id? := by
  rw [assignments, List.filterMap_filterMap, ids]
  apply List.filterMap_congr
  intro written _
  by_cases isId : canonicalName written.name = "id"
  · rw [if_pos isId, assigned?_of_property (Property.ofName?_eq_id_iff.mpr isId)]
    show _ = ((NodeId.ofValue? written.value).map Assignment.id).bind Assignment.id?
    cases NodeId.ofValue? written.value <;> rfl
  · rw [if_neg isId]
    cases asked : Property.ofName? written.name with
    | none => rw [assigned?_of_unknown asked, Option.bind_none]
    | some property =>
      rw [assigned?_of_property asked]
      cases read : Binding.read kind layout written.name written.value property with
      | error cause => rfl
      | ok made =>
        cases made with
        | none => rfl
        | some made =>
          have writes := Binding.field_of_read read
          cases made with
          | id =>
            rw [Property.eq_id_of_field writes.symm] at asked
            exact absurd (Property.ofName?_eq_id_iff.mp asked) isId
          | _ => rfl

/-- Attributes name no id exactly when none of their assignments writes it. -/
theorem ids_eq_nil_iff (attributes : Attributes) (kind : Kind) (layout : HexLayout) :
    attributes.ids = [] ↔ Field.id ∉ (attributes.assignments kind layout).map Assignment.field := by
  rw [ids_eq_filterMap attributes kind layout, List.filterMap_eq_nil_iff, List.mem_map]
  constructor
  · rintro unset ⟨made, member, isId⟩
    have without := unset made member
    cases made with
    | id => cases without
    | _ => exact absurd isId Field.noConfusion
  · intro unset made member
    cases made with
    | id value => exact absurd ⟨.id value, member, rfl⟩ unset
    | _ => rfl

/-- At most one of several assignments to different fields sets the id. -/
theorem filterMap_id?_of_perm {assignments others : List Assignment}
    (same : assignments.Perm others) (distinct : (assignments.map Assignment.field).Nodup) :
    assignments.filterMap Assignment.id? = others.filterMap Assignment.id? := by
  induction same with
  | nil => rfl
  | cons first _ inductionHypothesis =>
    rw [List.map_cons, List.nodup_cons] at distinct
    rw [List.filterMap_cons, List.filterMap_cons, inductionHypothesis distinct.2]
  | swap first second rest =>
    have different : second.field ≠ first.field := by
      intro sameField
      rw [List.map_cons, List.map_cons, sameField, List.nodup_cons] at distinct
      exact distinct.1 List.mem_cons_self
    cases first with
    | id =>
      cases second with
      | id => exact absurd rfl different
      | _ => rfl
    | _ => cases second <;> rfl
  | trans first _ inductionHypothesis later =>
    rw [inductionHypothesis distinct]
    exact later ((first.map Assignment.field).nodup_iff.mp distinct)

end Attributes

/-! ### Nodes made of attributes -/

namespace Node

/-- The node that a kind and attributes make from a ledger on, and the ledger they leave. -/
def made (kind : Kind) (layout : HexLayout) (attributes : Attributes) (ledger : IdLedger) :
    Node × IdLedger :=
  StateT.run (do (← anonymous kind).applyAll layout attributes) ledger

theorem made_eq (kind : Kind) (layout : HexLayout) (attributes : Attributes)
    (ledger : IdLedger) :
    made kind layout attributes ledger =
      let named := StateT.run (NodeId.generate kind) ledger
      ((ofKind named.1 kind).bindAll layout attributes, named.2.takeIds attributes.ids) := rfl

/-- Everything but the id of a made node comes from its kind and its attributes. -/
theorem exists_id_of_made (kind : Kind) (layout : HexLayout) (attributes : Attributes)
    (ledger : IdLedger) :
    ∃ id, (made kind layout attributes ledger).1 =
      (ofKind id kind).assignAll (attributes.assignments kind layout) :=
  ⟨_, bindAll_eq_assignAll (ofKind _ kind) layout attributes⟩

/-- Two rows of attributes that make the same assignments, in whatever order, make the same node
and take the same names. -/
theorem made_eq_of_perm {kind : Kind} {layout otherLayout : HexLayout}
    {attributes others : Attributes}
    (same : (attributes.assignments kind layout).Perm (others.assignments kind otherLayout))
    (distinct : attributes.Distinct kind layout) (ledger : IdLedger) :
    made kind layout attributes ledger = made kind otherLayout others ledger := by
  have names : attributes.ids = others.ids := by
    rw [Attributes.ids_eq_filterMap attributes kind layout,
      Attributes.ids_eq_filterMap others kind otherLayout]
    exact Attributes.filterMap_id?_of_perm same distinct
  have nodes : ∀ id, (ofKind id kind).bindAll layout attributes =
      (ofKind id kind).bindAll otherLayout others := by
    intro id
    rw [bindAll_eq_assignAll, bindAll_eq_assignAll]
    exact assignAll_of_perm same distinct _
  rw [made_eq, made_eq]
  dsimp only
  rw [names, nodes]

end Node

end SceneMarkup
