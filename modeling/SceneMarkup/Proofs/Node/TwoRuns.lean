import SceneMarkup.Proofs.Node.Assigning

/-!
Contract: one computation run from two ledgers.

Owns:
- the relation between the values of two computations, whatever names are taken for each, for the
  two kinds of computations;
- nodes that are the same up to their ids;
- the nodes that two runs make of one row of attributes.

Does not own: trees, and which nodes an id is chosen for.
-/

namespace SceneMarkup

/-! ### Computations -/

section Computations

variable {α β : Type} {alike : α → α → Prop} {later : β → β → Prop}

/-- Two computations give values that are alike, whatever names are taken for each of them. -/
def IdM.Relates (alike : α → α → Prop) (first second : IdM α) : Prop :=
  ∀ ledger other, alike (StateT.run first ledger).1 (StateT.run second other).1

theorem IdM.relates_bind {first second : IdM α} {next nextOfSecond : α → IdM β}
    (related : IdM.Relates alike first second)
    (goesOn : ∀ value other, alike value other →
      IdM.Relates later (next value) (nextOfSecond other)) :
    IdM.Relates later (first >>= next) (second >>= nextOfSecond) :=
  fun ledger other => goesOn _ _ (related ledger other) (StateT.run first ledger).2
    (StateT.run second other).2

theorem IdM.relates_pure {value other : α} (same : alike value other) :
    IdM.Relates alike (pure value) (pure other) :=
  fun _ _ => same

/-- Two ends that are alike: values that are, or the same error. -/
inductive EndAlike (alike : α → α → Prop) : Except ParseError α → Except ParseError α → Prop
  | given {value other : α} (same : alike value other) : EndAlike alike (.ok value) (.ok other)
  | failed (cause : ParseError) : EndAlike alike (.error cause) (.error cause)

/-- Two computations end alike, whatever names are taken for each of them. -/
def BuildM.Relates (alike : α → α → Prop) (first second : BuildM α) : Prop :=
  ∀ ledger other, EndAlike alike (first.outcome ledger).1 (second.outcome other).1

theorem BuildM.relates_bind {first second : BuildM α} {next nextOfSecond : α → BuildM β}
    (related : BuildM.Relates alike first second)
    (goesOn : ∀ value other, alike value other →
      BuildM.Relates later (next value) (nextOfSecond other)) :
    BuildM.Relates later (first >>= next) (second >>= nextOfSecond) := by
  intro ledger other
  have ends := related ledger other
  cases firstEnd : first.outcome ledger with
  | mk result middle =>
    cases secondEnd : second.outcome other with
    | mk otherResult otherMiddle =>
      rw [firstEnd, secondEnd] at ends
      cases ends with
      | given same =>
        rw [BuildM.outcome_bind_ok next firstEnd, BuildM.outcome_bind_ok nextOfSecond secondEnd]
        exact goesOn _ _ same middle otherMiddle
      | failed cause =>
        rw [BuildM.outcome_bind_error next firstEnd,
          BuildM.outcome_bind_error nextOfSecond secondEnd]
        exact .failed cause

theorem BuildM.relates_pure {value other : α} (same : alike value other) :
    BuildM.Relates alike (pure value) (pure other) :=
  fun _ _ => .given same

theorem BuildM.relates_throw (cause : ParseError) :
    BuildM.Relates alike (throw cause) (throw cause) :=
  fun _ _ => .failed cause

/-- Computations that only take names are related as parts of computations that may fail. -/
theorem BuildM.relates_lift {first second : IdM α} (related : IdM.Relates alike first second) :
    BuildM.Relates alike (liftM first) (liftM second) :=
  fun ledger other => .given (related ledger other)

theorem BuildM.Relates.mono {weaker : α → α → Prop} {first second : BuildM α}
    (related : BuildM.Relates alike first second)
    (implied : ∀ value other, alike value other → weaker value other) :
    BuildM.Relates weaker first second := by
  intro ledger other
  have ends := related ledger other
  generalize (first.outcome ledger).1 = result, (second.outcome other).1 = otherResult at ends
  cases ends with
  | given same => exact .given (implied _ _ same)
  | failed cause => exact .failed cause

end Computations

/-! ### Nodes -/

namespace Node

/-- The node with another id. -/
def withId (node : Node) (id : NodeId) : Node := { node with id }

/-- Two nodes that agree in every field but perhaps the id, and in the id too if it is chosen. -/
structure Alike (chosen : Prop) (node other : Node) : Prop where
  fields : other = node.withId other.id
  id : chosen → other.id = node.id

variable {chosen : Prop} {node other : Node}

theorem Alike.kind (alike : node.Alike chosen other) : other.kind = node.kind := by
  rw [alike.fields]
  rfl

/-- Nodes that are alike stay so when both are edited in fields other than the id. -/
theorem Alike.edit (alike : node.Alike chosen other) (edit : Node → Node)
    (kept : ∀ node id, edit (node.withId id) = (edit node).withId id) :
    (edit node).Alike chosen (edit other) := by
  have keptId : ∀ node : Node, (edit node).id = node.id := by
    intro node
    have unchanged := kept node node.id
    rw [show node.withId node.id = node from rfl] at unchanged
    rw [unchanged]
    rfl
  refine ⟨?_, fun named => ?_⟩
  · rw [keptId, ← kept, ← alike.fields]
  · rw [keptId, keptId, alike.id named]

/-- Attributes set all fields alike, and if they name an id, the ids before do not count. -/
theorem Alike.bindAll (alike : node.Alike chosen other) (layout : HexLayout)
    (attributes : Attributes) :
    (node.bindAll layout attributes).Alike (attributes.ids ≠ []) (other.bindAll layout attributes)
      := by
  have start : other = node.assign (.id other.id) := alike.fields
  have bound : other.bindAll layout attributes = (node.assign (.id other.id)).assignAll
      (attributes.assignments node.kind layout) := by
    rw [bindAll_eq_assignAll, alike.kind, ← start]
  by_cases unnamed : attributes.ids = []
  · have same := assignAll_assign_id node other.id
      ((Attributes.ids_eq_nil_iff attributes node.kind layout).mp unnamed)
    rw [same, ← bindAll_eq_assignAll] at bound
    refine ⟨?_, fun named => absurd unnamed named⟩
    rw [bound]
    rfl
  · have writes : Field.id ∈ (attributes.assignments node.kind layout).map Assignment.field := by
      by_contra unwritten
      exact unnamed ((Attributes.ids_eq_nil_iff attributes node.kind layout).mpr unwritten)
    rw [assignAll_of_id_mem node other.id writes, ← bindAll_eq_assignAll] at bound
    rw [bound]
    exact ⟨rfl, fun _ => rfl⟩

theorem relates_anonymous (kind : Kind) :
    IdM.Relates (Alike False) (anonymous kind) (anonymous kind) :=
  fun _ _ => ⟨rfl, False.elim⟩

theorem Alike.relates_applyAll (alike : node.Alike chosen other) (layout : HexLayout)
    (attributes : Attributes) :
    IdM.Relates (Alike (attributes.ids ≠ [])) (node.applyAll layout attributes)
      (other.applyAll layout attributes) :=
  fun _ _ => alike.bindAll layout attributes

end Node

end SceneMarkup
