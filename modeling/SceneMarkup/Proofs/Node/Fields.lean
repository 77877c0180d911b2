import SceneMarkup.Proofs.Node.Settled

/-!
Contract: the binder, seen field by field.

Owns:
- `Node.held`, the value of each field of a node, which together with the kind make up the node;
- the effect of an assignment on every field, and that of a row of assignments;
- the field at which an attribute aims, and the value that it stores there;
- the theorem that binding is atomic, and that of several attributes the last one that converts
  decides on each field.

Does not own: how values are converted.
-/

namespace SceneMarkup

/-! ### Statement -/

namespace Node

def numberAt (node : Node) : NumberField → Float32
  | .x => node.x
  | .y => node.y
  | .margin => node.layout.margin
  | .padding => node.layout.padding
  | .min => node.state.min
  | .current => node.state.current
  | .max => node.state.max

def colorAt (node : Node) : ColorField → Option Color
  | .background => node.style.background
  | .borderColor => node.style.borderColor
  | .fill => node.style.fill
  | .textColor => node.style.textColor

def textAt (node : Node) : TextField → String
  | .text => node.text
  | .image => node.image
  | .value => node.state.value
  | .placeholder => node.state.placeholder

def flagAt (node : Node) : FlagField → Bool
  | .visible => node.layout.visible
  | .checked => node.state.checked
  | .selected => node.state.selected

def alignmentAt (node : Node) : AlignmentField → Alignment
  | .align => node.layout.align
  | .justify => node.layout.justify

/-- What a field holds, as the assignment of its value. -/
def held (node : Node) : Field → Assignment
  | .id => .id node.id
  | .number field => .number field (node.numberAt field)
  | .size field => .size field (node.sizeAt field)
  | .color field => .color field (node.colorAt field)
  | .text field => .text field (node.textAt field)
  | .flag field => .flag field (node.flagAt field)
  | .alignment field => .alignment field (node.alignmentAt field)
  | .name field => .name field (node.nameAt field)

end Node

/-- What a field holds after an assignment to it: sizes are clamped. -/
def Assignment.stored : Assignment → Assignment
  | size field value => .size field (clampedSize value)
  | made => made

namespace Attribute

/-- The field at which an attribute aims on nodes of a kind, by its canonical name. -/
def target? (kind : Kind) (written : Attribute) : Option Field :=
  (Property.ofName? written.name).map (·.field kind)

def aimsAt (kind : Kind) (field : Field) (written : Attribute) : Bool :=
  written.target? kind == some field

/-- What an attribute stores in a field of nodes of a kind, if it aims at the field and its value
converts. -/
def storedIn? (kind : Kind) (layout : HexLayout) (field : Field) (written : Attribute) :
    Option Assignment :=
  if written.aimsAt kind field then
    (Attributes.assigned? kind layout written).map Assignment.stored
  else none

end Attribute

/-! ### Fields of a node -/

attribute [ext] Style LayoutHints WidgetState Handlers Node

namespace Node

variable {node other : Node}

/-- The kind and the fields of a node are all of it. -/
theorem eq_of_held (kind : node.kind = other.kind)
    (same : ∀ field, node.held field = other.held field) : node = other := by
  have number (field : NumberField) : node.numberAt field = other.numberAt field := by
    simpa [held] using same (.number field)
  have size (field : SizeField) : node.sizeAt field = other.sizeAt field := by
    simpa [held] using same (.size field)
  have color (field : ColorField) : node.colorAt field = other.colorAt field := by
    simpa [held] using same (.color field)
  have text (field : TextField) : node.textAt field = other.textAt field := by
    simpa [held] using same (.text field)
  have flag (field : FlagField) : node.flagAt field = other.flagAt field := by
    simpa [held] using same (.flag field)
  have alignment (field : AlignmentField) : node.alignmentAt field = other.alignmentAt field := by
    simpa [held] using same (.alignment field)
  have name (field : NameField) : node.nameAt field = other.nameAt field := by
    simpa [held] using same (.name field)
  have id : node.id = other.id := by simpa [held] using same .id
  have style : node.style = other.style :=
    Style.ext (color .background) (color .borderColor) (size .borderWidth) (size .cornerRadius)
      (color .fill) (color .textColor) (size .fontSize)
  have layout : node.layout = other.layout :=
    LayoutHints.ext (flag .visible) (alignment .align) (alignment .justify) (number .margin)
      (number .padding)
  have state : node.state = other.state :=
    WidgetState.ext (text .value) (text .placeholder) (flag .checked) (flag .selected)
      (name .group) (number .min) (number .current) (number .max)
  have handlers : node.handlers = other.handlers :=
    Handlers.ext (name .onClick) (name .onHover) (name .onFocus) (name .onChange) (name .onBlur)
  exact Node.ext id kind (number .x) (number .y) (size .width) (size .height) style (text .text)
    (text .image) layout state handlers

/-- An assignment stores its value in its field. -/
theorem held_assign_self (node : Node) (made : Assignment) :
    (node.assign made).held made.field = made.stored := by
  cases made with
  | id => rfl
  | _ field => cases field <;> rfl

/-- An assignment leaves all other fields alone. -/
theorem held_assign_of_ne (node : Node) {made : Assignment} {field : Field}
    (different : field ≠ made.field) : (node.assign made).held field = node.held field := by
  cases made with
  | id =>
    cases field with
    | id => exact absurd rfl different
    | _ field => cases field <;> rfl
  | _ assigned =>
    cases field with
    | id => cases assigned <;> rfl
    | _ field => cases assigned <;> cases field <;> first | rfl | exact absurd rfl different

theorem held_assign (node : Node) (made : Assignment) (field : Field) :
    (node.assign made).held field = if field = made.field then made.stored else node.held field := by
  by_cases same : field = made.field
  · rw [if_pos same, same, held_assign_self]
  · rw [if_neg same, held_assign_of_ne node same]

/-- Of several assignments the last one to a field decides what it holds. -/
theorem held_assignAll (node : Node) (assignments : List Assignment) (field : Field) :
    (node.assignAll assignments).held field =
      ((assignments.reverse.find? fun made => made.field = field).map Assignment.stored).getD
        (node.held field) := by
  induction assignments generalizing node with
  | nil => rfl
  | cons first rest inductionHypothesis =>
    rw [assignAll_cons, inductionHypothesis, held_assign, List.reverse_cons, List.find?_append]
    cases rest.reverse.find? fun made => made.field = field with
    | some made => rfl
    | none =>
      by_cases same : first.field = field
      · simp [same]
      · simp [same, Ne.symm same]

end Node

/-! ### Attributes as values of fields -/

section Attributes

variable {kind : Kind} {layout : HexLayout}

/-- The assignment that an attribute makes is one to the field at which it aims. -/
theorem Attributes.field_of_assigned? {written : Attribute} {made : Assignment}
    (assigned : Attributes.assigned? kind layout written = some made) :
    written.target? kind = some made.field := by
  obtain ⟨property, asked, read⟩ := Attributes.exists_read_of_assigned? assigned
  rw [Attribute.target?, asked, Binding.field_of_read read]
  rfl

/-- The last assignment to a field comes from the last attribute that stores something in it. -/
theorem Attributes.find?_assignments (attributes : Attributes) (field : Field) :
    ((attributes.assignments kind layout).reverse.find? fun made => made.field = field).map
        Assignment.stored =
      attributes.reverse.findSome? (Attribute.storedIn? kind layout field) := by
  have step (written : Attribute) :
      (((Attributes.assigned? kind layout written).toList.find? fun made =>
        made.field = field).map Assignment.stored) = written.storedIn? kind layout field := by
    unfold Attribute.storedIn?
    cases assigned : Attributes.assigned? kind layout written with
    | none => simp
    | some made =>
      rw [Attribute.aimsAt, field_of_assigned? assigned]
      by_cases same : made.field = field
      · simp [same]
      · simp [same]
  rw [assignments, ← List.filterMap_reverse]
  induction attributes.reverse with
  | nil => rfl
  | cons written rest inductionHypothesis =>
    rw [List.findSome?_cons, ← step written, ← inductionHypothesis, List.filterMap_cons]
    cases Attributes.assigned? kind layout written with
    | none => rfl
    | some made =>
      by_cases same : made.field = field
      · simp [same]
      · simp [same]

/-- Attributes that aim elsewhere do not count for a field. -/
theorem Attributes.findSome?_filter (attributes : Attributes) (field : Field) :
    (attributes.filter (Attribute.aimsAt kind field)).reverse.findSome?
        (Attribute.storedIn? kind layout field) =
      attributes.reverse.findSome? (Attribute.storedIn? kind layout field) := by
  rw [← List.filter_reverse]
  induction attributes.reverse with
  | nil => rfl
  | cons written rest inductionHypothesis =>
    by_cases aimed : written.aimsAt kind field
    · rw [List.filter_cons_of_pos aimed, List.findSome?_cons, List.findSome?_cons,
        inductionHypothesis]
    · have nothing : written.storedIn? kind layout field = none := if_neg aimed
      rw [List.filter_cons_of_neg aimed, List.findSome?_cons, nothing, inductionHypothesis]

end Attributes

namespace Node

/-- After several attributes, each field holds what the last of them stores in it. -/
theorem held_bindAll (node : Node) (layout : HexLayout) (attributes : Attributes)
    (field : Field) :
    (node.bindAll layout attributes).held field =
      (attributes.reverse.findSome? (Attribute.storedIn? node.kind layout field)).getD
        (node.held field) := by
  rw [bindAll_eq_assignAll, held_assignAll, Attributes.find?_assignments]

/-- An attribute that binds aims at a field. -/
theorem exists_target_of_bind {node bound : Node} {layout : HexLayout} {written : Attribute}
    (done : node.bind layout written = .ok bound) :
    ∃ field, written.target? node.kind = some field := by
  cases asked : Property.ofName? written.name with
  | none =>
    rw [bind, Binding.assignment, asked] at done
    cases done
  | some property => exact ⟨property.field node.kind, by rw [Attribute.target?, asked]; rfl⟩

theorem bindAll_single (node : Node) (layout : HexLayout) (written : Attribute) :
    node.bindAll layout [written] = ((node.bind layout written).toOption).getD node := rfl

/-- The binder is atomic, and field by field the last attribute that converts wins.

One attribute either fails, and the node stays as it is, or it changes at most the field at which it
aims, to what it stores there whatever the other fields hold. Several attributes make the one node
in which each field holds what the last of them stores in it, among those whose canonical names are
not skipped, and its old value where none does. So the order of attributes counts only among those
that aim at one field. -/
theorem binding_is_fieldwise :
    (∀ (node : Node) (layout : HexLayout) (written : Attribute),
      (∃ cause, node.bind layout written = .error cause ∧ node.bindAll layout [written] = node) ∨
      ∃ bound field, node.bind layout written = .ok bound ∧
        node.bindAll layout [written] = bound ∧
        written.target? node.kind = some field ∧ bound.kind = node.kind ∧
        (∀ other, other ≠ field → bound.held other = node.held other) ∧
        bound.held field =
          (written.storedIn? node.kind layout field).getD (node.held field)) ∧
    (∀ (node : Node) (layout : HexLayout) (attributes : Attributes) (skipped : List String)
        (bound : Node),
      node.bindAll layout (attributes.except skipped) = bound ↔
        bound.kind = node.kind ∧ ∀ field, bound.held field =
          ((attributes.except skipped).reverse.findSome?
            (Attribute.storedIn? node.kind layout field)).getD (node.held field)) ∧
    ∀ (node : Node) (layout : HexLayout) (attributes others : Attributes) (skipped : List String),
      (∀ field, attributes.filter (Attribute.aimsAt node.kind field) =
        others.filter (Attribute.aimsAt node.kind field)) →
      node.bindAll layout (attributes.except skipped) =
        node.bindAll layout (others.except skipped) := by
  refine ⟨?_, ?_, ?_⟩
  · intro node layout written
    cases done : node.bind layout written with
    | error cause => exact .inl ⟨cause, rfl, by rw [bindAll_single, done]; rfl⟩
    | ok bound =>
      obtain ⟨field, aimed⟩ := exists_target_of_bind done
      have whole : node.bindAll layout [written] = bound := by
        rw [bindAll_single, done]
        rfl
      have holds (other : Field) : bound.held other =
          (written.storedIn? node.kind layout other).getD (node.held other) := by
        rw [← whole, held_bindAll, List.reverse_singleton, List.findSome?_cons]
        cases written.storedIn? node.kind layout other <;> rfl
      refine .inr ⟨bound, field, rfl, whole, aimed, kind_of_bind done, ?_, holds field⟩
      intro other different
      have nothing : written.storedIn? node.kind layout other = none := by
        apply if_neg
        rw [Attribute.aimsAt, aimed, beq_iff_eq]
        intro same
        exact different (Option.some.inj same).symm
      rw [holds, nothing]
      rfl
  · intro node layout attributes skipped bound
    constructor
    · rintro rfl
      exact ⟨kind_bindAll _ _ _, held_bindAll _ _ _⟩
    · rintro ⟨kind, holds⟩
      apply eq_of_held
      · rw [kind_bindAll, kind]
      · intro field
        rw [held_bindAll, holds]
  · intro node layout attributes others skipped same
    apply eq_of_held
    · rw [kind_bindAll, kind_bindAll]
    · intro field
      have kept : (attributes.except skipped).filter (Attribute.aimsAt node.kind field) =
          (others.except skipped).filter (Attribute.aimsAt node.kind field) := by
        rw [Attributes.except, Attributes.except, List.filter_comm, same, List.filter_comm]
      rw [held_bindAll, held_bindAll, ← Attributes.findSome?_filter, kept,
        Attributes.findSome?_filter]

/-- A slider is hidden and set, and behind its number stands a text for it. -/
def levelAttributes : Attributes := [⟨"hidden", "yes"⟩, ⟨"value", "2"⟩, ⟨"VALUE", "two"⟩]

/-- The text converts to no number, and hiding the slider may as well come last. -/
theorem binding_is_fieldwise_of_level :
    ((ofKind ⟨"level"⟩ .slider).bindAll .argb (levelAttributes.except [])).held
        (.number .current) = .number .current 2 ∧
      (ofKind ⟨"level"⟩ .slider).bindAll .argb (levelAttributes.except []) =
        (ofKind ⟨"level"⟩ .slider).bindAll .argb
          (Attributes.except (levelAttributes.drop 1 ++ levelAttributes.take 1) []) := by
  constructor
  · have holds := (binding_is_fieldwise.2.1 (ofKind ⟨"level"⟩ .slider) .argb levelAttributes []
      _).mp rfl
    rw [holds.2]
    decide
  · apply binding_is_fieldwise.2.2
    intro field
    have targets : levelAttributes.map (Attribute.target? .slider) =
        [some (.flag .visible), some (.number .current), some (.number .current)] := by
      decide
    rw [levelAttributes, List.map_cons, List.map_cons, List.map_cons, List.map_nil,
      List.cons.injEq, List.cons.injEq, List.cons.injEq] at targets
    by_cases hides : field = .flag .visible
    · simp [levelAttributes, ofKind, Attribute.aimsAt, targets, hides]
    · simp [levelAttributes, ofKind, Attribute.aimsAt, List.filter_cons, targets, Ne.symm hides]

end Node

end SceneMarkup
