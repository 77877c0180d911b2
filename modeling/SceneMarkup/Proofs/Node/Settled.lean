import SceneMarkup.Proofs.Node.Assigning
import SceneMarkup.Proofs.Number.Legible

/-!
Contract: nodes whose fields have the values that attributes give them.

Owns:
- `Settled`, for ids, for assignments and for nodes: reading such a value changes nothing in it;
- the theorem that attributes make settled assignments, and that these keep a node settled;
- the ids that a ledger generates, and those of parts, which are settled.

Does not own: which nodes a document has.
-/

namespace SceneMarkup

open SceneMarkup.Text SceneMarkup.Number

/-! ### Settled values -/

/-- A name without blanks around it and not empty, as ids are. -/
def NodeId.Settled (id : NodeId) : Prop := NodeId.ofValue? id.name = some id

/-- A name that is missing, or not empty and without blanks around it. -/
def SettledName (name : Option String) : Prop :=
  (name.bind fun name => Binding.present (trimmed name)) = name

/-- An assignment of a value that reading leaves as it is. The number of a slider is not text. -/
def Assignment.Settled (kind : Kind) : Assignment → Prop
  | .id value => value.Settled
  | .text .image value => trimmed value = value
  | .text .value _ => kind ≠ .slider
  | .name _ value => SettledName value
  | _ => True

namespace Node

def sizeAt (node : Node) : SizeField → Float32
  | .width => node.width
  | .height => node.height
  | .borderWidth => node.style.borderWidth
  | .cornerRadius => node.style.cornerRadius
  | .fontSize => node.style.fontSize

def nameAt (node : Node) : NameField → Option String
  | .group => node.state.group
  | .onClick => node.handlers.onClick
  | .onHover => node.handlers.onHover
  | .onFocus => node.handlers.onFocus
  | .onChange => node.handlers.onChange
  | .onBlur => node.handlers.onBlur

/-- A node whose fields have values that reading leaves as they are. -/
structure Settled (node : Node) : Prop where
  id : node.id.Settled
  sizes : ∀ field, clampedSize (node.sizeAt field) = node.sizeAt field
  image : trimmed node.image = node.image
  names : ∀ field, SettledName (node.nameAt field)
  slider : node.kind = .slider → node.state.value = ""

end Node

theorem clampedSize_clampedSize (number : Float32) :
    clampedSize (clampedSize number) = clampedSize number := by
  unfold clampedSize
  by_cases positive : 0 < number
  · rw [if_pos positive, if_pos positive]
  · rw [if_neg positive]
    exact ite_self 0

namespace NodeId

theorem settled_of_trimmed {id : NodeId} (trimmed_name : trimmed id.name = id.name)
    (visible : id.name ≠ "") : id.Settled := by
  unfold Settled ofValue?
  dsimp only
  rw [trimmed_name, if_neg visible]

theorem trimmed_of_settled {id : NodeId} (settled : id.Settled) :
    trimmed id.name = id.name ∧ id.name ≠ "" := by
  unfold Settled ofValue? at settled
  dsimp only at settled
  by_cases blank : trimmed id.name = ""
  · rw [if_pos blank] at settled
    cases settled
  · rw [if_neg blank] at settled
    have same : trimmed id.name = id.name := congrArg NodeId.name (Option.some.inj settled)
    rw [same] at blank
    exact ⟨same, blank⟩

theorem settled_of_ofValue? {value : String} {id : NodeId} (read : ofValue? value = some id) :
    id.Settled := by
  unfold ofValue? at read
  dsimp only at read
  by_cases blank : trimmed value = ""
  · rw [if_pos blank] at read
    cases read
  · rw [if_neg blank] at read
    cases read
    exact settled_of_trimmed (trimmed_trimmed value) blank

end NodeId

theorem settledName_present (value : String) :
    SettledName (Binding.present (trimmed value)) := by
  unfold SettledName Binding.present
  by_cases blank : trimmed value = ""
  · rw [if_pos blank]
    rfl
  · rw [if_neg blank, Option.bind_some, trimmed_trimmed, if_neg blank]

/-! ### Assignments -/

namespace Node

theorem sizeAt_assign (node : Node) (field other : SizeField) (value : Float32) :
    (node.assign (.size field value)).sizeAt other =
      if other = field then clampedSize value else node.sizeAt other := by
  cases field <;> cases other <;> rfl

theorem nameAt_assign (node : Node) (field other : NameField) (value : Option String) :
    (node.assign (.name field value)).nameAt other =
      if other = field then value else node.nameAt other := by
  cases field <;> cases other <;> rfl

theorem Settled.assign {node : Node} (settled : node.Settled) {made : Assignment}
    (fits : made.Settled node.kind) : (node.assign made).Settled := by
  obtain ⟨id, sizes, image, names, slider⟩ := settled
  cases made with
  | id value => exact ⟨fits, sizes, image, names, slider⟩
  | number field value => cases field <;> exact ⟨id, sizes, image, names, slider⟩
  | size field value =>
    have assigned : ∀ other, clampedSize ((node.assign (.size field value)).sizeAt other) =
        (node.assign (.size field value)).sizeAt other := by
      intro other
      rw [sizeAt_assign]
      by_cases same : other = field
      · rw [if_pos same, clampedSize_clampedSize]
      · rw [if_neg same, sizes]
    cases field <;> exact ⟨id, assigned, image, names, slider⟩
  | color field value => cases field <;> exact ⟨id, sizes, image, names, slider⟩
  | text field value =>
    cases field with
    | image => exact ⟨id, sizes, fits, names, slider⟩
    | value => exact ⟨id, sizes, image, names, fun isSlider => absurd isSlider fits⟩
    | _ => exact ⟨id, sizes, image, names, slider⟩
  | flag field value => cases field <;> exact ⟨id, sizes, image, names, slider⟩
  | alignment field value => cases field <;> exact ⟨id, sizes, image, names, slider⟩
  | name field value =>
    have assigned : ∀ other, SettledName ((node.assign (.name field value)).nameAt other) := by
      intro other
      rw [nameAt_assign]
      by_cases same : other = field
      · rw [if_pos same]
        exact fits
      · rw [if_neg same]
        exact names other
    cases field <;> exact ⟨id, sizes, image, assigned, slider⟩

theorem Settled.assignAll {node : Node} (settled : node.Settled) {assignments : List Assignment}
    (fit : ∀ made ∈ assignments, made.Settled node.kind) :
    (node.assignAll assignments).Settled := by
  induction assignments generalizing node with
  | nil => exact settled
  | cons first rest inductionHypothesis =>
    obtain ⟨fitsFirst, fitRest⟩ := List.forall_mem_cons.mp fit
    apply inductionHypothesis (settled.assign fitsFirst)
    rw [kind_assign]
    exact fitRest

end Node

/-! ### Assignments of attributes -/

/-- Whether a property that copies text copies it into a field for text, and one that trims it
into the field for a path. -/
def Property.isProper : Property → Bool
  | .text field => field == .text || field == .placeholder
  | .path field => field == .image
  | _ => true

theorem Property.isProper_of_ofName? {name : String} {property : Property}
    (asked : Property.ofName? name = some property) : property.isProper = true := by
  obtain ⟨front, back, listed, _⟩ := List.lookup_eq_some_iff.mp asked
  have entry : (canonicalName name, property) ∈ Property.table := by
    rw [listed]
    simp
  have proper : Property.table.all fun entry => entry.2.isProper := by decide
  exact List.all_eq_true.mp proper _ entry

theorem Binding.settled_of_read {kind : Kind} {layout : HexLayout} {name written : String}
    {property : Property} {made : Assignment} (proper : property.isProper = true)
    (read : Binding.read kind layout name written property = .ok (some made)) :
    made.Settled kind := by
  cases property with
  | id =>
    obtain ⟨value, named, rfl⟩ := Option.map_eq_some_iff.mp (Except.ok.inj read)
    exact NodeId.settled_of_ofValue? named
  | color field =>
    cases read
    exact trivial
  | text field =>
    cases read
    cases field with
    | image => cases proper
    | value => cases proper
    | _ => exact trivial
  | path field =>
    cases read
    cases field with
    | image => exact trimmed_trimmed written
    | _ => cases proper
  | name field =>
    cases read
    exact settledName_present written
  | value =>
    unfold Binding.read at read
    by_cases slider : kind = .slider
    · rw [if_pos slider] at read
      obtain ⟨value, _, rfl⟩ := exists_of_wrapped read
      exact trivial
    · rw [if_neg slider] at read
      cases read
      exact slider
  | _ =>
    unfold Binding.read at read
    obtain ⟨value, _, rfl⟩ := exists_of_wrapped read
    exact trivial

/-- Attributes make settled assignments. -/
theorem Attributes.settled_of_mem_assignments {kind : Kind} {layout : HexLayout}
    {attributes : Attributes} :
    ∀ made ∈ attributes.assignments kind layout, made.Settled kind := by
  intro made member
  obtain ⟨written, _, assigned⟩ := List.mem_filterMap.mp member
  obtain ⟨property, asked, read⟩ := exists_read_of_assigned? assigned
  exact Binding.settled_of_read (Property.isProper_of_ofName? asked) read

theorem Node.Settled.bindAll {node : Node} (settled : node.Settled) (layout : HexLayout)
    (attributes : Attributes) : (node.bindAll layout attributes).Settled := by
  rw [bindAll_eq_assignAll]
  exact settled.assignAll Attributes.settled_of_mem_assignments

/-! ### New nodes -/

theorem NodeId.settled_of_visible {name : String} (nonempty : name ≠ "")
    (visible : ∀ character ∈ name.toList, isBlank character = false) :
    NodeId.Settled ⟨name⟩ := by
  apply settled_of_trimmed _ nonempty
  rw [trimmed, trim_eq_self_of_visible visible, String.ofList_toList]

/-- Generated names consist of letters, an underscore and digits. -/
theorem IdLedger.settled_generatedName (kind : Kind) (number : Nat) :
    NodeId.Settled ⟨generatedName kind number⟩ := by
  have letters : (kind.name.toList ++ "_".toList).all (fun letter => !isBlank letter) = true := by
    cases kind <;> decide
  have text : (generatedName kind number).toList =
      kind.name.toList ++ "_".toList ++ Nat.toDigits 10 number := by
    simp [generatedName]
  apply NodeId.settled_of_visible
  · intro empty
    rw [empty] at text
    simp at text
  · intro character member
    rw [text] at member
    rcases List.mem_append.mp member with letter | digit
    · simpa using List.all_eq_true.mp letters character letter
    · have isDigit := Nat.isDigit_of_mem_toDigits (by decide) (by decide) digit
      simp only [Char.isDigit, Bool.and_eq_true, decide_eq_true_eq] at isDigit
      have above : '0' ≤ character := isDigit.1
      have below : character ≤ '9' := isDigit.2
      have bounds : 48 ≤ character.toNat ∧ character.toNat ≤ 57 := bounds_of_le above below
      exact isBlank_eq_false_of_ascii (by omega) (by omega)

/-- The id of a part goes on with an underscore and the name of the part. -/
theorem NodeId.settled_part {id : NodeId} (settled : id.Settled) {part : String}
    (visible : ∀ character ∈ part.toList, isBlank character = false) :
    NodeId.Settled ⟨id.name ++ "_" ++ part⟩ := by
  obtain ⟨trimmedName, nonempty⟩ := trimmed_of_settled settled
  have kept : trim id.name.toList = id.name.toList := by
    rw [← String.toList_ofList (l := trim id.name.toList)]
    exact congrArg String.toList trimmedName
  have text : (id.name ++ "_" ++ part).toList = id.name.toList ++ '_' :: part.toList := by
    simp
  apply settled_of_trimmed
  · rw [trimmed, text, trim_append_of_visible kept, ← text, String.ofList_toList]
    · intro empty
      exact nonempty (String.toList_eq_nil_iff.mp empty)
    · exact List.cons_ne_nil _ _
    · exact List.forall_mem_cons.mpr ⟨by decide, visible⟩
  · intro (empty : id.name ++ "_" ++ part = "")
    rw [empty] at text
    simp at text

/-- The sizes of nodes that declare none are no less than zero. -/
theorem Binding.clampedSize_defaultSize (kind : Kind) (field : SizeField) :
    clampedSize (defaultSize kind field) = defaultSize kind field := by
  cases kind <;> cases field <;> decide

theorem Node.sizeAt_ofKind (id : NodeId) (kind : Kind) (field : SizeField) :
    (ofKind id kind).sizeAt field = Binding.defaultSize kind field := by
  cases field <;> rfl

theorem Node.settled_ofKind {id : NodeId} (settled : id.Settled) (kind : Kind) :
    (ofKind id kind).Settled := by
  refine ⟨settled, ?_, rfl, ?_, fun _ => rfl⟩
  · intro field
    rw [sizeAt_ofKind, Binding.clampedSize_defaultSize]
  · intro field
    cases field <;> rfl

end SceneMarkup
