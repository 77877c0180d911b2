import SceneMarkup.Proofs.Document.Settled
import SceneMarkup.Proofs.Scene.WrittenNode

/-!
Contract: the quantities of scene literals are finite.

Owns:
- `Finite`, for assignments and for nodes;
- the theorem that attributes make finite assignments, and that these keep a node finite;
- the theorem that all nodes of a scene literal are finite.

Does not own: the text of quantities. Factories compute sizes, which may leave the finite numbers.
-/

namespace SceneMarkup

open SceneMarkup.Number

/-- An assignment of a finite number, or of something else. -/
def Assignment.Finite : Assignment → Prop
  | .number _ value | .size _ value => isFiniteNumber value = true
  | _ => True

def Node.Finite (node : Node) : Prop :=
  ∀ quantity ∈ node.quantities, isFiniteNumber quantity = true

theorem isFiniteNumber_zero : isFiniteNumber 0 = true := rfl

theorem isFiniteNumber_clampedSize {number : Float32} (finite : isFiniteNumber number = true) :
    isFiniteNumber (clampedSize number) = true := by
  unfold clampedSize
  split
  · exact finite
  · exact isFiniteNumber_zero

/-! ### Assignments of attributes -/

namespace Binding

theorem isFiniteNumber_defaultNumber (field : NumberField) :
    isFiniteNumber (defaultNumber field) = true := by
  cases field <;> rfl

theorem isFiniteNumber_defaultSize (kind : Kind) (field : SizeField) :
    isFiniteNumber (defaultSize kind field) = true := by
  cases kind <;> cases field <;> rfl

/-- What is read as a number is finite, since the words for other numbers are refused. -/
theorem isFiniteNumber_of_readNumber {name value : String} {default number : Float32}
    (finite : isFiniteNumber default = true) (read : readNumber name value default = .ok number) :
    isFiniteNumber number = true := by
  unfold readNumber at read
  split at read
  · cases read
    exact finite
  · split at read
    · rename_i found
      cases read
      exact (Option.filter_eq_some_iff.mp found).2
    · cases read

theorem finite_of_read {kind : Kind} {layout : HexLayout} {name written : String}
    {property : Property} {made : Assignment}
    (read : Binding.read kind layout name written property = .ok (some made)) : made.Finite := by
  cases property with
  | number field =>
    obtain ⟨value, number, rfl⟩ := exists_of_wrapped read
    exact isFiniteNumber_of_readNumber (isFiniteNumber_defaultNumber field) number
  | size field =>
    obtain ⟨value, number, rfl⟩ := exists_of_wrapped read
    exact isFiniteNumber_of_readNumber (isFiniteNumber_defaultSize kind field) number
  | value =>
    unfold Binding.read at read
    by_cases slider : kind = .slider
    · rw [if_pos slider] at read
      obtain ⟨value, number, rfl⟩ := exists_of_wrapped read
      exact isFiniteNumber_of_readNumber (isFiniteNumber_defaultNumber .current) number
    · rw [if_neg slider] at read
      cases read
      exact trivial
  | id =>
    obtain ⟨value, _, rfl⟩ := Option.map_eq_some_iff.mp (Except.ok.inj read)
    exact trivial
  | color | text | path | name =>
    cases read
    exact trivial
  | flag | alignment =>
    obtain ⟨value, _, rfl⟩ := exists_of_wrapped read
    exact trivial

end Binding

/-! ### Nodes -/

namespace Node

theorem finite_ofKind (id : NodeId) (kind : Kind) : (ofKind id kind).Finite := by
  have quantities : (ofKind id kind).quantities =
      [0, 0, kind.defaultSize.1, kind.defaultSize.2, 0, 0, defaultFontSize, 0, 0, 0, 0, 100] := rfl
  rw [Finite, quantities]
  cases kind <;> decide

/-- A number replaces one of the quantities. -/
theorem exists_quantities_setNumber (node : Node) (value : Float32) (field : NumberField) :
    ∃ place, (node.setNumber value field).quantities = node.quantities.set place value := by
  cases field with
  | x => exact ⟨0, rfl⟩
  | y => exact ⟨1, rfl⟩
  | margin => exact ⟨7, rfl⟩
  | padding => exact ⟨8, rfl⟩
  | min => exact ⟨9, rfl⟩
  | current => exact ⟨10, rfl⟩
  | max => exact ⟨11, rfl⟩

theorem exists_quantities_setSize (node : Node) (value : Float32) (field : SizeField) :
    ∃ place, (node.setSize value field).quantities = node.quantities.set place value := by
  cases field with
  | width => exact ⟨2, rfl⟩
  | height => exact ⟨3, rfl⟩
  | borderWidth => exact ⟨4, rfl⟩
  | cornerRadius => exact ⟨5, rfl⟩
  | fontSize => exact ⟨6, rfl⟩

theorem Finite.of_set {node changed : Node} (finite : node.Finite) {place : Nat} {value : Float32}
    (replaced : changed.quantities = node.quantities.set place value)
    (fits : isFiniteNumber value = true) : changed.Finite := by
  intro quantity member
  rw [replaced] at member
  rcases List.mem_or_eq_of_mem_set member with kept | rfl
  · exact finite quantity kept
  · exact fits

theorem Finite.assign {node : Node} (finite : node.Finite) {made : Assignment}
    (fits : made.Finite) : (node.assign made).Finite := by
  cases made with
  | number field value =>
    obtain ⟨place, replaced⟩ := exists_quantities_setNumber node value field
    exact finite.of_set replaced fits
  | size field value =>
    obtain ⟨place, replaced⟩ := exists_quantities_setSize node (clampedSize value) field
    exact finite.of_set replaced (isFiniteNumber_clampedSize fits)
  | id => exact finite
  | color field | text field | flag field | alignment field | name field =>
    cases field <;> exact finite

theorem Finite.bindAll {node : Node} (finite : node.Finite) (layout : HexLayout)
    (attributes : Attributes) : (node.bindAll layout attributes).Finite := by
  have assigned : ∀ made ∈ attributes.assignments node.kind layout, made.Finite := by
    intro made member
    obtain ⟨written, _, assigned⟩ := List.mem_filterMap.mp member
    obtain ⟨property, _, read⟩ := Attributes.exists_read_of_assigned? assigned
    exact Binding.finite_of_read read
  rw [bindAll_eq_assignAll]
  exact List.foldlRecOn _ _ finite fun _ held made member =>
    Finite.assign held (assigned made member)

theorem kept_finite : Kept Finite where
  anonymous kind _ := finite_ofKind _ kind
  bindAll finite layout attributes := finite.bindAll layout attributes
  text finite _ := finite

end Node

/-! ### Literals -/

namespace Literal

/-- All nodes of literals are finite. -/
theorem gives_finite_buildNode (members : List (String × Json.Value)) :
    BuildM.Gives (buildNode members) Node.Finite :=
  gives_buildNode_of_kept Node.kept_finite members

end Literal

end SceneMarkup
