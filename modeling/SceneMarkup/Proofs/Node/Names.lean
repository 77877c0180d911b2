import Mathlib.Data.List.Perm.Subperm
import SceneMarkup.Proofs.Node.Assigning

/-!
Contract: the names that nodes take from a ledger.

Owns:
- generated names, which differ for different numbers;
- the freshness of the next generated name, whatever names are taken;
- which names are taken behind a node that is made of attributes;
- the id of such a node: the last that its attributes name, or else a generated one.

Does not own: the nodes of a document and their order.
-/

namespace SceneMarkup

/-! ### Generated names -/

namespace IdLedger

theorem generatedName_injective (kind : Kind) : Function.Injective (generatedName kind) := by
  intro first second same
  have digits : Nat.toDigits 10 first = Nat.toDigits 10 second :=
    String.ofList_injective ((String.append_right_inj _).mp same)
  calc
    first = Nat.ofDigitChars 10 (Nat.toDigits 10 first) 0 := Nat.ofDigitChars_ten_toDigits.symm
    _ = Nat.ofDigitChars 10 (Nat.toDigits 10 second) 0 := by rw [digits]
    _ = second := Nat.ofDigitChars_ten_toDigits

/-- A search that ends at a taken name has met taken names only. -/
theorem mem_of_firstFree_mem {taken : List String} {kind : Kind} {start count : Nat}
    (found : generatedName kind (firstFree taken kind start count) ∈ taken) {number : Nat}
    (behind : start ≤ number) (inside : number ≤ start + count) :
    generatedName kind number ∈ taken := by
  induction count generalizing start with
  | zero =>
    have same : number = start := Nat.le_antisymm inside behind
    rw [same]
    exact found
  | succ count inductionHypothesis =>
    rw [firstFree] at found
    by_cases first : generatedName kind start ∈ taken
    · rw [if_pos first] at found
      by_cases same : number = start
      · rw [same]
        exact first
      · exact inductionHypothesis found (by omega) (by omega)
    · rw [if_neg first] at found
      exact absurd found first

/-- The next generated name is free: one more candidate is looked at than names are taken. -/
theorem generatedName_nextFree_not_mem (ledger : IdLedger) (kind : Kind) :
    generatedName kind (ledger.nextFree kind) ∉ ledger.taken := by
  intro found
  have candidates : (((List.range (ledger.taken.length + 1)).map fun offset =>
      generatedName kind (ledger.next kind + offset))).Nodup :=
    List.nodup_range.map fun _ _ same =>
      Nat.add_left_cancel (generatedName_injective kind same)
  have taken : (List.range (ledger.taken.length + 1)).map (fun offset =>
      generatedName kind (ledger.next kind + offset)) ⊆ ledger.taken := by
    intro name member
    obtain ⟨offset, inside, rfl⟩ := List.mem_map.mp member
    have bound := List.mem_range.mp inside
    exact mem_of_firstFree_mem found (Nat.le_add_right _ _) (by omega)
  have bound := (candidates.subperm taken).length_le
  rw [List.length_map, List.length_range] at bound
  omega

/-! ### Taken names -/

theorem mem_taken_take {ledger : IdLedger} {name other : String} :
    other ∈ (ledger.take name).taken ↔ other = name ∨ other ∈ ledger.taken := by
  unfold take
  by_cases present : name ∈ ledger.taken
  · rw [if_pos present]
    constructor
    · exact Or.inr
    · rintro (rfl | before)
      · exact present
      · exact before
  · rw [if_neg present]
    exact List.mem_cons

theorem mem_taken_takeIds {ids : List NodeId} {ledger : IdLedger} {other : String} :
    other ∈ (ledger.takeIds ids).taken ↔ other ∈ ids.map NodeId.name ∨ other ∈ ledger.taken := by
  induction ids generalizing ledger with
  | nil => simp [takeIds]
  | cons id rest inductionHypothesis =>
    rw [takeIds, List.foldl_cons, ← takeIds, inductionHypothesis, mem_taken_take, List.map_cons,
      List.mem_cons]
    tauto

end IdLedger

/-! ### Nodes made of attributes -/

namespace Node

theorem id_assignAll (node : Node) (assignments : List Assignment) :
    (node.assignAll assignments).id =
      ((assignments.filterMap Assignment.id?).getLast?).getD node.id := by
  induction assignments generalizing node with
  | nil => rfl
  | cons first rest inductionHypothesis =>
    rw [assignAll_cons, inductionHypothesis, List.filterMap_cons]
    cases first with
    | id value =>
      have named : (node.assign (.id value)).id = value := rfl
      rw [named, Assignment.id?, List.getLast?_cons, Option.getD_some]
    | number field => cases field <;> rfl
    | size field => cases field <;> rfl
    | color field => cases field <;> rfl
    | text field => cases field <;> rfl
    | flag field => cases field <;> rfl
    | alignment field => cases field <;> rfl
    | name field => cases field <;> rfl

/-- The last id that attributes name is that of the node. -/
theorem id_bindAll (node : Node) (layout : HexLayout) (attributes : Attributes) :
    (node.bindAll layout attributes).id = attributes.ids.getLast?.getD node.id := by
  rw [bindAll_eq_assignAll, id_assignAll, ← Attributes.ids_eq_filterMap]

variable (kind : Kind) (layout : HexLayout) (attributes : Attributes) (ledger : IdLedger)

theorem id_made :
    (made kind layout attributes ledger).1.id =
      attributes.ids.getLast?.getD ⟨IdLedger.generatedName kind (ledger.nextFree kind)⟩ := by
  rw [made_eq]
  exact id_bindAll _ layout attributes

/-- The generated name is taken even if the attributes name another id. -/
theorem mem_taken_made {name : String} :
    name ∈ (made kind layout attributes ledger).2.taken ↔
      name ∈ attributes.ids.map NodeId.name ∨
        name = IdLedger.generatedName kind (ledger.nextFree kind) ∨ name ∈ ledger.taken := by
  rw [made_eq]
  exact IdLedger.mem_taken_takeIds.trans (or_congr_right IdLedger.mem_taken_take)

/-- The id of a made node is a taken name from then on. -/
theorem id_made_mem : (made kind layout attributes ledger).1.id.name ∈
    (made kind layout attributes ledger).2.taken := by
  rw [mem_taken_made, id_made]
  cases named : attributes.ids.getLast? with
  | none => exact .inr (.inl rfl)
  | some id => exact .inl (List.mem_map.mpr ⟨id, List.mem_of_getLast? named, rfl⟩)

end Node

end SceneMarkup
