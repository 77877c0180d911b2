import Mathlib.Data.List.Nodup
import SceneMarkup.Json.Value
import SceneMarkup.Text.Caseless

/-!
Contract: the members of an object, whose keys are sorted.

Owns:
- the sorted members, which are the members as written where no key repeats;
- the look-up of a member whose key no other member has, whatever the order.

Does not own: which members an object has.
-/

namespace SceneMarkup.Json

open SceneMarkup.Text

/-- A member with a new key is added, wherever it goes. -/
theorem insertMember_perm {key : String} {sorted : List (String × Value)}
    (fresh : key ∉ sorted.map Prod.fst) (value : Value) :
    (insertMember key value sorted).Perm ((key, value) :: sorted) := by
  induction sorted with
  | nil => exact .refl _
  | cons entry rest inductionHypothesis =>
    rw [List.map_cons, List.mem_cons, not_or] at fresh
    rw [insertMember]
    by_cases before : key < entry.1
    · rw [if_pos before]
    · rw [if_neg before, if_neg fresh.1]
      exact ((inductionHypothesis fresh.2).cons entry).trans (.swap _ _ _)

theorem foldl_insertMember_perm (members sorted : List (String × Value))
    (distinct : ((members ++ sorted).map Prod.fst).Nodup) :
    (members.foldl (fun sorted member => insertMember member.1 member.2 sorted) sorted).Perm
      (members ++ sorted) := by
  induction members generalizing sorted with
  | nil => exact .refl _
  | cons member rest inductionHypothesis =>
    rw [List.cons_append, List.map_cons, List.nodup_cons] at distinct
    have fresh : member.1 ∉ sorted.map Prod.fst := by
      intro taken
      apply distinct.1
      rw [List.map_append]
      exact List.mem_append_right _ taken
    have moved : (rest ++ insertMember member.1 member.2 sorted).Perm
        (member :: (rest ++ sorted)) :=
      ((insertMember_perm fresh member.2).append_left rest).trans List.perm_middle
    have later : ((rest ++ insertMember member.1 member.2 sorted).map Prod.fst).Nodup := by
      rw [(moved.map Prod.fst).nodup_iff, List.map_cons, List.nodup_cons]
      exact distinct
    exact (inductionHypothesis _ later).trans moved

/-- Members with distinct keys are sorted without any being lost. -/
theorem sortedMembers_perm {members : List (String × Value)}
    (distinct : (members.map Prod.fst).Nodup) : (sortedMembers members).Perm members := by
  have sorted := foldl_insertMember_perm members []
  rw [List.append_nil] at sorted
  exact sorted distinct

/-- The only member of a name is the one found, wherever it stands. -/
theorem lookupWord_of_unique {members : List (String × Value)} {name : String}
    {member : String × Value} (present : member ∈ members)
    (named : sameWord member.1 name = true)
    (unique : ∀ other ∈ members, sameWord other.1 name = true → other = member) :
    lookupWord name members = some member.2 := by
  unfold lookupWord
  cases found : members.find? fun entry => sameWord entry.1 name with
  | none => exact absurd named (List.find?_eq_none.mp found member present)
  | some other =>
    have matched := List.find?_some found
    rw [unique other (List.mem_of_find?_eq_some found) matched]
    rfl

theorem lookupWord_eq_none {members : List (String × Value)} {name : String}
    (absent : ∀ member ∈ members, sameWord member.1 name = false) :
    lookupWord name members = none := by
  unfold lookupWord
  rw [List.find?_eq_none.mpr]
  · rfl
  · intro member present
    rw [absent member present]
    exact Bool.false_ne_true

end SceneMarkup.Json
