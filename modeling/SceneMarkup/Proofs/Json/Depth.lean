import SceneMarkup.Json.Reader

/-!
Contract: values that are read from text have few enough levels.

Owns:
- the number of levels of a value;
- the members of an object in order, among which no value is deeper than those written;
- the theorem that the reader gives no value of more levels than it allows.

Does not own: texts that are refused.
-/

namespace SceneMarkup.Json

open SceneMarkup.Text

namespace Value

mutual
/-- How many levels of arrays and objects a value has. -/
def depth : Value → Nat
  | array values => elementsDepth values + 1
  | object members => membersDepth members + 1
  | _ => 0

def elementsDepth : List Value → Nat
  | [] => 0
  | value :: rest => max value.depth (elementsDepth rest)

def membersDepth : List (String × Value) → Nat
  | [] => 0
  | (_, value) :: rest => max value.depth (membersDepth rest)
end

theorem membersDepth_le_iff {members : List (String × Value)} {levels : Nat} :
    membersDepth members ≤ levels ↔ ∀ member ∈ members, member.2.depth ≤ levels := by
  induction members with
  | nil => simp [membersDepth]
  | cons member rest inductionHypothesis =>
    rw [membersDepth, Nat.max_le, inductionHypothesis, List.forall_mem_cons]

/-- The keys of members do not matter. -/
theorem membersDepth_eq (members : List (String × Value)) :
    membersDepth members = elementsDepth (members.map Prod.snd) := by
  induction members with
  | nil => rfl
  | cons member rest inductionHypothesis =>
    rw [membersDepth, inductionHypothesis, List.map_cons, elementsDepth]

theorem depth_le_membersDepth {members : List (String × Value)} {member : String × Value}
    (listed : member ∈ members) : member.2.depth ≤ membersDepth members :=
  membersDepth_le_iff.mp (Nat.le_refl _) member listed

end Value

/-! ### Members in order -/

theorem eq_or_mem_of_mem_insertMember {key : String} {value : Value}
    {sorted : List (String × Value)} {member : String × Value}
    (listed : member ∈ insertMember key value sorted) :
    member = (key, value) ∨ member ∈ sorted := by
  induction sorted with
  | nil => exact .inl (List.mem_singleton.mp listed)
  | cons entry rest inductionHypothesis =>
    rw [insertMember] at listed
    split at listed
    · exact List.mem_cons.mp listed
    · split at listed
      · rcases List.mem_cons.mp listed with same | later
        · exact .inl same
        · exact .inr (List.mem_cons_of_mem _ later)
      · rcases List.mem_cons.mp listed with same | later
        · exact .inr (same ▸ List.mem_cons_self)
        · rcases inductionHypothesis later with same | later
          · exact .inl same
          · exact .inr (List.mem_cons_of_mem _ later)

theorem mem_of_mem_sortedMembers {members : List (String × Value)} {member : String × Value}
    (listed : member ∈ sortedMembers members) : member ∈ members := by
  have inserted (members sorted : List (String × Value))
      (listed : member ∈ members.foldl
        (fun sorted member => insertMember member.1 member.2 sorted) sorted) :
      member ∈ members ∨ member ∈ sorted := by
    induction members generalizing sorted with
    | nil => exact .inr listed
    | cons first rest inductionHypothesis =>
      rcases inductionHypothesis _ listed with later | earlier
      · exact .inl (List.mem_cons_of_mem _ later)
      · rcases eq_or_mem_of_mem_insertMember earlier with same | before
        · exact .inl (same ▸ List.mem_cons_self)
        · exact .inr before
  rcases inserted members [] listed with written | nothing
  · exact written
  · cases nothing

theorem membersDepth_sortedMembers (members : List (String × Value)) :
    Value.membersDepth (sortedMembers members) ≤ Value.membersDepth members :=
  Value.membersDepth_le_iff.mpr fun _ listed =>
    Value.depth_le_membersDepth (mem_of_mem_sortedMembers listed)

/-! ### The reader -/

theorem depth_of_scalar? {text : List Char} {value : Value} {rest : Rest text}
    (read : scalar? text = some (value, rest)) : value.depth = 0 := by
  have word {text behind : List Char} {value : Value}
      (read : word? text = some (value, behind)) : value.depth = 0 := by
    unfold word? at read
    split at read <;> cases read <;> rfl
  unfold scalar? at read
  split at read
  · split at read
    · cases read
    · cases read
      rfl
  · split at read
    · rename_i found
      cases read
      exact word found
    · split at read
      · cases read
        rfl
      · cases read

/-- Values that are read in a row: each at some place that leaves less of the text than the place
before it. -/
inductive ReadInRow (levels : Nat) : List Char → List Value → Prop where
  | last {text start : List Char} {value : Value} {behind : Rest start}
      (within : start.length ≤ text.length)
      (read : value? levels start = some (value, behind)) : ReadInRow levels text [value]
  | next {text start rest : List Char} {first : Value} {behind : Rest start} {others : List Value}
      (within : start.length ≤ text.length)
      (read : value? levels start = some (first, behind)) (shorter : rest.length < text.length)
      (row : ReadInRow levels rest others) : ReadInRow levels text (first :: others)

/-- A row is as deep as the deepest of the values that are read. -/
theorem ReadInRow.depth_le {levels : Nat} {text : List Char} {values : List Value}
    (row : ReadInRow levels text values)
    (bounded : ∀ start value (behind : Rest start), start.length ≤ text.length →
      value? levels start = some (value, behind) → value.depth ≤ levels) :
    Value.elementsDepth values ≤ levels := by
  induction row with
  | last within read => exact Nat.max_le.mpr ⟨bounded _ _ _ within read, Nat.zero_le levels⟩
  | next within read shorter _ inductionHypothesis =>
    refine Nat.max_le.mpr ⟨bounded _ _ _ within read, inductionHypothesis ?_⟩
    exact fun start value behind inside => bounded start value behind (by omega)

theorem length_lt_of_skipSpaces {text rest : List Char} {character : Char}
    (skipped : skipSpaces text = character :: rest) : rest.length < text.length := by
  have shorter := (skipSpaces_suffix text).length_le
  rw [skipped, List.length_cons] at shorter
  omega

theorem readInRow_of_elements? {levels : Nat} {text : List Char} {values : List Value}
    {after : Rest text} (read : elements? levels text = some (values, after)) :
    ReadInRow levels text values := by
  rw [elements?] at read
  split at read
  · cases read
  · rename_i first behind readFirst
    have within := (skipSpaces_suffix text).length_le
    split at read
    · cases read
      exact .last within readFirst
    · rename_i rest separated
      have shorter : rest.length < text.length := by
        have := length_lt_of_skipSpaces separated
        have := behind.property.length_lt
        omega
      obtain ⟨⟨others, later⟩, readRest, same⟩ := Option.map_eq_some_iff.mp read
      cases same
      exact .next within readFirst shorter (readInRow_of_elements? readRest)
    · cases read
termination_by text.length

theorem readInRow_of_members? {levels : Nat} {text : List Char} {members : List (String × Value)}
    {after : Rest text} (read : members? levels text = some (members, after)) :
    ReadInRow levels text (members.map Prod.snd) := by
  rw [members?] at read
  split at read
  · cases read
  · rename_i key afterKey readKey
    have within : (skipSpaces afterKey.val).length ≤ text.length := by
      have := (skipSpaces_suffix text).length_le
      have := afterKey.property.length_lt
      have := (skipSpaces_suffix afterKey.val).length_le
      omega
    split at read
    · cases read
    · rename_i first behind readFirst
      split at read
      · cases read
        exact .last within readFirst
      · rename_i rest separated
        have shorter : rest.length < text.length := by
          have := length_lt_of_skipSpaces separated
          have := behind.property.length_lt
          omega
        obtain ⟨⟨others, later⟩, readRest, same⟩ := Option.map_eq_some_iff.mp read
        cases same
        exact .next within readFirst shorter (readInRow_of_members? readRest)
      · cases read
termination_by text.length

/-- A value that is read has no levels, or one more than a row of values in what follows its first
character, if there are any. -/
theorem value?_cases {levels : Nat} {text : List Char} {value : Value} {after : Rest text}
    (read : value? levels text = some (value, after)) :
    value.depth = 0 ∨ ∃ lower rest values, levels = lower + 1 ∧ rest.length < text.length ∧
      value.depth ≤ Value.elementsDepth values + 1 ∧
        (values = [] ∨ ReadInRow lower rest values) := by
  unfold value? at read
  split at read
  · rename_i rest
    cases levels with
    | zero => cases read
    | succ lower =>
      dsimp only at read
      split at read
      · cases read
        exact .inr ⟨lower, rest, [], rfl, Nat.lt_succ_self _, Nat.le_refl _, .inl rfl⟩
      · obtain ⟨⟨values, behind⟩, found, same⟩ := Option.map_eq_some_iff.mp read
        cases same
        exact .inr ⟨lower, rest, values, rfl, Nat.lt_succ_self _, Nat.le_refl _,
          .inr (readInRow_of_elements? found)⟩
  · rename_i rest
    cases levels with
    | zero => cases read
    | succ lower =>
      dsimp only at read
      split at read
      · cases read
        exact .inr ⟨lower, rest, [], rfl, Nat.lt_succ_self _, Nat.le_refl _, .inl rfl⟩
      · obtain ⟨⟨members, behind⟩, found, same⟩ := Option.map_eq_some_iff.mp read
        cases same
        have sorted := membersDepth_sortedMembers members
        rw [Value.membersDepth_eq members] at sorted
        exact .inr ⟨lower, rest, members.map Prod.snd, rfl, Nat.lt_succ_self _,
          Nat.succ_le_succ sorted, .inr (readInRow_of_members? found)⟩
  · exact .inl (depth_of_scalar? read)

/-- A value that is read has as many levels as are left for it. -/
theorem depth_le_of_value? {levels : Nat} {text : List Char} {value : Value} {after : Rest text}
    (read : value? levels text = some (value, after)) : value.depth ≤ levels := by
  rcases value?_cases read with flat | ⟨lower, rest, values, rfl, shorter, deep, row⟩
  · omega
  · have bounded : Value.elementsDepth values ≤ lower := by
      rcases row with rfl | row
      · exact Nat.zero_le lower
      · exact row.depth_le fun start part behind _ readPart => depth_le_of_value? readPart
    omega
termination_by text.length

/-- No text is read as a value of too many levels. -/
theorem depth_le_of_read? {text : List Char} {value : Value} (read : read? text = some value) :
    value.depth ≤ maximalDepth := by
  unfold read? at read
  split at read
  · rename_i found
    split at read
    · cases read
      exact depth_le_of_value? found
    · cases read
  · cases read

end SceneMarkup.Json
