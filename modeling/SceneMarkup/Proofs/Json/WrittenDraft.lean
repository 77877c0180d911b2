import SceneMarkup.Proofs.Json.Reading

/-!
Contract: the text of a draft is read as the value of the draft.

Owns:
- the value of a draft, the number of its levels and the legibility of its numbers;
- the theorem that a legible draft of few enough levels is read back.

Does not own: which numbers are legible, and what a value means.
-/

namespace SceneMarkup.Json

open SceneMarkup.Number

namespace Draft

/-- A number whose text, if it is finite, is one of a number and of nothing else. -/
def LegibleNumber (value : Float32) : Prop :=
  isFiniteNumber value = true → (number? (numberText value)).map Prod.snd = some []

instance (value : Float32) : Decidable (LegibleNumber value) :=
  inferInstanceAs (Decidable (_ → _))

/-- What the text of a number is read as. -/
def numberValue (value : Float32) : Value :=
  match number? (numberText value) with
  | some (read, []) => .number read
  | _ => .null

mutual
/-- The value that a draft writes, its members in the order of their keys. -/
def value : Draft → Value
  | boolean value => .boolean value
  | number value => numberValue value
  | string value => .string value
  | array values => .array (elementValues values)
  | object members => .object (sortedMembers (memberValues members))

def elementValues : List Draft → List Value
  | [] => []
  | draft :: rest => draft.value :: elementValues rest

def memberValues : List (String × Draft) → List (String × Value)
  | [] => []
  | (key, draft) :: rest => (key, draft.value) :: memberValues rest
end

/-- The text of a legible number is null, or it is read as a number. -/
theorem legibleNumber_cases {value : Float32} (legible : LegibleNumber value) :
    numberText value = ['n', 'u', 'l', 'l'] ∧ numberValue value = .null ∨
      ∃ number, number? (numberText value) = some (number, []) := by
  by_cases finite : isFiniteNumber value = true
  · obtain ⟨⟨number, rest⟩, read, nothing⟩ := Option.map_eq_some_iff.mp (legible finite)
    have whole : rest = [] := nothing
    rw [whole] at read
    exact .inr ⟨number, read⟩
  · have text : numberText value = ['n', 'u', 'l', 'l'] := if_neg finite
    have unread : number? ['n', 'u', 'l', 'l'] = none := by decide
    refine .inl ⟨text, ?_⟩
    rw [numberValue, text, unread]

theorem memberValues_eq_map (members : List (String × Draft)) :
    memberValues members = members.map fun member => (member.1, member.2.value) := by
  induction members with
  | nil => rfl
  | cons member rest inductionHypothesis =>
    rw [memberValues, inductionHypothesis, List.map_cons]

mutual
/-- How many levels of arrays and objects a draft has. -/
def depth : Draft → Nat
  | array values => elementsDepth values + 1
  | object members => membersDepth members + 1
  | _ => 0

def elementsDepth : List Draft → Nat
  | [] => 0
  | draft :: rest => max draft.depth (elementsDepth rest)

def membersDepth : List (String × Draft) → Nat
  | [] => 0
  | (_, draft) :: rest => max draft.depth (membersDepth rest)
end

mutual
/-- All numbers of a draft are legible. -/
def Legible : Draft → Prop
  | .number value => LegibleNumber value
  | array values => ElementsLegible values
  | object members => MembersLegible members
  | _ => True

def ElementsLegible : List Draft → Prop
  | [] => True
  | draft :: rest => draft.Legible ∧ ElementsLegible rest

def MembersLegible : List (String × Draft) → Prop
  | [] => True
  | (_, draft) :: rest => draft.Legible ∧ MembersLegible rest
end

theorem membersLegible_iff {members : List (String × Draft)} :
    MembersLegible members ↔ ∀ member ∈ members, member.2.Legible := by
  induction members with
  | nil => simp [MembersLegible]
  | cons member rest inductionHypothesis =>
    rw [MembersLegible, inductionHypothesis, List.forall_mem_cons]

end Draft

theorem skipSpaces_newLine (level : Nat) (rest : List Char) :
    skipSpaces (Draft.newLine level ++ rest) = skipSpaces rest := by
  apply List.dropWhile_append_of_pos
  intro character member
  rcases List.mem_cons.mp member with rfl | member
  · rfl
  · rw [(List.mem_replicate.mp member).2]
    rfl

theorem skipSpaces_cons {character : Char} (visible : isSpace character = false)
    (rest : List Char) : skipSpaces (character :: rest) = character :: rest :=
  List.dropWhile_cons_of_neg (by rw [visible]; exact Bool.false_ne_true)

theorem skipSpaces_space (rest : List Char) : skipSpaces (' ' :: rest) = skipSpaces rest :=
  List.dropWhile_cons_of_pos rfl

theorem endsNumber_newLine (level : Nat) (rest : List Char) :
    EndsNumber (Draft.newLine level ++ rest) :=
  endsNumber_cons (.inr rfl) _

/-- The text of a draft begins with a character that is neither blank nor the end of an array. -/
theorem exists_cons_of_text (level : Nat) {draft : Draft} (legible : draft.Legible) :
    ∃ first rest, draft.text level = first :: rest ∧ isSpace first = false ∧ first ≠ ']' := by
  unfold Draft.text
  split
  · rename_i value
    cases value
    · exact ⟨'f', _, rfl, by decide, by decide⟩
    · exact ⟨'t', _, rfl, by decide, by decide⟩
  · rcases Draft.legibleNumber_cases legible with ⟨null, _⟩ | ⟨number, read⟩
    · exact ⟨'n', _, null, by decide, by decide⟩
    · obtain ⟨first, rest, begins, numeric⟩ := exists_cons_of_number? read
      refine ⟨first, rest, begins, ?_, ?_⟩
      · cases blank : isSpace first with
        | false => rfl
        | true =>
          simp only [isSpace, Bool.or_eq_true, beq_iff_eq] at blank
          rcases blank with ((rfl | rfl) | rfl) | rfl <;> exact absurd numeric (by decide)
      · rintro rfl
        exact absurd numeric (by decide)
  · exact ⟨'"', _, rfl, by decide, by decide⟩
  · exact ⟨'[', _, rfl, by decide, by decide⟩
  · exact ⟨'[', _, rfl, by decide, by decide⟩
  · exact ⟨'\x7b', _, rfl, by decide, by decide⟩
  · exact ⟨'\x7b', _, rfl, by decide, by decide⟩

/-- The text of a draft is what stands behind blanks in front of it. -/
theorem skipSpaces_text (level : Nat) {draft : Draft} (legible : draft.Legible)
    (rest : List Char) : skipSpaces (draft.text level ++ rest) = draft.text level ++ rest := by
  obtain ⟨first, others, begins, visible, _⟩ := exists_cons_of_text level legible
  rw [begins, List.cons_append, skipSpaces_cons visible]

theorem readsKey (key : String) (level : Nat) (rest : List Char) :
    ∃ left, key? (skipSpaces (Draft.newLine level ++
      (writtenString key.toList ++ ':' :: rest))) = some (key, left) ∧ left.val = rest := by
  have body : stringBody? (key.toList.flatMap writtenCharacter ++ '"' :: ':' :: rest) =
      some (key.toList, ':' :: rest) := stringBody?_written _ _
  obtain ⟨left, found, same⟩ := exists_of_key? body
  rw [String.ofList_toList] at found
  have whole : skipSpaces (Draft.newLine level ++ (writtenString key.toList ++ ':' :: rest)) =
      '"' :: (key.toList.flatMap writtenCharacter ++ '"' :: ':' :: rest) := by
    rw [skipSpaces_newLine, writtenString, List.cons_append, skipSpaces_cons (by decide),
      List.append_assoc]
    rfl
  rw [whole]
  exact ⟨left, found, same⟩

theorem reads_boolean {levels : Nat} (value : Bool) (behind : List Char) :
    Reads levels (Draft.booleanText value ++ behind) (.boolean value) behind := by
  cases value with
  | true => exact reads_word (by decide) (by decide) (by decide) rfl
  | false => exact reads_word (by decide) (by decide) (by decide) rfl

theorem reads_numberText {levels : Nat} {value : Float32} (legible : Draft.LegibleNumber value)
    {behind : List Char} (ends : EndsNumber behind) :
    Reads levels (Draft.numberText value ++ behind) (Draft.numberValue value) behind := by
  rcases Draft.legibleNumber_cases legible with ⟨null, nothing⟩ | ⟨number, read⟩
  · rw [null, nothing]
    exact reads_word (by decide) (by decide) (by decide) rfl
  · have whole := number?_append ends (Draft.numberText value)
    rw [read] at whole
    rw [Draft.numberValue, read]
    exact reads_number whole

theorem endsNumber_elementsText (level : Nat) (rest : List Draft) {behind : List Char}
    (ends : EndsNumber behind) : EndsNumber (Draft.elementsText level rest ++ behind) := by
  cases rest with
  | nil => exact ends
  | cons next others => exact endsNumber_cons (.inl rfl) _

theorem endsNumber_membersText (level : Nat) (rest : List (String × Draft)) {behind : List Char}
    (ends : EndsNumber behind) : EndsNumber (Draft.membersText level rest ++ behind) := by
  cases rest with
  | nil => exact ends
  | cons next others => exact endsNumber_cons (.inl rfl) _

mutual
/-- The text of a draft is read as its value, in front of whatever ends a number. -/
theorem reads_text (draft : Draft) (legible : draft.Legible) {levels : Nat}
    (fits : draft.depth ≤ levels) (level : Nat) {behind : List Char} (ends : EndsNumber behind) :
    Reads levels (draft.text level ++ behind) draft.value behind := by
  match draft, levels, fits with
  | .boolean value, _, _ => exact reads_boolean value behind
  | .number value, _, _ => exact reads_numberText legible ends
  | .string value, levels, _ =>
    have read : Reads levels
        ('"' :: (value.toList.flatMap writtenCharacter ++ '"' :: behind)) _ _ :=
      reads_string (stringBody?_written value.toList behind)
    rw [String.ofList_toList] at read
    rw [Draft.text, writtenString, List.cons_append, List.append_assoc]
    exact read
  | .array [], _ + 1, _ => exact reads_emptyArray
  | .array (first :: rest), levels + 1, fits =>
    have inside : max first.depth (Draft.elementsDepth rest) ≤ levels := Nat.le_of_succ_le_succ fits
    have begins := skipSpaces_text (level + 1) legible.1 (Draft.elementsText (level + 1) rest ++
      (Draft.newLine level ++ ']' :: behind))
    simp only [Draft.text, List.cons_append, List.append_assoc, List.nil_append]
    apply reads_array
    · intro closed same
      obtain ⟨character, others, text, _, nonempty⟩ := exists_cons_of_text (level + 1) legible.1
      rw [skipSpaces_newLine, begins, text] at same
      exact nonempty (List.cons.inj same).1
    · apply readsElements_text rest legible.2 (Nat.le_trans (Nat.le_max_right _ _) inside)
        (level + 1) level
      rw [skipSpaces_newLine, begins]
      apply reads_text first legible.1 (Nat.le_trans (Nat.le_max_left _ _) inside)
      exact endsNumber_elementsText _ rest (endsNumber_newLine level _)
  | .object [], _ + 1, _ => exact reads_emptyObject
  | .object ((key, first) :: rest), levels + 1, fits =>
    have inside : max first.depth (Draft.membersDepth rest) ≤ levels := Nat.le_of_succ_le_succ fits
    simp only [Draft.text, List.cons_append, List.append_assoc, List.nil_append]
    apply reads_object
    · intro closed same
      rw [skipSpaces_newLine, writtenString, List.cons_append, skipSpaces_cons (by decide)] at same
      cases same
    · apply readsMembers_text rest legible.2 (Nat.le_trans (Nat.le_max_right _ _) inside)
        (level + 1) level (readsKey key _ _)
      rw [skipSpaces_space, skipSpaces_text _ legible.1]
      apply reads_text first legible.1 (Nat.le_trans (Nat.le_max_left _ _) inside)
      exact endsNumber_membersText _ rest (endsNumber_newLine level _)

/-- The elements of an array behind the first one are read up to the end of the array. -/
theorem readsElements_text (rest : List Draft) (legible : Draft.ElementsLegible rest) {levels : Nat}
    (fits : Draft.elementsDepth rest ≤ levels) (level outer : Nat) {text behind : List Char}
    {first : Value}
    (read : Reads levels (skipSpaces text) first (Draft.elementsText level rest ++
      (Draft.newLine outer ++ ']' :: behind))) :
    ReadsElements levels text (first :: Draft.elementValues rest) behind := by
  match rest with
  | [] =>
    apply readsElements_last read
    rw [Draft.elementsText, List.nil_append, skipSpaces_newLine, skipSpaces_cons (by decide)]
  | next :: others =>
    apply readsElements_cons read
    · rw [Draft.elementsText, List.cons_append, skipSpaces_cons (by decide)]
    · apply readsElements_text others legible.2 (Nat.le_trans (Nat.le_max_right _ _) fits) level
        outer
      rw [List.append_assoc, List.append_assoc, skipSpaces_newLine, skipSpaces_text level legible.1]
      apply reads_text next legible.1 (Nat.le_trans (Nat.le_max_left _ _) fits) level
      exact endsNumber_elementsText level others (endsNumber_newLine outer _)

/-- The members of an object behind the first one are read up to the end of the object. -/
theorem readsMembers_text (rest : List (String × Draft)) (legible : Draft.MembersLegible rest)
    {levels : Nat} (fits : Draft.membersDepth rest ≤ levels) (level outer : Nat)
    {text valueText behind : List Char} {key : String} {first : Value}
    (readKey : ∃ left, key? (skipSpaces text) = some (key, left) ∧ left.val = valueText)
    (read : Reads levels (skipSpaces valueText) first (Draft.membersText level rest ++
      (Draft.newLine outer ++ '\x7d' :: behind))) :
    ReadsMembers levels text ((key, first) :: Draft.memberValues rest) behind := by
  match rest with
  | [] =>
    apply readsMembers_last readKey read
    rw [Draft.membersText, List.nil_append, skipSpaces_newLine, skipSpaces_cons (by decide)]
  | (nextKey, next) :: others =>
    apply readsMembers_cons readKey read
    · rw [Draft.membersText, List.cons_append, skipSpaces_cons (by decide)]
    · simp only [List.cons_append, List.append_assoc]
      apply readsMembers_text others legible.2 (Nat.le_trans (Nat.le_max_right _ _) fits) level
        outer (readsKey nextKey level _)
      rw [skipSpaces_space, skipSpaces_text _ legible.1]
      apply reads_text next legible.1 (Nat.le_trans (Nat.le_max_left _ _) fits)
      exact endsNumber_membersText level others (endsNumber_newLine outer _)
end

/-- A whole text is read as the value of the draft that it writes. -/
theorem read?_render {draft : Draft} (legible : draft.Legible)
    (fits : draft.depth ≤ maximalDepth) : read? draft.render.toList = some draft.value := by
  have read : Reads maximalDepth (skipSpaces (draft.text 0)) draft.value [] := by
    have begins := skipSpaces_text 0 legible []
    rw [List.append_nil] at begins
    have whole := reads_text draft legible fits 0 endsNumber_nil
    rw [List.append_nil] at whole
    rw [begins]
    exact whole
  obtain ⟨rest, found, same⟩ := read
  rw [Draft.render, String.toList_ofList, read?, found]
  dsimp only
  rw [same]
  rfl

end SceneMarkup.Json
