import SceneMarkup.Text.Suffix

/-!
Contract: finding a fixed pattern in a text.

Owns:
- `cutAt?`, the split of a text around the first occurrence of a pattern;
- the law that the parts and the pattern make up the text.

Does not own: what the patterns mean.
-/

namespace SceneMarkup.Text

/-- The text behind a pattern with which it begins. -/
def behindPattern? : (pattern text : List Char) → Option (List Char)
  | [], text => some text
  | _ :: _, [] => none
  | first :: pattern, character :: text =>
    if first = character then behindPattern? pattern text else none

/-- The search for `cutAt?`, with the characters already passed over in reverse. -/
def cutFrom? (pattern reversed : List Char) : List Char → Option (List Char × List Char)
  | [] => if pattern.isEmpty then some (reversed.reverse, []) else none
  | character :: rest =>
    match behindPattern? pattern (character :: rest) with
    | some behind => some (reversed.reverse, behind)
    | none => cutFrom? pattern (character :: reversed) rest

/-- The text before the first occurrence of `pattern` and the text behind it. -/
def cutAt? (pattern text : List Char) : Option (List Char × List Char) := cutFrom? pattern [] text

/-- Characters passed over come before the first part. -/
theorem cutFrom?_eq (pattern reversed text : List Char) :
    cutFrom? pattern reversed text =
      (cutAt? pattern text).map fun cut => (reversed.reverse ++ cut.1, cut.2) := by
  induction text generalizing reversed with
  | nil => by_cases empty : pattern.isEmpty <;> simp [cutAt?, cutFrom?, empty]
  | cons character rest inductionHypothesis =>
    simp only [cutAt?, cutFrom?]
    cases behindPattern? pattern (character :: rest) with
    | some behind => simp
    | none =>
      simp only [inductionHypothesis (character :: reversed), inductionHypothesis [character]]
      cases cutAt? pattern rest <;> simp

/-- An occurrence at the beginning is the first one; otherwise the search goes on behind the first
character. -/
theorem cutAt?_cons (pattern : List Char) (character : Char) (rest : List Char) :
    cutAt? pattern (character :: rest) =
      match behindPattern? pattern (character :: rest) with
      | some behind => some ([], behind)
      | none => (cutAt? pattern rest).map fun cut => (character :: cut.1, cut.2) := by
  rw [cutAt?, cutFrom?]
  cases behindPattern? pattern (character :: rest) with
  | some behind => rfl
  | none => simp [cutFrom?_eq]

theorem eq_append_of_behindPattern? {pattern text behind : List Char}
    (found : behindPattern? pattern text = some behind) : text = pattern ++ behind := by
  fun_induction behindPattern? pattern text with
  | case1 text =>
    cases found
    rfl
  | case2 => cases found
  | case3 pattern character text inductionHypothesis =>
    rw [List.cons_append, ← inductionHypothesis found]
  | case4 => cases found

theorem eq_append_of_cutAt? {pattern text before behind : List Char}
    (found : cutAt? pattern text = some (before, behind)) :
    text = before ++ (pattern ++ behind) := by
  induction text generalizing before with
  | nil =>
    simp only [cutAt?, cutFrom?] at found
    split at found <;> simp_all
  | cons character rest inductionHypothesis =>
    rw [cutAt?_cons] at found
    split at found
    · rename_i occurrence
      cases found
      simpa using eq_append_of_behindPattern? occurrence
    · cases searched : cutAt? pattern rest with
      | none => simp [searched] at found
      | some cut =>
        simp only [searched, Option.map_some, Option.some.injEq, Prod.mk.injEq] at found
        obtain ⟨rfl, rfl⟩ := found
        simpa using inductionHypothesis searched

theorem properSuffix_of_cutAt? {pattern text before behind : List Char}
    (found : cutAt? pattern text = some (before, behind)) (nonempty : pattern ≠ []) :
    ProperSuffix behind text where
  suffix := ⟨before ++ pattern, by rw [eq_append_of_cutAt? found]; simp⟩
  length_lt := by
    have := List.length_pos_iff.mpr nonempty
    rw [eq_append_of_cutAt? found]
    simp only [List.length_append]
    omega

/-- The parts of a text between the occurrences of a separating character; there is always
one more part than there are separators. -/
def splitOn (separator : Char) : List Char → List (List Char)
  | [] => [[]]
  | character :: rest =>
    match splitOn separator rest with
    | [] => [[character]]
    | part :: parts =>
      if character = separator then [] :: part :: parts else (character :: part) :: parts

end SceneMarkup.Text
