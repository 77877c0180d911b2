import SceneMarkup.Text.Search

/-!
Contract: a cut goes around the first occurrence of its pattern.

Owns:
- the exact condition under which a text begins with a pattern;
- the absence of earlier occurrences in front of a cut, and of any where there is no cut;
- cuts whose outcome is known from the parts of a text;
- the characters across which a pattern does not reach.

Does not own: the search itself, which is `Text.Search`.
-/

namespace SceneMarkup.Text

/-- A pattern is found at the beginning of exactly those texts that begin with it. -/
theorem behindPattern?_eq_some_iff {pattern text behind : List Char} :
    behindPattern? pattern text = some behind ↔ text = pattern ++ behind := by
  constructor
  · exact eq_append_of_behindPattern?
  · rintro rfl
    induction pattern with
    | nil => rfl
    | cons first pattern inductionHypothesis =>
      rw [List.cons_append, behindPattern?, if_pos rfl, inductionHypothesis]

theorem behindPattern?_eq_none_iff {pattern text : List Char} :
    behindPattern? pattern text = none ↔ ¬ pattern <+: text := by
  constructor
  · rintro absent ⟨behind, same⟩
    rw [behindPattern?_eq_some_iff.mpr same.symm] at absent
    cases absent
  · intro absent
    cases found : behindPattern? pattern text with
    | none => rfl
    | some behind => exact absurd ⟨behind, (behindPattern?_eq_some_iff.mp found).symm⟩ absent

/-- Where there is no cut the pattern does not occur. -/
theorem not_infix_of_cutAt?_eq_none {pattern text : List Char}
    (absent : cutAt? pattern text = none) : ¬ pattern <:+: text := by
  induction text with
  | nil =>
    cases pattern with
    | nil => simp [cutAt?, cutFrom?] at absent
    | cons first pattern => simp
  | cons character rest inductionHypothesis =>
    rw [cutAt?_cons] at absent
    split at absent
    · cases absent
    · rename_i notHere
      rw [List.infix_cons_iff]
      rintro (here | later)
      · exact behindPattern?_eq_none_iff.mp notHere here
      · exact inductionHypothesis (Option.map_eq_none_iff.mp absent) later

/-- In front of the end of a cut the pattern does not occur earlier. -/
theorem not_infix_of_cutAt? {pattern text before behind : List Char}
    (found : cutAt? pattern text = some (before, behind)) (nonempty : pattern ≠ []) :
    ¬ pattern <:+: before ++ pattern.dropLast := by
  induction text generalizing before with
  | nil => simp [cutAt?, cutFrom?, nonempty] at found
  | cons character rest inductionHypothesis =>
    rw [cutAt?_cons] at found
    split at found
    · cases found
      intro occurs
      have shorter := occurs.length_le
      have positive := List.length_pos_iff.mpr nonempty
      simp only [List.nil_append, List.length_dropLast] at shorter
      omega
    · rename_i notHere
      obtain ⟨⟨front, back⟩, searched, same⟩ := Option.map_eq_some_iff.mp found
      cases same
      rw [List.cons_append, List.infix_cons_iff]
      rintro (here | later)
      · -- An occurrence at the beginning would be one in the whole text, where none was found.
        apply behindPattern?_eq_none_iff.mp notHere
        rw [eq_append_of_cutAt? searched]
        have whole := List.dropLast_concat_getLast nonempty
        refine here.trans ⟨[pattern.getLast nonempty] ++ back, ?_⟩
        conv => rhs; rw [← whole]
        simp only [List.cons_append, List.append_assoc, List.nil_append]
      · exact inductionHypothesis searched later

theorem cutAt?_cons_of_ne {first character : Char} {pattern rest : List Char}
    (different : first ≠ character) :
    cutAt? (first :: pattern) (character :: rest) =
      (cutAt? (first :: pattern) rest).map fun cut => (character :: cut.1, cut.2) := by
  rw [cutAt?_cons, behindPattern?, if_neg different]

theorem cutAt?_singleton {separator : Char} {before behind : List Char}
    (absent : separator ∉ before) :
    cutAt? [separator] (before ++ separator :: behind) = some (before, behind) := by
  induction before with
  | nil => rw [List.nil_append, cutAt?_cons, behindPattern?, if_pos rfl]; rfl
  | cons character before inductionHypothesis =>
    rw [List.mem_cons, not_or] at absent
    rw [List.cons_append, cutAt?_cons_of_ne absent.1, inductionHypothesis absent.2]
    rfl

/-- The first occurrence of a pattern is where the text is cut. -/
theorem cutAt?_eq_some {pattern before : List Char} (nonempty : pattern ≠ [])
    (first : ¬ pattern <:+: before ++ pattern.dropLast) (behind : List Char) :
    cutAt? pattern (before ++ (pattern ++ behind)) = some (before, behind) := by
  induction before with
  | nil =>
    obtain ⟨letter, letters, rfl⟩ := List.exists_cons_of_ne_nil nonempty
    have here := behindPattern?_eq_some_iff.mpr
      (rfl : letter :: letters ++ behind = letter :: letters ++ behind)
    rw [List.nil_append, List.cons_append, cutAt?_cons]
    rw [List.cons_append] at here
    rw [here]
  | cons character before inductionHypothesis =>
    rw [List.cons_append, List.infix_cons_iff, not_or] at first
    have absent : ¬ pattern <+: character :: (before ++ (pattern ++ behind)) := by
      intro occurs
      have short : character :: (before ++ pattern.dropLast) <+:
          character :: (before ++ (pattern ++ behind)) := by
        rw [List.cons_prefix_cons, List.prefix_append_right_inj]
        exact ⟨rfl, (List.dropLast_prefix pattern).trans (List.prefix_append _ _)⟩
      refine first.1 (List.prefix_of_prefix_length_le occurs short ?_)
      simp only [List.length_cons, List.length_append, List.length_dropLast]
      omega
    rw [List.cons_append, cutAt?_cons, behindPattern?_eq_none_iff.mpr absent,
      inductionHypothesis first.2]
    rfl

/-- A pattern without some character does not reach across that character. -/
theorem infix_of_infix_append_cons {pattern before behind : List Char} {character : Char}
    (absent : character ∉ pattern) (occurs : pattern <:+: before ++ character :: behind) :
    pattern <:+: before ∨ pattern <:+: behind := by
  obtain ⟨front, back, same⟩ := occurs
  rcases List.append_eq_append_iff.mp same with ⟨rest, inside, _⟩ | ⟨rest, ended, begun⟩
  · exact .inl ⟨front, rest, inside.symm⟩
  · rcases List.append_eq_append_iff.mp ended with ⟨tail, inside, split⟩ | ⟨tail, outside, split⟩
    · cases rest with
      | nil => exact .inl ⟨front, [], by rw [List.append_nil, ended, List.append_nil]⟩
      | cons first others =>
        obtain ⟨rfl, _⟩ := List.cons.inj begun
        exact absurd (by rw [split]; simp) absent
    · cases tail with
      | nil =>
        rw [List.nil_append] at split
        cases pattern with
        | nil => exact .inl (List.nil_infix)
        | cons first others =>
          rw [split] at begun
          obtain ⟨rfl, _⟩ := List.cons.inj begun
          exact absurd (List.mem_cons_self ..) absent
      | cons first others =>
        rw [split] at begun
        obtain ⟨rfl, rest⟩ := List.cons.inj begun
        exact .inr ⟨others, back, rest.symm⟩

/-- A pattern does not reach into a text that begins with a character it lacks. -/
theorem prefix_of_prefix_append {pattern text behind : List Char}
    (stops : ∀ character, behind.head? = some character → character ∉ pattern)
    (occurs : pattern <+: text ++ behind) : pattern <+: text := by
  rcases List.prefix_or_prefix_of_prefix occurs (List.prefix_append text behind) with
    inside | ⟨rest, rfl⟩
  · exact inside
  · rw [List.prefix_append_right_inj] at occurs
    cases rest with
    | nil => exact ⟨[], by simp⟩
    | cons first others =>
      obtain ⟨tail, rfl⟩ := occurs
      exact absurd (by simp) (stops first rfl)

end SceneMarkup.Text
