import SceneMarkup.Text.Stretch

/-!
Contract: where the stretches of a text begin and end.

Owns:
- the part read when the text behind it is known;
- the end of a plain stretch, which is the next item or the end of the text;
- the first stretch of a text, and the induction over all of them.

Does not own: any particular recogniser.
-/

namespace SceneMarkup.Text

theorem readPart_of_append (part behind : List Char) : readPart (part ++ behind) behind = part := by
  simp [readPart]

theorem readPart_ne_nil {text behind : List Char} (proper : ProperSuffix behind text) :
    readPart text behind ≠ [] := by
  intro empty
  have whole := readPart_append proper.suffix
  rw [empty, List.nil_append] at whole
  exact absurd proper.length_lt (by rw [whole]; exact Nat.lt_irrefl _)

namespace Recogniser

variable {α : Type} (recogniser : Recogniser α)

/-- A text at which the search for plain characters stops: it is empty or begins with an item. -/
def Stops (text : List Char) : Prop := text = [] ∨ (recogniser.read text).isSome

theorem plainFrom_of_stops {text : List Char} (stops : recogniser.Stops text)
    (reversed : List Char) : recogniser.plainFrom reversed text = (reversed.reverse, text) := by
  cases text with
  | nil => rfl
  | cons character rest =>
    have read := stops.resolve_left (List.cons_ne_nil _ _)
    rw [plainFrom, if_pos read]

/-- Plain characters are passed over up to a text at which the search stops. -/
theorem stops_plainFrom (reversed text : List Char) :
    recogniser.Stops (recogniser.plainFrom reversed text).2 := by
  induction text generalizing reversed with
  | nil => exact Or.inl rfl
  | cons character rest inductionHypothesis =>
    rw [plainFrom]
    split
    · rename_i read
      exact Or.inr read
    · exact inductionHypothesis _

/-- Plain text in front of other text: no item begins at any of its characters. -/
def Unread (behind : List Char) : List Char → Prop
  | [] => True
  | character :: rest =>
    recogniser.read (character :: (rest ++ behind)) = none ∧ Unread behind rest

/-- Plain characters come after those already passed over. -/
theorem plainFrom_eq (reversed text : List Char) :
    recogniser.plainFrom reversed text =
      (reversed.reverse ++ (recogniser.plainFrom [] text).1, (recogniser.plainFrom [] text).2) := by
  induction text generalizing reversed with
  | nil => simp [plainFrom]
  | cons character rest inductionHypothesis =>
    rw [plainFrom, plainFrom]
    split
    · simp
    · rw [inductionHypothesis (character :: reversed), inductionHypothesis [character]]
      simp

theorem stretches_nil : recogniser.stretches [] = [] := by rw [stretches]

/-- An item at the beginning of a text is its first stretch. -/
theorem stretches_of_read {text behind : List Char} {item : α}
    (read : recogniser.read text = some (item, behind)) :
    recogniser.stretches text =
      .item item (readPart text behind) :: recogniser.stretches behind := by
  cases text with
  | nil => exact absurd (recogniser.advances read).length_lt (Nat.not_lt_zero _)
  | cons character rest =>
    rw [stretches]
    split
    · rename_i found
      rw [read] at found
      cases found
      rfl
    · rename_i found
      rw [read] at found
      cases found

theorem plainFrom_of_unread {plain behind : List Char} (unread : recogniser.Unread behind plain)
    (stops : recogniser.Stops behind) :
    recogniser.plainFrom [] (plain ++ behind) = (plain, behind) := by
  induction plain with
  | nil => rw [List.nil_append, plainFrom_of_stops recogniser stops]; rfl
  | cons character rest inductionHypothesis =>
    obtain ⟨here, later⟩ := unread
    rw [List.cons_append, plainFrom, here, Option.isSome_none, if_neg Bool.false_ne_true,
      plainFrom_eq, inductionHypothesis later]
    rfl

/-- Plain text up to where the search stops is one stretch. -/
theorem stretches_plain {plain behind : List Char} (nonempty : plain ≠ [])
    (unread : recogniser.Unread behind plain) (stops : recogniser.Stops behind) :
    recogniser.stretches (plain ++ behind) = .plain plain :: recogniser.stretches behind := by
  cases plain with
  | nil => exact absurd rfl nonempty
  | cons character rest =>
    obtain ⟨here, later⟩ := unread
    rw [List.cons_append, stretches]
    split
    · rename_i found
      rw [here] at found
      cases found
    · rw [plainFrom_eq, plainFrom_of_unread recogniser later stops]
      rfl

theorem unread_plainFrom (text : List Char) :
    recogniser.Unread (recogniser.plainFrom [] text).2 (recogniser.plainFrom [] text).1 := by
  induction text with
  | nil => exact trivial
  | cons character rest inductionHypothesis =>
    rw [plainFrom]
    split
    · exact trivial
    · rename_i unread
      have whole := recogniser.plainFrom_append [] rest
      rw [List.reverse_nil, List.nil_append] at whole
      rw [plainFrom_eq]
      refine ⟨?_, inductionHypothesis⟩
      simpa [whole] using unread

/-- The stretches of a text from left to right: it suffices to look at an item in front of other
text, and at plain text up to where the search stops. -/
@[elab_as_elim]
theorem splitting_induction {motive : List Char → Prop} (nil : motive [])
    (item : ∀ text behind item, recogniser.read text = some (item, behind) → motive behind →
      motive text)
    (plain : ∀ plain behind, plain ≠ [] → recogniser.Unread behind plain →
      recogniser.Stops behind → motive behind → motive (plain ++ behind))
    (text : List Char) : motive text := by
  match text with
  | [] => exact nil
  | character :: rest =>
    cases read : recogniser.read (character :: rest) with
    | some found =>
      have shorter := (recogniser.advances read).length_lt
      exact item _ found.2 found.1 read (splitting_induction nil item plain found.2)
    | none =>
      have whole := recogniser.plainFrom_append [] rest
      rw [List.reverse_nil, List.nil_append] at whole
      have shorter := (properSuffix_cons character (recogniser.plainFrom_suffix [] rest)).length_lt
      have later := splitting_induction nil item plain (recogniser.plainFrom [] rest).2
      have unread : recogniser.Unread (recogniser.plainFrom [] rest).2
          (character :: (recogniser.plainFrom [] rest).1) :=
        ⟨by rw [whole]; exact read, recogniser.unread_plainFrom rest⟩
      have assembled := plain _ _ (List.cons_ne_nil _ _) unread
        (recogniser.stops_plainFrom [] rest) later
      rwa [List.cons_append, whole] at assembled
termination_by text.length
decreasing_by all_goals exact shorter

end Recogniser

end SceneMarkup.Text
