import SceneMarkup.Proofs.Text.Splitting

/-!
Contract: a text in which every item has been replaced.

Owns:
- `Recogniser.rewrite`, the text with each item replaced and everything between items kept;
- the laws of the text from left to right: an item at its beginning, and plain characters.

Does not own: which items there are, and what replaces them.
-/

namespace SceneMarkup.Text

namespace Recogniser

variable {α : Type} (recogniser : Recogniser α) (replace : α → List Char → List Char)

/-- What a stretch becomes; an item is replaced by something that may depend on its source. -/
def replacement : Stretch α → List Char
  | .item value source => replace value source
  | .plain source => source

/-- A text with each item replaced. -/
def rewrite (text : List Char) : List Char :=
  (recogniser.stretches text).flatMap (replacement replace)

theorem rewrite_nil : recogniser.rewrite replace [] = [] := by
  rw [rewrite, stretches_nil]
  rfl

theorem rewrite_of_read {item behind : List Char} {value : α}
    (read : recogniser.read (item ++ behind) = some (value, behind)) :
    recogniser.rewrite replace (item ++ behind) =
      replace value item ++ recogniser.rewrite replace behind := by
  rw [rewrite, stretches_of_read recogniser read, readPart_of_append]
  rfl

theorem rewrite_of_stops {plain behind : List Char} (unread : recogniser.Unread behind plain)
    (stops : recogniser.Stops behind) :
    recogniser.rewrite replace (plain ++ behind) = plain ++ recogniser.rewrite replace behind := by
  by_cases empty : plain = []
  · rw [empty]
    rfl
  · rw [rewrite, stretches_plain recogniser empty unread stops]
    rfl

theorem unread_append {plain others behind : List Char}
    (first : recogniser.Unread (others ++ behind) plain)
    (second : recogniser.Unread behind others) : recogniser.Unread behind (plain ++ others) := by
  induction plain with
  | nil => exact second
  | cons character rest inductionHypothesis =>
    obtain ⟨here, later⟩ := first
    refine ⟨?_, inductionHypothesis later⟩
    show recogniser.read (character :: ((rest ++ others) ++ behind)) = none
    rw [List.append_assoc]
    exact here

/-- Plain characters are kept, also in front of other plain characters. -/
theorem rewrite_of_unread {plain behind : List Char} (unread : recogniser.Unread behind plain) :
    recogniser.rewrite replace (plain ++ behind) = plain ++ recogniser.rewrite replace behind := by
  -- The plain text goes on up to where the search stops, and then it is one stretch.
  have whole := recogniser.plainFrom_append [] behind
  rw [List.reverse_nil, List.nil_append] at whole
  have stops := recogniser.stops_plainFrom [] behind
  have further := recogniser.unread_plainFrom behind
  rw [← whole] at unread ⊢
  rw [← List.append_assoc, recogniser.rewrite_of_stops replace
    (recogniser.unread_append unread further) stops, recogniser.rewrite_of_stops replace further
    stops, List.append_assoc]

end Recogniser

end SceneMarkup.Text
