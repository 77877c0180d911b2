import SceneMarkup.Proofs.Markup.Scanning

/-!
Contract: rows of pieces, each read in front of the sources of those behind it.

Owns:
- `Scanned`, the pieces that the strict scan reads one after another;
- the ends of such a row, which are read in the same way;
- what a mark says about the text at whose beginning it is read;
- the first and the last character of a tag or a comment.

Does not own: which pieces belong together.
-/

namespace SceneMarkup.Markup

open SceneMarkup.Text

/-- Pieces from a byte position on, each read by the strict scan in front of the sources of the
others. -/
inductive Scanned : Nat → List Piece → Prop
  | nil (position : Nat) : Scanned position []
  | marked {position : Nat} {mark : Mark} {source : List Char} {rest : List Piece}
      (read : mark? .strict (source ++ sourceOf rest) = some (mark, sourceOf rest))
      (later : Scanned (position + byteCount source) rest) :
      Scanned position (⟨mark, source, position⟩ :: rest)
  | plain {position : Nat} {source : List Char} {rest : List Piece}
      (unread : (marks .strict).Unread (sourceOf rest) source)
      (later : Scanned (position + byteCount source) rest) :
      Scanned position (⟨.text, source, position⟩ :: rest)

theorem scanned_piecesAt (text : List Char) (position : Nat) :
    Scanned position (piecesAt .strict position text) := by
  induction text using (marks .strict).splitting_induction generalizing position with
  | nil =>
    rw [piecesAt_nil]
    exact .nil position
  | item text behind mark read inductionHypothesis =>
    rw [piecesAt_of_mark? read]
    refine .marked ?_ (inductionHypothesis _)
    rw [sourceOf_piecesAt, readPart_append (properSuffix_of_mark? read).suffix]
    exact read
  | plain plain behind nonempty unread stops inductionHypothesis =>
    rw [piecesAt_plain nonempty unread stops]
    refine .plain ?_ (inductionHypothesis _)
    rw [sourceOf_piecesAt]
    exact unread

theorem Scanned.drop {position : Nat} {pieces : List Piece} (scanned : Scanned position pieces)
    (count : Nat) :
    Scanned (position + byteCount (sourceOf (pieces.take count))) (pieces.drop count) := by
  induction scanned generalizing count with
  | nil position =>
    rw [List.drop_nil]
    exact .nil _
  | marked read later inductionHypothesis =>
    cases count with
    | zero => exact .marked read later
    | succ count =>
      simpa [Nat.add_assoc] using inductionHypothesis count
  | plain unread later inductionHypothesis =>
    cases count with
    | zero => exact .plain unread later
    | succ count =>
      simpa [Nat.add_assoc] using inductionHypothesis count

/-! ### Marks at the beginning of a text -/

section Marks

variable {recovery : Recovery} {text behind : List Char} {mark : Mark}

theorem behindComment?_of_mark? (read : mark? recovery text = some (.comment, behind)) :
    behindComment? text = some behind := by
  cases markRead_of_mark? read with
  | comment commented => exact commented

/-- What is read as a tag does not begin like a comment. -/
theorem commentForm_of_mark? (read : mark? recovery text = some (mark, behind))
    (token : mark ≠ .comment) : CommentForm.of? text = none := by
  apply Option.map_eq_none_iff.mp
  show behindComment? text = none
  cases markRead_of_mark? read with
  | comment => exact absurd rfl token
  | closing uncommented => exact uncommented
  | opening uncommented => exact uncommented
  | brokenClosing uncommented => exact uncommented
  | brokenOpening uncommented => exact uncommented

theorem commentForm_of_unread (unread : mark? recovery text = none) :
    CommentForm.of? text = none := by
  apply Option.map_eq_none_iff.mp
  show behindComment? text = none
  cases commented : behindComment? text with
  | none => rfl
  | some behind =>
    rw [(MarkRead.comment commented).mark?_eq] at unread
    cases unread

theorem openingTag?_of_mark? {tag : OpeningTag}
    (read : mark? recovery ('<' :: text) = some (.opening tag, behind)) :
    openingTag? text = some (tag, behind) := by
  cases markRead_of_mark? read with
  | opening _ _ opened => exact opened

end Marks

/-! ### The ends of a piece -/

/-- An opening tag begins with a `<` and ends with a `>`. -/
theorem exists_inner_of_opening {recovery : Recovery} {source behind : List Char}
    {tag : OpeningTag} (read : mark? recovery (source ++ behind) = some (.opening tag, behind)) :
    ∃ inner, source = '<' :: (inner ++ ['>']) := by
  obtain ⟨inner, same⟩ := writes_of_mark? read
  rw [readPart_of_append] at same
  exact ⟨tag.name.toList ++ inner, by rw [same, List.append_assoc]⟩

/-- A tag or a comment without braces begins with a `<`, and ends with a `>` if anything follows. -/
theorem exists_tail_of_mark? {recovery : Recovery} {source behind : List Char} {mark : Mark}
    (read : mark? recovery (source ++ behind) = some (mark, behind)) (ended : mark ≠ .unterminated)
    (unbraced : '\x7b' ∉ source) :
    ∃ tail, source = '<' :: tail ∧ (behind = [] ∨ tail.getLast? = some '>') := by
  have written := writes_of_mark? read
  rw [readPart_of_append] at written
  cases mark with
  | opening tag =>
    obtain ⟨inner, same⟩ := written
    exact ⟨_, same, .inr (by simp)⟩
  | closing name =>
    obtain ⟨inner, same⟩ := written
    exact ⟨_, same, .inr (by simp [List.getLast?_cons])⟩
  | text => exact absurd rfl (ne_text_of_mark? read)
  | unterminated => exact absurd rfl ended
  | comment =>
    obtain ⟨form, known, opened, closed⟩ := written
    simp only [List.mem_cons, List.not_mem_nil, or_false] at known
    rcases known with rfl | rfl
    · obtain ⟨others, rfl⟩ := opened
      refine ⟨'!' :: '-' :: '-' :: others, rfl, ?_⟩
      rcases closed with ⟨⟨front, same⟩, _⟩ | ⟨_, nothing⟩
      · have last : ('<' :: '!' :: '-' :: '-' :: others).getLast? = some '>' := by
          rw [show '<' :: '!' :: '-' :: '-' :: others = front ++ ['-', '-', '>'] from same.symm]
          simp
        rw [List.getLast?_cons_cons] at last
        exact .inr last
      · exact .inl nothing
    · obtain ⟨others, rfl⟩ := opened
      exact absurd (List.mem_cons_self ..) unbraced

end SceneMarkup.Markup
