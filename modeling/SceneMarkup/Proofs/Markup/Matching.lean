import SceneMarkup.Markup.Element

/-!
Contract: the count that finds the closing tag of an element.

Owns:
- one step of the count;
- the closing tag that a successful count stops at;
- the count along the tokens alone, without the comments between them;
- `Balanced`, the pieces that a count passes over.

Does not own: which elements the closing tags make.
-/

namespace SceneMarkup.Markup

open SceneMarkup.Text

/-- A closing tag ends the innermost open element of its name; an opening tag opens one more. -/
theorem closeIndex?_cons (name : String) (depth : Nat) (piece : Piece) (rest : List Piece) :
    closeIndex? name depth (piece :: rest) =
      if piece.closes name then
        match depth with
        | 0 => some 0
        | depth + 1 => (closeIndex? name depth rest).map (· + 1)
      else (closeIndex? name (if piece.opens name then depth + 1 else depth) rest).map (· + 1) := by
  cases depth <;> rfl

theorem exists_mark_of_closes {name : String} {piece : Piece} (closes : piece.closes name = true) :
    ∃ other, piece.mark = .closing other := by
  unfold Piece.closes at closes
  split at closes
  · rename_i other marked
    exact ⟨other, marked⟩
  · cases closes

/-- The count stops at a closing tag. -/
theorem exists_of_closeIndex? {name : String} {depth index : Nat} {pieces : List Piece}
    (found : closeIndex? name depth pieces = some index) :
    ∃ content closing other behind, pieces = content ++ closing :: behind ∧
      content.length = index ∧ closing.mark = .closing other := by
  induction pieces generalizing depth index with
  | nil => cases depth <;> cases found
  | cons piece rest inductionHypothesis =>
    have further {depth : Nat}
        (found : (closeIndex? name depth rest).map (· + 1) = some index) :
        ∃ content closing other behind, piece :: rest = content ++ closing :: behind ∧
          content.length = index ∧ closing.mark = .closing other := by
      obtain ⟨earlier, searched, rfl⟩ := Option.map_eq_some_iff.mp found
      obtain ⟨content, closing, other, behind, rfl, rfl, marked⟩ := inductionHypothesis searched
      exact ⟨piece :: content, closing, other, behind, rfl, rfl, marked⟩
    rw [closeIndex?_cons] at found
    split at found
    · rename_i closes
      cases depth with
      | zero =>
        cases found
        obtain ⟨other, marked⟩ := exists_mark_of_closes closes
        exact ⟨[], piece, other, rest, rfl, rfl, marked⟩
      | succ depth => exact further found
    · exact further found

/-- An element that is closed has its content in front of a closing tag. -/
theorem exists_of_closeOf? {tag : OpeningTag} {index : Nat} {pieces : List Piece}
    (found : closeOf? tag pieces = some index) :
    ∃ content closing other behind, pieces = content ++ closing :: behind ∧
      content.length = index ∧ closing.mark = .closing other := by
  unfold closeOf? at found
  split at found
  · cases found
  · exact exists_of_closeIndex? found

theorem ne_comment_of_mem_tokensOf {pieces : List Piece} {token : Piece}
    (member : token ∈ tokensOf pieces) : token.mark ≠ .comment := by
  simpa using (List.mem_filter.mp member).2

/-- The pieces around a token, from the tokens around it. -/
theorem exists_of_tokensOf_eq {pieces front behind : List Piece} {token : Piece}
    (tokens : tokensOf pieces = front ++ token :: behind) :
    ∃ before rest, pieces = before ++ token :: rest ∧ tokensOf before = front ∧
      tokensOf rest = behind := by
  obtain ⟨before, others, rfl, taken, back⟩ := List.filter_eq_append_iff.mp tokens
  obtain ⟨comments, rest, rfl, dropped, _, left⟩ := List.filter_eq_cons_iff.mp back
  refine ⟨before ++ comments, rest, (List.append_assoc ..).symm, ?_, left⟩
  rw [tokensOf_append, show tokensOf comments = [] from List.filter_eq_nil_iff.mpr dropped,
    List.append_nil]
  exact taken

theorem exists_of_getElem?_tokensOf {pieces : List Piece} {place : Nat} {token : Piece}
    (present : (tokensOf pieces)[place]? = some token) :
    ∃ before rest, pieces = before ++ token :: rest ∧
      tokensOf before = (tokensOf pieces).take place ∧ (tokensOf before).length = place := by
  obtain ⟨bound, rfl⟩ := List.getElem?_eq_some_iff.mp present
  have split : tokensOf pieces = (tokensOf pieces).take place ++
      (tokensOf pieces)[place] :: (tokensOf pieces).drop (place + 1) := by
    rw [← List.drop_eq_getElem_cons, List.take_append_drop]
  obtain ⟨before, rest, whole, front, -⟩ := exists_of_tokensOf_eq split
  refine ⟨before, rest, whole, front, ?_⟩
  rw [front, List.length_take, Nat.min_eq_left (Nat.le_of_lt bound)]

/-- Comments do not count: the closing tag is the same one among the tokens alone. -/
theorem closeIndex?_tokensOf (name : String) (depth : Nat) (pieces : List Piece) :
    closeIndex? name depth (tokensOf pieces) =
      (closeIndex? name depth pieces).map fun index => (tokensOf (pieces.take index)).length := by
  induction pieces generalizing depth with
  | nil => cases depth <;> rfl
  | cons piece rest inductionHypothesis =>
    rw [closeIndex?_cons]
    by_cases comment : piece.mark = .comment
    · -- A comment moves the index among the pieces and not the one among the tokens.
      have passed : piece.closes name = false ∧ piece.opens name = false := by
        simp [Piece.closes, Piece.opens, comment]
      rw [tokensOf_cons_of_comment comment, inductionHypothesis, passed.1, passed.2,
        if_neg Bool.false_ne_true, if_neg Bool.false_ne_true, Option.map_map]
      congr 1
      funext index
      rw [Function.comp_apply, List.take_succ_cons, tokensOf_cons_of_comment comment]
    · have further (depth : Nat) :
          (closeIndex? name depth (tokensOf rest)).map (· + 1) =
            ((closeIndex? name depth rest).map (· + 1)).map fun index =>
              (tokensOf ((piece :: rest).take index)).length := by
        rw [inductionHypothesis, Option.map_map, Option.map_map]
        congr 1
        funext index
        rw [Function.comp_apply, Function.comp_apply, List.take_succ_cons,
          tokensOf_cons_of_ne comment, List.length_cons]
      rw [tokensOf_cons_of_ne comment, closeIndex?_cons]
      split
      · cases depth with
        | zero => rfl
        | succ depth => exact further depth
      · exact further _

theorem closeOf?_tokensOf (tag : OpeningTag) (pieces : List Piece) :
    closeOf? tag (tokensOf pieces) =
      (closeOf? tag pieces).map fun index => (tokensOf (pieces.take index)).length := by
  unfold closeOf?
  split
  · rfl
  · exact closeIndex?_tokensOf tag.name 0 pieces

/-- The closing tag of an element closes it among the tokens as well. -/
theorem closeOf?_tokensOf_of_closed {tag : OpeningTag} {content others : List Piece}
    {closing : Piece} (closingToken : closing.mark ≠ .comment)
    (closed : closeOf? tag (content ++ closing :: others) = some content.length) :
    closeOf? tag (tokensOf content ++ closing :: tokensOf others) =
      some (tokensOf content).length := by
  have found := closeOf?_tokensOf tag (content ++ closing :: others)
  simpa [closingToken, closed] using found

/-! ### Balanced pieces -/

/-- Pieces that a count passes over with its depth unchanged. -/
def Balanced (content : List Piece) : Prop :=
  ∀ name depth behind, closeIndex? name depth (content ++ behind) =
    (closeIndex? name depth behind).map (· + content.length)

theorem balanced_nil : Balanced [] := by
  intro name depth behind
  cases found : closeIndex? name depth behind <;> simp [found]

theorem Balanced.append {content others : List Piece} (first : Balanced content)
    (second : Balanced others) : Balanced (content ++ others) := by
  intro name depth behind
  rw [List.append_assoc, first, second, Option.map_map]
  congr 1
  funext index
  rw [Function.comp_apply, List.length_append]
  omega

theorem balanced_singleton {piece : Piece} (opensNothing : ∀ name, piece.opens name = false)
    (closesNothing : ∀ name, piece.closes name = false) : Balanced [piece] := by
  intro name depth behind
  rw [List.cons_append, List.nil_append, closeIndex?_cons, opensNothing, closesNothing,
    if_neg Bool.false_ne_true, if_neg Bool.false_ne_true]
  rfl

/-- An opening tag, balanced pieces and a closing tag of the same name are balanced. -/
theorem Balanced.enclosed {content : List Piece} (inside : Balanced content) {tag : OpeningTag}
    {other : String} {opening closing : Piece} (opened : opening.mark = .opening tag)
    (closed : closing.mark = .closing other) (ended : tag.selfClosing = false)
    (same : sameWord other tag.name = true) : Balanced (opening :: (content ++ [closing])) := by
  intro name depth behind
  have passes : opening.closes name = false := by simp [Piece.closes, opened]
  have passesNext : closing.opens name = false := by simp [Piece.opens, closed]
  have lowered : other.toLower = tag.name.toLower := beq_iff_eq.mp same
  have opens : opening.opens name = closing.closes name := by
    simp [Piece.closes, Piece.opens, opened, closed, ended, sameWord, lowered]
  rw [List.cons_append, List.append_assoc, closeIndex?_cons, passes, if_neg Bool.false_ne_true,
    inside, List.cons_append, List.nil_append, closeIndex?_cons, opens, passesNext,
    if_neg Bool.false_ne_true]
  have counted (found : Option Nat) : ((found.map (· + 1)).map (· + content.length)).map (· + 1) =
      found.map (· + (opening :: (content ++ [closing])).length) := by
    rw [Option.map_map, Option.map_map]
    congr 1
    funext index
    simp only [Function.comp_apply, List.length_cons, List.length_append, List.length_nil]
    omega
  by_cases closes : closing.closes name = true
  · rw [if_pos closes, if_pos closes]
    exact counted _
  · rw [if_neg closes, if_neg closes]
    exact counted _

/-- An element with balanced content is closed by the closing tag right behind it. -/
theorem closeOf?_of_balanced {content : List Piece} (inside : Balanced content) {tag : OpeningTag}
    {other : String} {closing : Piece} (closed : closing.mark = .closing other)
    (ended : tag.selfClosing = false) (same : sameWord other tag.name = true)
    (behind : List Piece) : closeOf? tag (content ++ closing :: behind) = some content.length := by
  have closes : closing.closes tag.name = true := by simpa [Piece.closes, closed] using same
  rw [closeOf?, ended, if_neg Bool.false_ne_true, inside, closeIndex?_cons, if_pos closes,
    Option.map_some, Nat.zero_add]

end SceneMarkup.Markup
