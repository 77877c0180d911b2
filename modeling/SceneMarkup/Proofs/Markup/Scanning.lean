import SceneMarkup.Proofs.Markup.Matching
import SceneMarkup.Proofs.Markup.Shape
import SceneMarkup.Proofs.Markup.Slice

/-!
Contract: the pieces of a source, one after another.

Owns:
- `piecesAt`, the pieces of a text that stands at a byte position, and its first piece;
- the outcome of the strict scan;
- `Laid`, the places of pieces in their source and the source between two of them.

Does not own: which pieces belong together.
-/

namespace SceneMarkup.Markup

open SceneMarkup.Text

/-! ### One piece after another -/

section Scan

variable {recovery : Recovery}

/-- The pieces of a text that stands at a byte position. -/
def piecesAt (recovery : Recovery) (position : Nat) (text : List Char) : List Piece :=
  located position ((marks recovery).stretches text)

@[simp] theorem piecesAt_nil (position : Nat) : piecesAt recovery position [] = [] := by
  rw [piecesAt, Recogniser.stretches_nil]
  rfl

theorem piecesAt_of_mark? {text behind : List Char} {mark : Mark}
    (read : mark? recovery text = some (mark, behind)) (position : Nat) :
    piecesAt recovery position text =
      ⟨mark, readPart text behind, position⟩
        :: piecesAt recovery (position + byteCount (readPart text behind)) behind := by
  rw [piecesAt, Recogniser.stretches_of_read _ (show (marks recovery).read text = _ from read)]
  rfl

theorem piecesAt_plain {plain behind : List Char} (nonempty : plain ≠ [])
    (unread : (marks recovery).Unread behind plain) (stops : (marks recovery).Stops behind)
    (position : Nat) :
    piecesAt recovery position (plain ++ behind) =
      ⟨.text, plain, position⟩ :: piecesAt recovery (position + byteCount plain) behind := by
  rw [piecesAt, Recogniser.stretches_plain _ nonempty unread stops]
  rfl

theorem sourceOf_piecesAt (position : Nat) (text : List Char) :
    sourceOf (piecesAt recovery position text) = text := by
  rw [piecesAt, sourceOf_located, Recogniser.flatMap_source_stretches]

theorem stops_of_mark? {text behind : List Char} {mark : Mark}
    (read : mark? recovery text = some (mark, behind)) : (marks recovery).Stops text :=
  Or.inr (Option.isSome_iff_exists.mpr ⟨_, read⟩)

/-- A source that is one mark is one piece. -/
theorem pieces_of_mark? {source : List Char} {mark : Mark}
    (read : mark? recovery source = some (mark, [])) :
    pieces recovery source = [⟨mark, source, 0⟩] := by
  have whole := readPart_append (properSuffix_of_mark? read).suffix
  rw [List.append_nil] at whole
  have single := piecesAt_of_mark? read 0
  rwa [piecesAt_nil, whole] at single

/-- What holds of every mark that is read and of every plain run holds of all pieces. -/
theorem forall_mem_piecesAt {holds : Piece → Prop}
    (marked : ∀ text behind mark position, mark? recovery text = some (mark, behind) →
      holds ⟨mark, readPart text behind, position⟩)
    (unmarked : ∀ plain position, plain ≠ [] → holds ⟨.text, plain, position⟩)
    (text : List Char) (position : Nat) :
    ∀ piece ∈ piecesAt recovery position text, holds piece := by
  induction text using (marks recovery).splitting_induction generalizing position with
  | nil =>
    rw [piecesAt_nil]
    exact fun _ member => absurd member List.not_mem_nil
  | item text behind mark read inductionHypothesis =>
    rw [piecesAt_of_mark? read]
    intro piece member
    rcases List.mem_cons.mp member with rfl | later
    · exact marked text behind mark position read
    · exact inductionHypothesis _ piece later
  | plain plain behind nonempty unread stops inductionHypothesis =>
    rw [piecesAt_plain nonempty unread stops]
    intro piece member
    rcases List.mem_cons.mp member with rfl | later
    · exact unmarked plain position nonempty
    · exact inductionHypothesis _ piece later

/-- Every piece is written as its mark says, in front of some text. -/
theorem exists_writes_of_mem (text : List Char) (position : Nat) :
    ∀ piece ∈ piecesAt recovery position text,
      ∃ behind, piece.mark.Writes piece.source behind := by
  apply forall_mem_piecesAt
  · intro text behind mark position read
    exact ⟨behind, writes_of_mark? read⟩
  · intro plain position nonempty
    exact ⟨[], nonempty⟩

end Scan

/-- No piece is empty. -/
theorem source_ne_nil_of_mem {recovery : Recovery} (text : List Char) (position : Nat) :
    ∀ piece ∈ piecesAt recovery position text, piece.source ≠ [] := by
  apply forall_mem_piecesAt
  · intro text behind mark position read
    exact readPart_ne_nil (properSuffix_of_mark? read)
  · intro plain position nonempty
    exact nonempty

theorem ne_unterminated_of_mem_lenient (text : List Char) (position : Nat) :
    ∀ piece ∈ piecesAt .lenient position text, piece.mark ≠ .unterminated := by
  apply forall_mem_piecesAt
  · intro text behind mark position read
    exact ne_unterminated_of_mark? read
  · intro plain position nonempty
    exact Mark.noConfusion

/-! ### Outcome of the strict scan -/

/-- A strict scan succeeds with all its pieces when every tag has an end. -/
theorem strictPieces_eq_ok_iff {source : List Char} {all : List Piece} :
    strictPieces source = .ok all ↔
      all = pieces .strict source ∧ ∀ piece ∈ all, piece.mark ≠ .unterminated := by
  unfold strictPieces
  constructor
  · intro scanned
    simp only at scanned
    split at scanned
    · cases scanned
    · rename_i absent
      cases scanned
      refine ⟨rfl, fun piece member => ?_⟩
      simpa using List.find?_eq_none.mp absent piece member
  · rintro ⟨rfl, ended⟩
    have absent : (pieces .strict source).find? (fun piece => piece.mark == .unterminated) = none :=
      List.find?_eq_none.mpr (by simpa using ended)
    simp only [absent]

theorem tokenize_of_mark? {source : List Char} {mark : Mark}
    (read : mark? .strict source = some (mark, [])) (ended : mark ≠ .unterminated) :
    tokenize (String.ofList source) = .ok (tokensOf [⟨mark, source, 0⟩]) := by
  have scanned : strictPieces source = .ok [⟨mark, source, 0⟩] :=
    strictPieces_eq_ok_iff.mpr ⟨(pieces_of_mark? read).symm, by simpa using ended⟩
  rw [tokenize, String.toList_ofList, scanned]
  rfl

/-- The tokens of a successful strict scan are those of its pieces. -/
theorem exists_of_tokenize {source : String} {tokens : List Piece}
    (scanned : tokenize source = .ok tokens) :
    strictPieces source.toList = .ok (pieces .strict source.toList) ∧
      tokens = tokensOf (pieces .strict source.toList) := by
  unfold tokenize at scanned
  cases result : strictPieces source.toList with
  | error tag => simp [result, Except.map] at scanned
  | ok all =>
    obtain ⟨rfl, _⟩ := strictPieces_eq_ok_iff.mp result
    rw [result] at scanned
    cases scanned
    exact ⟨rfl, rfl⟩

/-! ### Places of pieces -/

/-- Pieces that make up a source and begin where the sources of those in front of them end. -/
structure Laid (source : List Char) (all : List Piece) : Prop where
  whole : sourceOf all = source
  placed : ∀ before piece behind, all = before ++ piece :: behind →
    piece.start = byteCount (sourceOf before)

theorem start_located (stretches : List (Stretch Mark)) (position : Nat) :
    ∀ before piece behind, located position stretches = before ++ piece :: behind →
      piece.start = position + byteCount (sourceOf before) := by
  induction stretches generalizing position with
  | nil => intro before piece behind same; cases before <;> cases same
  | cons stretch rest inductionHypothesis =>
    have step (first : Piece) (start : first.start = position) {before : List Piece} {piece : Piece}
        {behind : List Piece} (same : first :: located (position + byteCount first.source) rest =
          before ++ piece :: behind) : piece.start = position + byteCount (sourceOf before) := by
      cases before with
      | nil =>
        cases same
        exact start
      | cons head before =>
        obtain ⟨rfl, tail⟩ := List.cons.inj same
        rw [inductionHypothesis _ before piece behind tail, sourceOf_cons, byteCount_append,
          Nat.add_assoc]
    intro before piece behind same
    cases stretch with
    | item mark source => exact step ⟨mark, source, position⟩ rfl same
    | plain source => exact step ⟨.text, source, position⟩ rfl same

/-- The pieces of a source are laid out along it. -/
theorem laid_pieces (recovery : Recovery) (source : List Char) :
    Laid source (pieces recovery source) where
  whole := sourceOf_pieces recovery source
  placed before piece behind same := by
    rw [start_located _ 0 before piece behind same, Nat.zero_add]

/-- A piece ends where the sources of the pieces up to it end. -/
theorem Laid.stop_eq {source : List Char} {all before behind : List Piece} {piece : Piece}
    (laid : Laid source all) (whole : all = before ++ piece :: behind) :
    piece.span.stop = byteCount (sourceOf (before ++ [piece])) := by
  have start := laid.placed before piece behind whole
  simp [Piece.span, start]

/-- Pieces begin in front of the end of a later piece. -/
theorem Laid.start_lt_stop {source : List Char} {all before content behind : List Piece}
    {last : Piece} (laid : Laid source all) (filled : ∀ piece ∈ all, piece.source ≠ [])
    (whole : all = before ++ (content ++ last :: behind)) :
    ∀ piece ∈ content ++ [last], piece.start < last.span.stop := by
  intro piece member
  obtain ⟨front, back, same⟩ := List.append_of_mem member
  have split : all = before ++ (front ++ (piece :: back ++ behind)) := by
    rw [whole, List.append_cons, same, List.append_assoc]
  have start := laid.placed (before ++ front) piece (back ++ behind) (by rw [split]; simp)
  have listed : all = (before ++ content) ++ last :: behind := by rw [whole, List.append_assoc]
  have stop := laid.stop_eq listed
  have positive : 0 < byteCount piece.source := byteCount_pos (filled piece (by rw [split]; simp))
  rw [List.append_assoc, same] at stop
  simp only [sourceOf_append, sourceOf_cons, byteCount_append] at start stop
  omega

/-- The source at the place of some pieces is theirs. -/
theorem Laid.slice_pieces {source : List Char} {all before content behind : List Piece}
    (laid : Laid source all) (whole : all = before ++ (content ++ behind)) :
    slice? source ⟨byteCount (sourceOf before), byteCount (sourceOf (before ++ content))⟩ =
      some (sourceOf content) := by
  have sliced := slice?_append (sourceOf before) (sourceOf content) (sourceOf behind)
  rw [← sourceOf_append, ← sourceOf_append, ← whole, laid.whole] at sliced
  simpa using sliced

/-- The source between two pieces is that of the pieces between them. -/
theorem Laid.slice_between {source : List Char} {before content behind : List Piece}
    {opening closing : Piece}
    (laid : Laid source (before ++ opening :: (content ++ closing :: behind))) :
    slice? source ⟨opening.span.stop, closing.span.start⟩ = some (sourceOf content) := by
  have split : before ++ opening :: (content ++ closing :: behind) =
      (before ++ [opening]) ++ (content ++ closing :: behind) := by
    simp
  have start : closing.span.start = byteCount (sourceOf ((before ++ [opening]) ++ content)) :=
    laid.placed _ closing behind (by simp)
  have sliced := laid.slice_pieces split
  rwa [← laid.stop_eq rfl, ← start] at sliced

end SceneMarkup.Markup
