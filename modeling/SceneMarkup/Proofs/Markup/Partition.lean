import Mathlib.Data.List.Chain
import SceneMarkup.Proofs.Markup.Scanning

/-!
Contract: tokens and comments partition a source.

Owns:
- `CommentRun`, comments side by side, and `gaps`, the stretches that no token covers;
- `Partitions`, everything that callers rely on when they cut a source at the spans of tokens;
- the theorem that both scans give such tokens.

Does not own: which tags the tokens are, and what comments say.
-/

namespace SceneMarkup.Markup

open SceneMarkup.Text

/-! ### Statement -/

/-- Comments side by side in front of the rest of a source. -/
inductive CommentRun : (run behind : List Char) → Prop where
  | none (behind : List Char) : CommentRun [] behind
  | more {comment run behind : List Char} (first : IsComment comment (run ++ behind))
      (others : CommentRun run behind) : CommentRun (comment ++ run) behind

/-- The maximal stretches that no token covers, from a byte position on: in front of every token and
behind the last one, where the source of `total` bytes ends. A stretch may be empty. -/
def gaps (total : Nat) : (position : Nat) → List Piece → List Span
  | position, [] => [⟨position, total⟩]
  | position, token :: rest => ⟨position, token.span.start⟩ :: gaps total token.span.stop rest

/-- The same stretches with the spans of the tokens between them. -/
def gapsAndTokens (total : Nat) : (position : Nat) → List Piece → List Span
  | position, [] => [⟨position, total⟩]
  | position, token :: rest =>
    ⟨position, token.span.start⟩ :: token.span :: gapsAndTokens total token.span.stop rest

/-- Tokens whose spans cut a source into the tokens themselves and comments. A valid position lies
between characters of the source, so `boundaries` also says that the spans lie inside it. -/
structure Partitions (source : String) (tokens : List Piece) : Prop where
  kinds : ∀ token ∈ tokens, token.mark ≠ .comment ∧ token.mark ≠ .unterminated
  nonempty : ∀ token ∈ tokens, token.span.start < token.span.stop
  boundaries : ∀ token ∈ tokens, (⟨token.span.start⟩ : String.Pos.Raw).IsValid source ∧
    (⟨token.span.stop⟩ : String.Pos.Raw).IsValid source
  sliced : ∀ token ∈ tokens, slice? source.toList token.span = some token.source
  ordered : tokens.Pairwise fun earlier later => earlier.span.stop ≤ later.span.start
  openings : ∀ token ∈ tokens, ∀ tag, token.mark = .opening tag →
    ∃ inner, token.source = '<' :: (tag.name.toList ++ (inner ++ ['>']))
  closings : ∀ token ∈ tokens, ∀ name, token.mark = .closing name →
    ∃ inner, token.source = '<' :: '/' :: (name.toList ++ (inner ++ ['>']))
  textsApart : tokens.IsChain fun earlier later =>
    earlier.mark = .text → later.mark = .text → earlier.span.stop < later.span.start
  commented : ∀ gap ∈ gaps source.utf8ByteSize 0 tokens, ∃ run behind,
    slice? source.toList gap = some run ∧
      slice? source.toList ⟨gap.stop, source.utf8ByteSize⟩ = some behind ∧ CommentRun run behind
  rebuilt :
    ((gapsAndTokens source.utf8ByteSize 0 tokens).mapM (slice? source.toList)).map List.flatten =
      some source.toList

/-! ### Cover of a source from a position on -/

/-- A source from a byte position on, as comments and tokens in turn. -/
inductive Cover : (position : Nat) → (source : List Char) → List Piece → Prop where
  | rest {position : Nat} {comments : List Char} (run : CommentRun comments []) :
      Cover position comments []
  | token {position : Nat} {comments behind : List Char} {token : Piece} {tokens : List Piece}
      (run : CommentRun comments (token.source ++ behind))
      (placed : token.start = position + byteCount comments)
      (further : Cover token.span.stop behind tokens) :
      Cover position (comments ++ (token.source ++ behind)) (token :: tokens)

namespace Cover

/-- A comment joins those in front of the first token. -/
theorem comment {position : Nat} {comment behind : List Char} {tokens : List Piece}
    (first : IsComment comment behind)
    (cover : Cover (position + byteCount comment) behind tokens) :
    Cover position (comment ++ behind) tokens := by
  cases cover with
  | rest run => exact .rest (.more (by simpa using first) run)
  | @token _ comments behind token tokens run placed further =>
    rw [← List.append_assoc]
    refine .token (.more first run) ?_ further
    rw [placed, byteCount_append, Nat.add_assoc]

section Context

variable {position : Nat} {source before : List Char} {tokens : List Piece}

theorem sliced (cover : Cover position source tokens) (here : position = byteCount before) :
    ∀ token ∈ tokens, slice? (before ++ source) token.span = some token.source := by
  induction cover generalizing before with
  | rest => exact fun _ member => absurd member List.not_mem_nil
  | @token position comments behind token tokens run placed further inductionHypothesis =>
    have start : token.start = byteCount (before ++ comments) := by
      rw [placed, here, byteCount_append]
    rintro other member
    rcases List.mem_cons.mp member with rfl | later
    · rw [Piece.span, start, ← List.append_assoc]
      exact slice?_append _ _ _
    · have stop : token.span.stop = byteCount (before ++ (comments ++ token.source)) := by
        rw [Piece.span, start]
        simp only [byteCount_append]
        omega
      simpa using inductionHypothesis stop other later

theorem le_start (cover : Cover position source tokens) :
    ∀ token ∈ tokens, position ≤ token.span.start := by
  induction cover with
  | rest => exact fun _ member => absurd member List.not_mem_nil
  | @token position comments behind token tokens run placed further inductionHypothesis =>
    rintro other member
    have start : token.span.start = position + byteCount comments := placed
    rcases List.mem_cons.mp member with rfl | later
    · omega
    · have bound := inductionHypothesis other later
      have length : token.span.stop = token.span.start + byteCount token.source := rfl
      omega

theorem ordered (cover : Cover position source tokens) :
    tokens.Pairwise fun earlier later => earlier.span.stop ≤ later.span.start := by
  induction cover with
  | rest => exact List.Pairwise.nil
  | token run placed further inductionHypothesis =>
    exact List.Pairwise.cons further.le_start inductionHypothesis

theorem commented (cover : Cover position source tokens) (here : position = byteCount before) :
    ∀ gap ∈ gaps (byteCount (before ++ source)) position tokens, ∃ run behind,
      slice? (before ++ source) gap = some run ∧
        slice? (before ++ source) ⟨gap.stop, byteCount (before ++ source)⟩ = some behind ∧
          CommentRun run behind := by
  induction cover generalizing before with
  | @rest position comments run =>
    rintro gap member
    rw [gaps, List.mem_singleton] at member
    subst member
    have first := slice?_append before comments []
    have last := slice?_append (before ++ comments) [] []
    simp only [List.append_nil, byteCount_nil, Nat.add_zero, ← here] at first last
    rw [byteCount_append, ← here]
    exact ⟨comments, [], first, by simpa [here] using last, run⟩
  | @token position comments behind token tokens run placed further inductionHypothesis =>
    have start : token.span.start = byteCount before + byteCount comments := by
      rw [← here]
      exact placed
    rintro gap member
    rcases List.mem_cons.mp member with rfl | later
    · refine ⟨comments, token.source ++ behind, ?_, ?_, run⟩
      · rw [here, start]
        exact slice?_append _ _ _
      · have last := slice?_append (before ++ comments) (token.source ++ behind) []
        rw [start]
        simpa [Nat.add_assoc] using last
    · have stop : token.span.stop = byteCount (before ++ (comments ++ token.source)) := by
        show token.span.start + byteCount token.source = _
        rw [start]
        simp only [byteCount_append]
        omega
      have whole := inductionHypothesis stop gap
        (by simpa using later)
      simpa using whole

/-- The slices of the stretches and of the tokens make up the source. -/
theorem rebuilt (cover : Cover position source tokens) (here : position = byteCount before) :
    ((gapsAndTokens (byteCount (before ++ source)) position tokens).mapM
      (slice? (before ++ source))).map List.flatten = some source := by
  induction cover generalizing before with
  | @rest position comments run =>
    have last := slice?_append before comments []
    simp only [List.append_nil, ← here] at last
    simp [gapsAndTokens, ← here, last]
  | @token position comments behind token tokens run placed further inductionHypothesis =>
    have start : token.span.start = byteCount before + byteCount comments := by
      rw [← here]
      exact placed
    have length : token.span.stop = token.span.start + byteCount token.source := rfl
    have first := slice?_append before comments (token.source ++ behind)
    have second := sliced (.token run placed further) here token List.mem_cons_self
    have stop : token.span.stop = byteCount (before ++ (comments ++ token.source)) := by
      rw [length, start]
      simp only [byteCount_append]
      omega
    have others := inductionHypothesis stop
    simp only [List.append_assoc] at others
    obtain ⟨parts, sliced, same⟩ := Option.map_eq_some_iff.mp others
    rw [gapsAndTokens, List.mapM_cons, List.mapM_cons, here, start, first, second, sliced]
    simp [same]

end Context

end Cover

/-! ### Cover of a scan -/

section Scan

variable {recovery : Recovery}

/-- The tokens of a scan in which every tag has an end cover the text. -/
theorem cover_tokensOf (text : List Char) (position : Nat)
    (ended : ∀ piece ∈ piecesAt recovery position text, piece.mark ≠ .unterminated) :
    Cover position text (tokensOf (piecesAt recovery position text)) := by
  induction text using (marks recovery).splitting_induction generalizing position with
  | nil =>
    rw [piecesAt_nil]
    exact .rest (.none [])
  | item text behind mark read inductionHypothesis =>
    have whole := readPart_append (properSuffix_of_mark? read).suffix
    rw [piecesAt_of_mark? read] at ended ⊢
    have further := inductionHypothesis _ fun piece member =>
      ended piece (List.mem_cons_of_mem _ member)
    -- A comment joins the stretch in front of the next token, and a tag is that token.
    rw [tokensOf_cons]
    split
    · rename_i comment
      have written := writes_of_mark? read
      rw [show mark = .comment from comment] at written
      have covered := further.comment written
      rwa [whole] at covered
    · have covered : Cover position ([] ++ (readPart text behind ++ behind)) _ :=
        @Cover.token _ _ _ ⟨mark, readPart text behind, position⟩ _ (.none _) rfl further
      rwa [List.nil_append, whole] at covered
  | plain plain behind nonempty unread stops inductionHypothesis =>
    rw [piecesAt_plain nonempty unread stops] at ended ⊢
    have further := inductionHypothesis _ fun piece member =>
      ended piece (List.mem_cons_of_mem _ member)
    rw [tokensOf_cons, if_neg Mark.noConfusion]
    exact @Cover.token _ [] _ ⟨.text, plain, position⟩ _ (.none _) rfl further

/-- Where the search for plain text stops, the next text token comes behind a comment. -/
theorem lt_start_of_stops {text : List Char} (stops : (marks recovery).Stops text)
    (position : Nat)
    (ended : ∀ piece ∈ piecesAt recovery position text, piece.mark ≠ .unterminated) :
    ∀ first ∈ (tokensOf (piecesAt recovery position text)).head?, first.mark = .text →
      position < first.span.start := by
  rcases stops with rfl | found
  · rw [piecesAt_nil]
    exact fun _ member => absurd member (by simp [tokensOf])
  · obtain ⟨⟨mark, behind⟩, read⟩ := Option.isSome_iff_exists.mp found
    have read : mark? recovery text = some (mark, behind) := read
    rw [piecesAt_of_mark? read] at ended ⊢
    have cover := cover_tokensOf behind _ fun piece member =>
      ended piece (List.mem_cons_of_mem _ member)
    rw [tokensOf_cons]
    intro first member isText
    -- A tag would be the next token itself, so a text comes behind a comment of at least one byte.
    split at member
    · have bound := cover.le_start first (List.mem_of_mem_head? member)
      have positive := byteCount_pos (readPart_ne_nil (properSuffix_of_mark? read))
      omega
    · rw [List.head?_cons, Option.mem_some] at member
      subst member
      exact absurd isText (ne_text_of_mark? read)

theorem textsApart_tokensOf (text : List Char) (position : Nat)
    (ended : ∀ piece ∈ piecesAt recovery position text, piece.mark ≠ .unterminated) :
    (tokensOf (piecesAt recovery position text)).IsChain fun earlier later =>
      earlier.mark = .text → later.mark = .text → earlier.span.stop < later.span.start := by
  induction text using (marks recovery).splitting_induction generalizing position with
  | nil =>
    rw [piecesAt_nil]
    exact List.isChain_nil
  | item text behind mark read inductionHypothesis =>
    rw [piecesAt_of_mark? read] at ended ⊢
    have further := inductionHypothesis _ fun piece member =>
      ended piece (List.mem_cons_of_mem _ member)
    rw [tokensOf_cons]
    split
    · exact further
    · exact further.cons fun _ _ isText => absurd isText (ne_text_of_mark? read)
  | plain plain behind nonempty unread stops inductionHypothesis =>
    rw [piecesAt_plain nonempty unread stops] at ended ⊢
    have ended : ∀ piece ∈ piecesAt recovery (position + byteCount plain) behind,
        piece.mark ≠ .unterminated :=
      fun piece member => ended piece (List.mem_cons_of_mem _ member)
    rw [tokensOf_cons, if_neg Mark.noConfusion]
    exact (inductionHypothesis _ ended).cons fun later member _ isText =>
      lt_start_of_stops stops _ ended later member isText

end Scan

/-- The tokens of a scan in which every tag has an end partition the source. -/
theorem partitions_tokensOf {recovery : Recovery} {source : String}
    (ended : ∀ piece ∈ pieces recovery source.toList, piece.mark ≠ .unterminated) :
    Partitions source (tokensOf (pieces recovery source.toList)) := by
  have cover : Cover 0 source.toList (tokensOf (pieces recovery source.toList)) :=
    cover_tokensOf source.toList 0 ended
  have kept : ∀ token ∈ tokensOf (pieces recovery source.toList),
      token ∈ pieces recovery source.toList ∧ token.mark ≠ .comment := by
    intro token member
    obtain ⟨inside, notComment⟩ := List.mem_filter.mp member
    exact ⟨inside, by simpa using notComment⟩
  have kinds : ∀ token ∈ tokensOf (pieces recovery source.toList),
      token.mark ≠ .comment ∧ token.mark ≠ .unterminated :=
    fun token member => ⟨(kept token member).2, ended _ (kept token member).1⟩
  have written : ∀ token ∈ tokensOf (pieces recovery source.toList),
      ∃ behind, token.mark.Writes token.source behind :=
    fun token member => exists_writes_of_mem source.toList 0 token (kept token member).1
  have size : source.utf8ByteSize = byteCount source.toList := by
    rw [← utf8ByteSize_ofList, String.ofList_toList]
  constructor
  case kinds => exact kinds
  case nonempty =>
    intro token member
    obtain ⟨behind, shape⟩ := written token member
    exact Nat.lt_add_of_pos_right (byteCount_pos (ne_nil_of_writes shape (kinds token member)))
  case boundaries =>
    intro token member
    have valid := isValid_of_slice? (@Cover.sliced _ _ [] _ cover rfl token member)
    rwa [List.nil_append, String.ofList_toList] at valid
  case sliced => exact @Cover.sliced _ _ [] _ cover rfl
  case ordered => exact cover.ordered
  case openings =>
    intro token member tag isOpening
    obtain ⟨behind, shape⟩ := written token member
    rwa [isOpening] at shape
  case closings =>
    intro token member name isClosing
    obtain ⟨behind, shape⟩ := written token member
    rwa [isClosing] at shape
  case textsApart => exact textsApart_tokensOf source.toList 0 ended
  case commented =>
    rw [size]
    exact @Cover.commented _ _ [] _ cover rfl
  case rebuilt =>
    rw [size]
    exact @Cover.rebuilt _ _ [] _ cover rfl

/-- Tokens and comments partition a source, in the strict scan where it succeeds and in the lenient
scan always. -/
theorem tokens_partition_source (source : String) :
    (∀ tokens, tokenize source = .ok tokens → Partitions source tokens) ∧
      Partitions source (tokenizeLenient source) := by
  constructor
  · intro tokens scanned
    obtain ⟨accepted, rfl⟩ := exists_of_tokenize scanned
    exact partitions_tokensOf (strictPieces_eq_ok_iff.mp accepted).2
  · exact partitions_tokensOf (ne_unterminated_of_mem_lenient source.toList 0)

/-- Two texts around a comment that is its own terminator, and a tag with a quoted `>`. -/
theorem tokens_partition_source_around_comment :
    ∃ tokens, tokenize "é<!-->b<View a='>'/></x >" = .ok tokens ∧ tokens.length = 4 ∧
      Partitions "é<!-->b<View a='>'/></x >" tokens :=
  ⟨[⟨.text, ['é'], 0⟩, ⟨.text, ['b'], 7⟩,
      ⟨.opening ⟨"View", [⟨"a", ">"⟩], true⟩, "<View a='>'/>".toList, 8⟩,
      ⟨.closing "x", "</x >".toList, 21⟩],
    by decide +kernel, rfl, (tokens_partition_source _).1 _ (by decide +kernel)⟩

end SceneMarkup.Markup
