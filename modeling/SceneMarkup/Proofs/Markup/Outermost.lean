import Mathlib.Data.List.Sort
import SceneMarkup.Proofs.Markup.Matching
import SceneMarkup.Proofs.Markup.Scanning

/-!
Contract: the outermost ones among ranges of a source.

Owns:
- `rangesAlong`, the ranges that begin with the tokens of a row;
- `outermostOf`, those of them that a walk from left to right stops at, and `Outermost`, what
  singles them out;
- the walk beside the pieces of a source, where comments stand between the tokens;
- the walk over ranges of which none cross, which stops at those inside no other one.

Does not own: which tokens begin a range.
-/

namespace SceneMarkup.Markup

variable {α : Type} {span : α → Span}

/-- The ranges that a reader finds at the tokens of a row, each in front of the tokens behind it. -/
def rangesAlong (read? : Piece → List Piece → Option α) : List Piece → List α
  | [] => []
  | token :: rest => (read? token rest).toList ++ rangesAlong read? rest

/-- Ranges from left to right without those that begin inside one that is kept before them. The
bytes in front of `covered` belong to the range kept last. -/
def outermostOf (span : α → Span) (covered : Nat) : List α → List α
  | [] => []
  | range :: rest =>
    if (span range).start < covered then outermostOf span covered rest
    else range :: outermostOf span (span range).stop rest

/-- What makes some of the ranges of a source its outermost ones. -/
structure Outermost (span : α → Span) (all kept : List α) : Prop where
  sublist : kept.Sublist all
  nonempty : ∀ range ∈ kept, (span range).start < (span range).stop
  disjoint : kept.Pairwise fun earlier later => (span earlier).stop ≤ (span later).start
  /-- Only ranges that begin inside a kept one are left out. -/
  complete : ∀ range ∈ all, range ∈ kept ∨ ∃ outer ∈ kept,
    (span outer).start < (span range).start ∧ (span range).start < (span outer).stop

/-! ### The walk over a row of ranges -/

theorem outermostOf_sublist (covered : Nat) (ranges : List α) :
    (outermostOf span covered ranges).Sublist ranges := by
  induction ranges generalizing covered with
  | nil => exact .slnil
  | cons range rest inductionHypothesis =>
    rw [outermostOf]
    split
    · exact (inductionHypothesis covered).cons range
    · exact (inductionHypothesis (span range).stop).cons_cons range

theorem le_start_of_mem_outermostOf {covered : Nat} {ranges : List α}
    (forward : ∀ range ∈ ranges, (span range).start < (span range).stop) :
    ∀ range ∈ outermostOf span covered ranges, covered ≤ (span range).start := by
  induction ranges generalizing covered with
  | nil => exact fun _ member => absurd member List.not_mem_nil
  | cons range rest inductionHypothesis =>
    obtain ⟨here, later⟩ := List.forall_mem_cons.mp forward
    rw [outermostOf]
    split
    · exact inductionHypothesis later
    · rename_i outside
      rintro other member
      rcases List.mem_cons.mp member with rfl | member
      · exact Nat.le_of_not_lt outside
      · have behind := inductionHypothesis later other member
        omega

theorem pairwise_outermostOf {covered : Nat} {ranges : List α}
    (forward : ∀ range ∈ ranges, (span range).start < (span range).stop) :
    (outermostOf span covered ranges).Pairwise fun earlier later =>
      (span earlier).stop ≤ (span later).start := by
  induction ranges generalizing covered with
  | nil => exact .nil
  | cons range rest inductionHypothesis =>
    have later := (List.forall_mem_cons.mp forward).2
    rw [outermostOf]
    split
    · exact inductionHypothesis later
    · exact .cons (le_start_of_mem_outermostOf later) (inductionHypothesis later)

/-- A range is kept, begins in front of `covered`, or begins inside a kept one. -/
theorem covered_of_mem (covered : Nat) {ranges : List α}
    (increasing : ranges.Pairwise fun earlier later => (span earlier).start < (span later).start)
    {range : α} (member : range ∈ ranges) :
    range ∈ outermostOf span covered ranges ∨ (span range).start < covered ∨
      ∃ outer ∈ outermostOf span covered ranges,
        (span outer).start < (span range).start ∧ (span range).start < (span outer).stop := by
  induction ranges generalizing covered with
  | nil => cases member
  | cons first rest inductionHypothesis =>
    obtain ⟨before, later⟩ := List.pairwise_cons.mp increasing
    rw [outermostOf]
    split
    · rename_i inside
      rcases List.mem_cons.mp member with rfl | member
      · exact .inr (.inl inside)
      · exact inductionHypothesis covered later member
    · rcases List.mem_cons.mp member with rfl | member
      · exact .inl List.mem_cons_self
      · rcases inductionHypothesis (span first).stop later member with
          kept | inside | ⟨outer, kept, within⟩
        · exact .inl (List.mem_cons_of_mem _ kept)
        · exact .inr (.inr ⟨first, List.mem_cons_self, before range member, inside⟩)
        · exact .inr (.inr ⟨outer, List.mem_cons_of_mem _ kept, within⟩)

/-- The ranges that a walk from the beginning stops at are the outermost ones. -/
theorem outermost_outermostOf {ranges : List α}
    (forward : ∀ range ∈ ranges, (span range).start < (span range).stop)
    (increasing : ranges.Pairwise fun earlier later =>
      (span earlier).start < (span later).start) :
    Outermost span ranges (outermostOf span 0 ranges) := by
  have sublist : (outermostOf span 0 ranges).Sublist ranges := outermostOf_sublist 0 ranges
  constructor
  case sublist => exact sublist
  case nonempty => exact fun range member => forward range (sublist.subset member)
  case disjoint => exact pairwise_outermostOf forward
  case complete =>
    intro range member
    rcases covered_of_mem 0 increasing member with kept | before | within
    · exact .inl kept
    · exact absurd before (Nat.not_lt_zero _)
    · exact .inr within

/-! ### Ranges that nest -/

/-- A span that begins inside another one, behind its start, and ends behind it. -/
def Span.Crosses (later earlier : Span) : Prop :=
  earlier.start < later.start ∧ later.start < earlier.stop ∧ earlier.stop < later.stop

/-- Whether a span lies inside another one that begins in front of it. -/
def Span.isInside (inner outer : Span) : Bool :=
  decide (outer.start < inner.start) && decide (inner.stop ≤ outer.stop)

/-- The ranges that lie inside no other one. -/
def unenclosedOf (span : α → Span) (all : List α) : List α :=
  all.filter fun range => !all.any fun outer => (span range).isInside (span outer)

theorem mem_unenclosedOf {all : List α} {range : α} :
    range ∈ unenclosedOf span all ↔ range ∈ all ∧ ∀ outer ∈ all,
      (span outer).start < (span range).start → (span outer).stop < (span range).stop := by
  simp [unenclosedOf, Span.isInside]

/-- Of two outermost ranges, the one that begins first ends before the other one begins. -/
theorem Outermost.apart {all kept : List α} (outermost : Outermost span all kept)
    {earlier later : α} (first : earlier ∈ kept) (second : later ∈ kept)
    (begins : (span earlier).start < (span later).start) :
    (span earlier).stop ≤ (span later).start := by
  have ordered : kept.Pairwise fun earlier later =>
      (span earlier).start < (span later).start → (span earlier).stop ≤ (span later).start :=
    outermost.disjoint.imp_of_mem fun _ _ disjoint _ => disjoint
  have flipped : kept.Pairwise fun later earlier =>
      (span earlier).start < (span later).start → (span earlier).stop ≤ (span later).start :=
    outermost.disjoint.imp_of_mem fun first _ disjoint begins => by
      have forward := outermost.nonempty _ first
      omega
  exact ordered.forall_of_forall_of_flip (fun _ _ begins => absurd begins (Nat.lt_irrefl _))
    flipped first second begins

/-- Where no ranges cross, the outermost ones are those that lie inside no other one. -/
theorem Outermost.eq_unenclosedOf {all kept : List α} (outermost : Outermost span all kept)
    (increasing : all.Pairwise fun earlier later => (span earlier).start < (span later).start)
    (nested : ∀ earlier ∈ all, ∀ later ∈ all, ¬ (span later).Crosses (span earlier)) :
    kept = unenclosedOf span all := by
  have same (range : α) : range ∈ kept ↔ range ∈ unenclosedOf span all := by
    rw [mem_unenclosedOf]
    constructor
    · intro member
      refine ⟨outermost.sublist.subset member, fun outer listed begins => ?_⟩
      have forward := outermost.nonempty range member
      rcases outermost.complete outer listed with chosen | ⟨first, chosen, starts, within⟩
      · have disjoint := outermost.apart chosen member begins
        omega
      · have uncrossed := nested first (outermost.sublist.subset chosen) outer listed
        have disjoint := outermost.apart chosen member (by omega)
        have ends : (span outer).stop ≤ (span first).stop := by
          by_contra behind
          exact uncrossed ⟨starts, within, by omega⟩
        omega
    · rintro ⟨listed, free⟩
      rcases outermost.complete range listed with chosen | ⟨outer, chosen, begins, within⟩
      · exact chosen
      · have inside := outermost.sublist.subset chosen
        exact absurd ⟨begins, within, free outer inside begins⟩ (nested outer inside range listed)
  have irreflexive : Std.Irrefl fun earlier later : α =>
      (span earlier).start < (span later).start := ⟨fun _ => Nat.lt_irrefl _⟩
  have antisymmetric : Std.Antisymm fun earlier later : α =>
      (span earlier).start < (span later).start :=
    ⟨fun _ _ before behind => absurd before (Nat.lt_asymm behind)⟩
  exact List.Pairwise.eq_of_mem_iff (increasing.sublist outermost.sublist)
    (increasing.sublist List.filter_sublist) same

/-! ### Ranges of tokens in order -/

/-- A reader whose ranges begin with their token and reach to its end or to that of a token
behind it. -/
structure ReadsForward (span : α → Span) (read? : Piece → List Piece → Option α) : Prop where
  start : ∀ token behind range, read? token behind = some range →
    (span range).start = token.start
  stop : ∀ token behind range, read? token behind = some range →
    ∃ last ∈ token :: behind, (span range).stop = last.span.stop

section Tokens

variable {read? : Piece → List Piece → Option α} {tokens : List Piece}

/-- Every range is that of a token. -/
theorem exists_token_of_mem {range : α} (member : range ∈ rangesAlong read? tokens) :
    ∃ before token behind, tokens = before ++ token :: behind ∧
      read? token behind = some range := by
  induction tokens with
  | nil => cases member
  | cons token rest inductionHypothesis =>
    rcases List.mem_append.mp member with here | later
    · exact ⟨[], token, rest, rfl, Option.mem_toList.mp here⟩
    · obtain ⟨before, other, behind, rfl, read⟩ := inductionHypothesis later
      exact ⟨token :: before, other, behind, rfl, read⟩

theorem forward_rangesAlong (reads : ReadsForward span read?)
    (nonempty : ∀ token ∈ tokens, token.span.start < token.span.stop)
    (ordered : tokens.Pairwise fun earlier later => earlier.span.stop ≤ later.span.start) :
    ∀ range ∈ rangesAlong read? tokens, (span range).start < (span range).stop := by
  intro range member
  obtain ⟨before, token, behind, rfl, read⟩ := exists_token_of_mem member
  obtain ⟨last, listed, stop⟩ := reads.stop token behind range read
  have here := nonempty token (by simp)
  rw [reads.start token behind range read, stop]
  show token.span.start < last.span.stop
  rcases List.mem_cons.mp listed with rfl | later
  · exact here
  · have apart := (List.pairwise_cons.mp (List.pairwise_append.mp ordered).2.1).1 last later
    have closed := nonempty last (by simp [later])
    omega

theorem increasing_rangesAlong (reads : ReadsForward span read?)
    (nonempty : ∀ token ∈ tokens, token.span.start < token.span.stop)
    (ordered : tokens.Pairwise fun earlier later => earlier.span.stop ≤ later.span.start) :
    (rangesAlong read? tokens).Pairwise fun earlier later =>
      (span earlier).start < (span later).start := by
  induction tokens with
  | nil => exact .nil
  | cons token rest inductionHypothesis =>
    obtain ⟨here, others⟩ := List.forall_mem_cons.mp nonempty
    obtain ⟨apart, orderedRest⟩ := List.pairwise_cons.mp ordered
    have single : (read? token rest).toList.Pairwise fun earlier later =>
        (span earlier).start < (span later).start := by
      cases read? token rest <;> simp
    refine List.pairwise_append.mpr ⟨single, inductionHypothesis others orderedRest, ?_⟩
    intro range first later member
    obtain ⟨before, other, behind, rfl, read⟩ := exists_token_of_mem member
    have between := apart other (by simp)
    rw [reads.start _ _ _ (Option.mem_toList.mp first), reads.start _ _ _ read]
    exact Nat.lt_of_lt_of_le here between

/-- The ranges that a walk along tokens in order stops at are the outermost ones. -/
theorem outermost_rangesAlong (reads : ReadsForward span read?)
    (nonempty : ∀ token ∈ tokens, token.span.start < token.span.stop)
    (ordered : tokens.Pairwise fun earlier later => earlier.span.stop ≤ later.span.start) :
    Outermost span (rangesAlong read? tokens) (outermostOf span 0 (rangesAlong read? tokens)) :=
  outermost_outermostOf (forward_rangesAlong reads nonempty ordered)
    (increasing_rangesAlong reads nonempty ordered)

/-- Ranges that begin in front of `covered` are not kept. -/
theorem outermostOf_append (reads : ReadsForward span read?) {covered : Nat} {content : List Piece}
    (inside : ∀ token ∈ content, token.start < covered) (others : List Piece) :
    outermostOf span covered (rangesAlong read? (content ++ others)) =
      outermostOf span covered (rangesAlong read? others) := by
  induction content with
  | nil => rfl
  | cons token rest inductionHypothesis =>
    have further := inductionHypothesis fun other member =>
      inside other (List.mem_cons_of_mem _ member)
    rw [List.cons_append, rangesAlong]
    cases read : read? token (rest ++ others) with
    | none => exact further
    | some range =>
      have begins : (span range).start < covered := by
        rw [reads.start _ _ _ read]
        exact inside token List.mem_cons_self
      rw [Option.toList_some, List.singleton_append, outermostOf, if_pos begins, further]

end Tokens

/-! ### The walk beside the pieces -/

section Pieces

variable {read? : Piece → List Piece → Option α} {piece : Piece} {rest : List Piece}

/-- A piece at which nothing is read adds no range. -/
theorem rangesAlong_tokensOf_of_unread
    (unread : piece.mark ≠ .comment → read? piece (tokensOf rest) = none) :
    rangesAlong read? (tokensOf (piece :: rest)) = rangesAlong read? (tokensOf rest) := by
  rw [tokensOf_cons]
  split
  · rfl
  · rename_i token
    rw [rangesAlong, unread token]
    rfl

/-- The walk stops at a range that ends with its token, and goes on behind it. -/
theorem outermostOf_of_open {range : α} (token : piece.mark ≠ .comment)
    (read : read? piece (tokensOf rest) = some range) (spans : span range = piece.span)
    {covered : Nat} (behind : covered ≤ piece.start) :
    outermostOf span covered (rangesAlong read? (tokensOf (piece :: rest))) =
      range :: outermostOf span piece.span.stop (rangesAlong read? (tokensOf rest)) := by
  have start : ¬ (span range).start < covered := by
    rw [spans]
    exact Nat.not_lt_of_le behind
  rw [tokensOf_cons_of_ne token, rangesAlong, read, Option.toList_some, List.singleton_append,
    outermostOf, if_neg start, spans]

/-- The walk stops at a range that ends with a piece further on, and goes on behind that piece. -/
theorem outermostOf_of_closed {source : List Char} {all before content others : List Piece}
    {closing : Piece} {range : α} (reads : ReadsForward span read?) (laid : Laid source all)
    (filled : ∀ piece ∈ all, piece.source ≠ [])
    (whole : all = before ++ piece :: (content ++ closing :: others))
    (token : piece.mark ≠ .comment) (closingToken : closing.mark ≠ .comment)
    (read : read? piece (tokensOf content ++ closing :: tokensOf others) = some range)
    (spans : span range = ⟨piece.start, closing.span.stop⟩) {covered : Nat}
    (behind : covered ≤ piece.start) :
    outermostOf span covered
        (rangesAlong read? (tokensOf (piece :: (content ++ closing :: others)))) =
      range :: outermostOf span closing.span.stop (rangesAlong read? (tokensOf others)) := by
  have inside : ∀ token ∈ tokensOf content ++ [closing], token.start < closing.span.stop := by
    intro token member
    have listed : all = (before ++ [piece]) ++ (content ++ closing :: others) := by
      rw [whole]
      simp
    have later := laid.start_lt_stop filled listed
    rcases List.mem_append.mp member with kept | last
    · exact later token (List.mem_append_left _ (List.mem_filter.mp kept).1)
    · exact later token (List.mem_append_right _ last)
  have start : ¬ (span range).start < covered := by
    rw [spans]
    exact Nat.not_lt_of_le behind
  rw [tokensOf_cons_of_ne token, tokensOf_append, tokensOf_cons_of_ne closingToken, rangesAlong,
    read, Option.toList_some, List.singleton_append, outermostOf, if_neg start, spans,
    List.append_cons, outermostOf_append reads inside]

end Pieces

end SceneMarkup.Markup
