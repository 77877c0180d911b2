import SceneMarkup.Proofs.Markup.Outermost
import SceneMarkup.Proofs.Markup.Partition
import SceneMarkup.Template.Expansion

/-!
Contract: one pass over a source is a splice of its bytes.

Owns:
- `topLevelIncludes`, the ranges of the includes outside other includes, listed from the lenient
  tokens;
- `spliced?`, a source with the bytes of some ranges replaced and all others copied;
- the alignment of the parts of a pass with these ranges;
- the theorem that a pass splices the first of them, as many as its budget allows.

Does not own: what an include is replaced by, and how many passes there are.
-/

namespace SceneMarkup.Template

open SceneMarkup.Text SceneMarkup.Markup

/-! ### Statement -/

/-- Where an include stands in a source, in bytes. -/
structure IncludeRange where
  /-- From the opening tag to the end of the closing tag, or of the opening tag where there is no
  closing tag. -/
  span : Span
  /-- What stands between the tags, which is nothing where there is no closing tag. -/
  inner : Span
  attributes : Attributes
deriving DecidableEq, Repr

/-- The range of an include that a token opens, in front of the tokens behind it. -/
def rangeOf (token : Piece) (tag : OpeningTag) (behind : List Piece) : IncludeRange :=
  match (closeOf? tag behind).bind fun index => behind[index]? with
  | some closing =>
    ⟨⟨token.start, closing.span.stop⟩, ⟨token.span.stop, closing.span.start⟩, tag.attributes⟩
  | none => ⟨token.span, ⟨token.span.stop, token.span.stop⟩, tag.attributes⟩

/-- The ranges of all includes that tokens open, also of those inside others. -/
def includeRanges : List Piece → List IncludeRange
  | [] => []
  | token :: rest =>
    match token.mark with
    | .opening tag =>
      if sameWord tag.name "include" then rangeOf token tag rest :: includeRanges rest
      else includeRanges rest
    | _ => includeRanges rest

/-- Ranges from left to right without those that begin inside one that is listed before them. The
bytes in front of `covered` belong to the range listed last. -/
def outermost (covered : Nat) : List IncludeRange → List IncludeRange
  | [] => []
  | range :: rest =>
    if range.span.start < covered then outermost covered rest
    else range :: outermost range.span.stop rest

def topLevelIncludes (source : String) : List IncludeRange :=
  outermost 0 (includeRanges (tokenizeLenient source))

/-- What replaces an include, of which nothing but its attributes and its inner text counts. -/
def rendering (library : TemplateLibrary) (attributes : Attributes) (inner : List Char) :
    List Char :=
  match bodyOf library attributes with
  | .ok body => instantiate body.toList attributes (.ofChildren inner)
  | .error error => comment error.message

/-- The source from a byte position on, with the bytes of each range replaced by its rendering and
all bytes between them copied. The ranges come from left to right. -/
def spliced? (render : Attributes → List Char → List Char) (source : List Char) :
    (position : Nat) → List IncludeRange → Option (List Char)
  | position, [] => slice? source ⟨position, byteCount source⟩
  | position, range :: rest => do
    let copied ← slice? source ⟨position, range.span.start⟩
    let inner ← slice? source range.inner
    let behind ← spliced? render source range.span.stop rest
    return copied ++ (render range.attributes inner ++ behind)

/-- What makes some of the ranges of a source its top-level ones. -/
structure TopLevel (all listed : List IncludeRange) : Prop where
  chosen : listed.Sublist all
  nonempty : ∀ range ∈ listed, range.span.start < range.span.stop
  disjoint : listed.Pairwise fun earlier later => earlier.span.stop ≤ later.span.start
  /-- Only ranges inside a listed one are left out. -/
  complete : ∀ range ∈ all, range ∈ listed ∨ ∃ outer ∈ listed,
    outer.span.start < range.span.start ∧ range.span.start < outer.span.stop

/-! ### Ranges -/

theorem start_rangeOf (token : Piece) (tag : OpeningTag) (behind : List Piece) :
    (rangeOf token tag behind).span.start = token.start := by
  unfold rangeOf
  split <;> rfl

/-- An include that is closed reaches to the end of its closing tag. -/
theorem rangeOf_of_closeOf? {token closing : Piece} {tag : OpeningTag}
    {content others : List Piece}
    (closed : closeOf? tag (content ++ closing :: others) = some content.length) :
    rangeOf token tag (content ++ closing :: others) =
      ⟨⟨token.start, closing.span.stop⟩, ⟨token.span.stop, closing.span.start⟩,
        tag.attributes⟩ := by
  have found : (content ++ closing :: others)[content.length]? = some closing := by
    rw [List.getElem?_append_right (Nat.le_refl _), Nat.sub_self, List.getElem?_cons_zero]
  rw [rangeOf, closed, Option.bind_some, found]

theorem rangeOf_of_unclosed {token : Piece} {tag : OpeningTag} {behind : List Piece}
    (unclosed : closeOf? tag behind = none) :
    rangeOf token tag behind =
      ⟨token.span, ⟨token.span.stop, token.span.stop⟩, tag.attributes⟩ := by
  rw [rangeOf, unclosed, Option.bind_none]

/-- The range of the include that a token opens. -/
def includeRange? (token : Piece) (behind : List Piece) : Option IncludeRange :=
  match token.mark with
  | .opening tag => if sameWord tag.name "include" then some (rangeOf token tag behind) else none
  | _ => none

theorem includeRange?_of_include {token : Piece} {tag : OpeningTag}
    (marked : token.mark = .opening tag) (named : sameWord tag.name "include" = true)
    (behind : List Piece) : includeRange? token behind = some (rangeOf token tag behind) := by
  rw [includeRange?, marked]
  exact if_pos named

theorem includeRange?_of_other {token : Piece}
    (other : ∀ tag, token.mark = .opening tag → ¬ sameWord tag.name "include" = true)
    (behind : List Piece) : includeRange? token behind = none := by
  rw [includeRange?]
  split
  · rename_i tag marked
    exact if_neg (other tag marked)
  · rfl

theorem includeRanges_eq (tokens : List Piece) :
    includeRanges tokens = rangesAlong includeRange? tokens := by
  induction tokens with
  | nil => rfl
  | cons token rest inductionHypothesis =>
    rw [includeRanges, rangesAlong, includeRange?, inductionHypothesis]
    split
    · split <;> rfl
    · rfl

theorem includeRanges_tokensOf_of_other {piece : Piece}
    (other : ∀ tag, piece.mark = .opening tag → ¬ sameWord tag.name "include" = true)
    (rest : List Piece) :
    includeRanges (tokensOf (piece :: rest)) = includeRanges (tokensOf rest) := by
  rw [includeRanges_eq, includeRanges_eq]
  exact rangesAlong_tokensOf_of_unread fun _ => includeRange?_of_other other _

theorem outermost_eq (covered : Nat) (ranges : List IncludeRange) :
    outermost covered ranges = outermostOf IncludeRange.span covered ranges := by
  induction ranges generalizing covered with
  | nil => rfl
  | cons range rest inductionHypothesis =>
    rw [outermost, outermostOf, inductionHypothesis, inductionHypothesis]

theorem readsForward_includeRange? : ReadsForward IncludeRange.span includeRange? := by
  have shape (token : Piece) (behind : List Piece) (range : IncludeRange)
      (read : includeRange? token behind = some range) : ∃ tag, range = rangeOf token tag behind := by
    unfold includeRange? at read
    split at read
    · rename_i tag marked
      split at read
      · cases read
        exact ⟨tag, rfl⟩
      · cases read
    · cases read
  constructor
  case start =>
    intro token behind range read
    obtain ⟨tag, rfl⟩ := shape token behind range read
    exact start_rangeOf token tag behind
  case stop =>
    intro token behind range read
    obtain ⟨tag, rfl⟩ := shape token behind range read
    cases found : (closeOf? tag behind).bind fun index => behind[index]? with
    | none => exact ⟨token, List.mem_cons_self, by rw [rangeOf, found]⟩
    | some closing =>
      obtain ⟨index, _, listed⟩ := Option.bind_eq_some_iff.mp found
      exact ⟨closing, List.mem_cons_of_mem _ (List.mem_of_getElem? listed), by rw [rangeOf, found]⟩

/-- The tokens of the lenient scan partition their source. -/
theorem partitions_tokenizeLenient (source : String) :
    Partitions source (tokenizeLenient source) :=
  partitions_tokensOf fun piece member => ne_unterminated_of_mem_lenient source.toList 0 piece member

theorem topLevel_topLevelIncludes (source : String) :
    TopLevel (includeRanges (tokenizeLenient source)) (topLevelIncludes source) := by
  have partition := partitions_tokenizeLenient source
  have found := outermost_rangesAlong readsForward_includeRange? partition.nonempty partition.ordered
  rw [topLevelIncludes, outermost_eq, includeRanges_eq]
  exact ⟨found.sublist, found.nonempty, found.disjoint, found.complete⟩

/-! ### Parts of a pass beside the ranges -/

/-- The parts of a pass from a byte position on beside the ranges they are replaced at. -/
inductive Aligned (source : List Char) : Nat → List PassPart → List IncludeRange → Prop where
  | done (position : Nat) : Aligned source position [] []
  | kept {position : Nat} {text : List Char} {parts : List PassPart}
      {ranges : List IncludeRange} (later : Aligned source (position + byteCount text) parts ranges) :
      Aligned source position (.kept text :: parts) ranges
  | replaced {found : Include} {range : IncludeRange} {parts : List PassPart}
      {ranges : List IncludeRange} (sliced : slice? source range.span = some found.source)
      (inside : slice? source range.inner = some found.children)
      (attributes : range.attributes = found.attributes)
      (later : Aligned source range.span.stop parts ranges) :
      Aligned source range.span.start (.replaced found :: parts) (range :: ranges)

namespace Aligned

variable {source : List Char} {position : Nat} {parts : List PassPart}
  {ranges : List IncludeRange}

theorem countP_isReplaced (aligned : Aligned source position parts ranges) :
    parts.countP PassPart.isReplaced = ranges.length := by
  induction aligned with
  | done => rfl
  | kept later inductionHypothesis =>
    simpa [List.countP_cons, PassPart.isReplaced] using inductionHypothesis
  | replaced sliced inside attributes later inductionHypothesis =>
    simpa [List.countP_cons, PassPart.isReplaced] using inductionHypothesis

/-- The texts of the parts make up the splice, in which `pending` has been kept but not copied
yet. -/
theorem spliced? (library : TemplateLibrary) (aligned : Aligned source position parts ranges)
    (front pending : List Char)
    (whole : source = front ++ (pending ++ parts.flatMap PassPart.source))
    (here : position = byteCount (front ++ pending)) :
    Template.spliced? (rendering library) source (byteCount front) ranges =
      some (pending ++ parts.flatMap (PassPart.text library)) := by
  induction aligned generalizing front pending with
  | done position =>
    have sliced := slice?_append front pending []
    rw [List.append_nil] at sliced
    rw [Template.spliced?, whole, List.flatMap_nil, List.append_nil, byteCount_append, sliced,
      List.flatMap_nil, List.append_nil]
  | @kept position text parts ranges later inductionHypothesis =>
    have further := inductionHypothesis front (pending ++ text)
      (by rw [whole, List.flatMap_cons, List.append_assoc]; rfl)
      (by rw [here, ← List.append_assoc, byteCount_append (front ++ pending)])
    rw [further, List.flatMap_cons, List.append_assoc]
    rfl
  | @replaced found range parts ranges sliced inside attributes later inductionHypothesis =>
    rw [List.flatMap_cons] at whole
    -- What stands at the range is the source of the include, so that the copying goes on behind it.
    have split : source = front ++ (pending ++ (found.source ++ parts.flatMap PassPart.source)) :=
      whole
    obtain ⟨copied, stop⟩ := slice?_in_front split here sliced
    have further := inductionHypothesis (front ++ pending ++ found.source) []
      (by rw [split]; simp) (by rw [stop, List.append_nil])
    rw [← stop] at further
    rw [Template.spliced?, copied, inside, further, attributes]
    rfl

end Aligned

/-! ### Alignment of a pass -/

section Alignment

variable {source : List Char} {all : List Piece}

/-- Where a pass stands on an include that is closed, the include and the rest of the pieces. -/
theorem outermost_of_closed (laid : Laid source all) (filled : ∀ piece ∈ all, piece.source ≠ [])
    {before content others : List Piece} {piece closing : Piece} {tag : OpeningTag}
    (whole : all = before ++ piece :: (content ++ closing :: others))
    (marked : piece.mark = .opening tag) (named : sameWord tag.name "include" = true)
    (closingToken : closing.mark ≠ .comment)
    (closed : closeOf? tag (content ++ closing :: others) = some content.length) {covered : Nat}
    (behind : covered ≤ piece.start) :
    outermost covered (includeRanges (tokensOf (piece :: (content ++ closing :: others)))) =
      ⟨⟨piece.start, closing.span.stop⟩, ⟨piece.span.stop, closing.span.start⟩, tag.attributes⟩
        :: outermost closing.span.stop (includeRanges (tokensOf others)) := by
  have closedToken := closeOf?_tokensOf_of_closed closingToken closed
  have read := includeRange?_of_include marked named (tokensOf content ++ closing :: tokensOf others)
  rw [rangeOf_of_closeOf? closedToken] at read
  rw [outermost_eq, outermost_eq, includeRanges_eq, includeRanges_eq]
  exact outermostOf_of_closed readsForward_includeRange? laid filled whole (by simp [marked])
    closingToken read rfl behind

/-- A pass over the pieces behind some others is aligned with the top-level ranges among them, as
many as its budget allows. -/
theorem aligned_passParts (laid : Laid source all) (filled : ∀ piece ∈ all, piece.source ≠ [])
    (budget : Nat) (pieces : List Piece) :
    ∀ (before : List Piece) (covered : Nat), all = before ++ pieces →
      covered ≤ byteCount (sourceOf before) →
      Aligned source (byteCount (sourceOf before)) (passParts budget pieces)
        ((outermost covered (includeRanges (tokensOf pieces))).take budget) := by
  -- `covered` may lie behind the range listed last by pieces that open no include.
  have further {before : List Piece} (piece : Piece) (covered : Nat)
      (behind : covered ≤ byteCount (sourceOf before)) :
      byteCount (sourceOf (before ++ [piece])) = byteCount (sourceOf before) + byteCount piece.source
        ∧ covered ≤ byteCount (sourceOf (before ++ [piece])) := by
    have added : byteCount (sourceOf (before ++ [piece])) =
        byteCount (sourceOf before) + byteCount piece.source := by
      simp
    exact ⟨added, by omega⟩
  fun_induction passParts budget pieces with
  | case1 =>
    intro before covered whole behind
    rw [tokensOf_nil, includeRanges, outermost, List.take_nil]
    exact .done _
  | case2 piece rest tag marked named =>
    intro before covered whole behind
    rw [List.take_zero]
    exact .kept (.done _)
  | case3 piece rest tag marked named budget index closed inductionHypothesis =>
    intro before covered whole behind
    obtain ⟨content, closing, other, others, rfl, rfl, closingMark⟩ := exists_of_closeOf? closed
    have closingToken : closing.mark ≠ .comment := by simp [closingMark]
    have placed := laid.placed before piece _ whole
    have upTo : (content ++ closing :: others).take (content.length + 1) = content ++ [closing] := by
      rw [List.take_length_add_append, List.take_succ_cons, List.take_zero]
    have split : all = (before ++ (piece :: (content ++ [closing]))) ++ others := by
      rw [whole]
      simp
    have stop : closing.span.stop =
        byteCount (sourceOf (before ++ (piece :: (content ++ [closing])))) := by
      have listed : all = (before ++ piece :: content) ++ closing :: others := by
        rw [whole]
        simp
      rw [laid.stop_eq listed]
      simp
    rw [outermost_of_closed laid filled whole marked named closingToken closed (by omega),
      List.take_succ_cons]
    rw [← List.drop_drop, List.drop_left, List.drop_one, List.tail_cons] at inductionHypothesis ⊢
    have later := inductionHypothesis _ closing.span.stop split (Nat.le_of_eq stop)
    rw [← stop] at later
    rw [List.take_left, upTo, ← placed]
    refine @Aligned.replaced source _ ⟨⟨piece.start, closing.span.stop⟩, _, _⟩ _ _ ?_ ?_ rfl later
    · have sliced := laid.slice_pieces (split.trans (List.append_assoc _ _ _))
      rwa [← stop, ← placed] at sliced
    · rw [whole] at laid
      exact laid.slice_between
  | case4 piece rest tag marked named budget unclosed inductionHypothesis =>
    intro before covered whole behind
    have token : piece.mark ≠ .comment := by simp [marked]
    have placed := laid.placed before piece _ whole
    have stop := laid.stop_eq whole
    have unclosedTokens : closeOf? tag (tokensOf rest) = none := by
      rw [closeOf?_tokensOf, unclosed, Option.map_none]
    have read := includeRange?_of_include marked named (tokensOf rest)
    rw [rangeOf_of_unclosed unclosedTokens] at read
    rw [outermost_eq, includeRanges_eq, outermostOf_of_open token read rfl (by omega),
      List.take_succ_cons, ← outermost_eq, ← includeRanges_eq]
    have later := inductionHypothesis (before ++ [piece]) piece.span.stop
      (by rw [whole, List.append_assoc]; rfl) (Nat.le_of_eq stop)
    rw [← stop] at later
    rw [← placed]
    have sliced := laid.slice_pieces (show all = before ++ ([piece] ++ rest) from whole)
    rw [← stop, ← placed, show sourceOf [piece] = piece.source by simp] at sliced
    have nothing := laid.slice_pieces
      (show all = (before ++ [piece]) ++ ([] ++ rest) by rw [whole, List.append_assoc]; rfl)
    rw [List.append_nil, ← stop] at nothing
    exact @Aligned.replaced source ⟨piece.source, tag.attributes, []⟩ ⟨piece.span, _, _⟩ _ _
      sliced nothing rfl later
  | case5 budget piece rest tag marked named inductionHypothesis =>
    intro before covered whole behind
    obtain ⟨added, further⟩ := further piece covered behind
    have other : ∀ found, piece.mark = .opening found → ¬ sameWord found.name "include" = true := by
      intro found same
      rw [marked] at same
      cases same
      exact named
    have later := inductionHypothesis (before ++ [piece]) covered
      (by rw [whole, List.append_assoc]; rfl) further
    rw [added] at later
    rw [includeRanges_tokensOf_of_other other]
    exact .kept later
  | case6 budget piece rest unmarked inductionHypothesis =>
    intro before covered whole behind
    obtain ⟨added, further⟩ := further piece covered behind
    have later := inductionHypothesis (before ++ [piece]) covered
      (by rw [whole, List.append_assoc]; rfl) further
    rw [added] at later
    rw [includeRanges_tokensOf_of_other fun tag marked => absurd marked (unmarked tag)]
    exact .kept later

end Alignment

/-! ### A pass -/

/-- One pass is an exact splice. It replaces the top-level includes of a source from the first one
on, as many as the ceiling still allows, each by a rendering of its own attributes and inner text,
and copies every other byte. It reports how many these are, and the next pass counts them. -/
theorem pass_splices_top_level (library : TemplateLibrary) (source : String) (replaced : Nat) :
    let listed := topLevelIncludes source
    let budget := maximalReplacements - replaced
    let result := pass library budget source.toList
    TopLevel (includeRanges (tokenizeLenient source)) listed ∧
      spliced? (rendering library) source.toList 0 (listed.take budget) = some result.1 ∧
      result.2 = min listed.length budget ∧
      ∀ passes, 0 < result.2 → replaced + result.2 < maximalReplacements →
        let later := expandFrom library passes (replaced + result.2) result.1
        expandFrom library (passes + 1) replaced source.toList =
          ⟨later.text, result.2 :: later.counts⟩ := by
  intro listed budget result
  have laid : Laid source.toList (lenientPieces source.toList) := laid_pieces .lenient source.toList
  have aligned : Aligned source.toList 0 (passParts budget (lenientPieces source.toList))
      (listed.take budget) :=
    aligned_passParts laid (source_ne_nil_of_mem source.toList 0) budget _ [] 0 rfl (Nat.le_refl _)
  have sources : (passParts budget (lenientPieces source.toList)).flatMap PassPart.source =
      source.toList := by
    rw [flatMap_source_passParts]
    exact laid.whole
  refine ⟨topLevel_topLevelIncludes source, ?_, ?_, ?_⟩
  · exact aligned.spliced? library [] [] (by rw [sources]; rfl) rfl
  · show (passParts budget (lenientPieces source.toList)).countP PassPart.isReplaced = _
    rw [aligned.countP_isReplaced, List.length_take, Nat.min_comm]
  · intro passes positive below later
    show (if result.2 = 0 then _ else if maximalReplacements ≤ replaced + result.2 then _ else _) =
      Expansion.mk later.text (result.2 :: later.counts)
    rw [if_neg (Nat.ne_of_gt positive), if_neg (Nat.not_le_of_lt below)]
    rfl

end SceneMarkup.Template
