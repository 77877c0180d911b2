import SceneMarkup.Proofs.Markup.Outermost
import SceneMarkup.Proofs.Markup.Partition
import SceneMarkup.Template.Children

/-!
Contract: the split of an include's children neither loses nor doubles content.

Owns:
- `elementRanges`, the ranges of all closed elements, and `outermostElements`, those that a walk
  from left to right stops at;
- `Splits`, what a split at some elements says about every slot;
- the alignment of the parts of the children with these elements;
- the theorem that the split is one at the outermost elements that are wrappers.

Does not own: what the slots of a component body do with the content.
-/

namespace SceneMarkup.Template

open SceneMarkup.Text SceneMarkup.Markup

/-! ### Statement -/

/-- Where a closed element stands in a source, in bytes. -/
structure ElementRange where
  tag : OpeningTag
  /-- From the opening tag to the end of the closing tag. -/
  span : Span
  /-- What stands between the tags. -/
  inner : Span
deriving DecidableEq, Repr

/-- The range of the element that a token opens, if one of the tokens behind it closes it. -/
def elementRange? (token : Piece) (behind : List Piece) : Option ElementRange :=
  match token.mark with
  | .opening tag => do
    let index ← closeOf? tag behind
    let closing ← behind[index]?
    return ⟨tag, ⟨token.start, closing.span.stop⟩, ⟨token.span.stop, closing.span.start⟩⟩
  | _ => none

/-- The ranges of all closed elements, also of those inside others. -/
def elementRanges (tokens : List Piece) : List ElementRange := rangesAlong elementRange? tokens

/-- The closed elements that a walk from left to right stops at: it goes on behind each of them. -/
def outermostElements (tokens : List Piece) : List ElementRange :=
  outermostOf ElementRange.span 0 (elementRanges tokens)

namespace ElementRange

/-- The lower-case name of the slot that an element is a wrapper for. -/
def slotName? (range : ElementRange) : Option String := (wrappedSlot? range.tag).map String.toLower

def isWrapper (range : ElementRange) : Bool := range.slotName?.isSome

/-- Whether an element is a wrapper for a slot, in any case. -/
def wraps (range : ElementRange) (slot : String) : Bool := range.slotName? == some slot.toLower

end ElementRange

/-- The stretches of a source of `total` bytes from a position on that lie outside spans, which come
from left to right. A stretch may be empty. -/
def outside (total : Nat) : (position : Nat) → List Span → List Span
  | position, [] => [⟨position, total⟩]
  | position, span :: rest => ⟨position, span.start⟩ :: outside total span.stop rest

/-- What makes a content the split of a source at the wrappers in `extracted`. -/
structure Splits (source : List Char) (extracted : List ElementRange) (content : SlotContent) :
    Prop where
  /-- The main content is the source outside all wrappers, in order and then trimmed. -/
  main : ∃ kept,
    (outside (byteCount source) 0 (extracted.map ElementRange.span)).mapM (slice? source) =
      some kept ∧ content.main = trim kept.flatten
  /-- The content for a slot is what its wrappers enclose, each trimmed. -/
  parts : ∀ slot, ∃ inners,
    ((extracted.filter fun range => range.wraps slot).map ElementRange.inner).mapM (slice? source) =
      some inners ∧ content.part slot = inners.flatMap trim
  /-- No other slots have content. -/
  names : ∀ name, (∃ part, (name, part) ∈ content.named) ↔
    ∃ range ∈ extracted, range.slotName? = some name

/-! ### Ranges of elements -/

/-- The range of an element whose closing tag stands behind its content. -/
theorem elementRange?_of_closeOf? {token closing : Piece} {tag : OpeningTag}
    {content others : List Piece} (marked : token.mark = .opening tag)
    (closed : closeOf? tag (content ++ closing :: others) = some content.length) :
    elementRange? token (content ++ closing :: others) =
      some ⟨tag, ⟨token.start, closing.span.stop⟩, ⟨token.span.stop, closing.span.start⟩⟩ := by
  have found : (content ++ closing :: others)[content.length]? = some closing := by
    rw [List.getElem?_append_right (Nat.le_refl _), Nat.sub_self, List.getElem?_cons_zero]
  rw [elementRange?, marked]
  show (closeOf? tag (content ++ closing :: others)).bind _ = _
  rw [closed, Option.bind_some, found]
  rfl

theorem elementRange?_of_unclosed {token : Piece} {behind : List Piece}
    (unclosed : ∀ tag, token.mark = .opening tag → closeOf? tag behind = none) :
    elementRange? token behind = none := by
  unfold elementRange?
  split
  · rename_i tag marked
    rw [unclosed tag marked]
    rfl
  · rfl

theorem readsForward_elementRange? : ReadsForward ElementRange.span elementRange? := by
  have shape (token : Piece) (behind : List Piece) (range : ElementRange)
      (read : elementRange? token behind = some range) :
      ∃ closing ∈ behind, range.span = ⟨token.start, closing.span.stop⟩ := by
    unfold elementRange? at read
    split at read
    · obtain ⟨index, _, read⟩ := Option.bind_eq_some_iff.mp read
      obtain ⟨closing, found, same⟩ := Option.bind_eq_some_iff.mp read
      cases same
      exact ⟨closing, List.mem_of_getElem? found, rfl⟩
    · cases read
  constructor
  case start =>
    intro token behind range read
    obtain ⟨closing, _, spans⟩ := shape token behind range read
    rw [spans]
  case stop =>
    intro token behind range read
    obtain ⟨closing, member, spans⟩ := shape token behind range read
    exact ⟨closing, List.mem_cons_of_mem _ member, by rw [spans]⟩

/-! ### Contents that parts make up -/

namespace ChildPart

/-- What a part adds to the main content. -/
def keptSource : ChildPart → List Char
  | kept source => source
  | wrapped .. => []

/-- What a part adds to the contents for slots with a name. -/
def entry? : ChildPart → Option (String × List Char)
  | kept _ => none
  | wrapped _ slot content => some (slot.toLower, trim content)

end ChildPart

theorem ofParts_eq (parts : List ChildPart) :
    SlotContent.ofParts parts =
      ⟨trim (parts.flatMap ChildPart.keptSource), parts.filterMap ChildPart.entry?⟩ := rfl

theorem filterMap_entry?_wrapped (source : List Char) (slot : String) (content : List Char)
    (parts : List ChildPart) :
    (ChildPart.wrapped source slot content :: parts).filterMap ChildPart.entry? =
      (slot.toLower, trim content) :: parts.filterMap ChildPart.entry? := rfl

/-! ### Parts of the children beside the ranges -/

/-- The parts of children from a byte position on beside the wrappers they are extracted at. -/
inductive Extracts (source : List Char) : Nat → List ChildPart → List ElementRange → Prop where
  | done (position : Nat) : Extracts source position [] []
  | kept {position : Nat} {text : List Char} {parts : List ChildPart} {ranges : List ElementRange}
      (later : Extracts source (position + byteCount text) parts ranges) :
      Extracts source position (.kept text :: parts) ranges
  | wrapped {text inner : List Char} {slot : String} {range : ElementRange}
      {parts : List ChildPart} {ranges : List ElementRange}
      (sliced : slice? source range.span = some text)
      (inside : slice? source range.inner = some inner)
      (wrapper : wrappedSlot? range.tag = some slot)
      (later : Extracts source range.span.stop parts ranges) :
      Extracts source range.span.start (.wrapped text slot inner :: parts) (range :: ranges)

namespace Extracts

variable {source : List Char} {position : Nat} {parts : List ChildPart}
  {ranges : List ElementRange}

/-- The kept parts are the source outside the wrappers, in which `pending` has been kept but not
copied yet. -/
theorem exists_kept (extracts : Extracts source position parts ranges) (front pending : List Char)
    (whole : source = front ++ (pending ++ parts.flatMap ChildPart.source))
    (here : position = byteCount (front ++ pending)) :
    ∃ kept, (outside (byteCount source) (byteCount front) (ranges.map ElementRange.span)).mapM
        (slice? source) = some kept ∧
      kept.flatten = pending ++ parts.flatMap ChildPart.keptSource := by
  induction extracts generalizing front pending with
  | done position =>
    have sliced := slice?_append front pending []
    rw [List.append_nil] at sliced
    refine ⟨[pending], ?_, by simp⟩
    rw [whole, List.flatMap_nil, List.append_nil, byteCount_append]
    simp [outside, sliced]
  | @kept position text parts ranges later inductionHypothesis =>
    obtain ⟨kept, sliced, same⟩ := inductionHypothesis front (pending ++ text)
      (by rw [whole, List.flatMap_cons, List.append_assoc]; rfl)
      (by rw [here, ← List.append_assoc, byteCount_append (front ++ pending)])
    exact ⟨kept, sliced, by rw [same, List.flatMap_cons, List.append_assoc]; rfl⟩
  | @wrapped text inner slot range parts ranges sliced inside wrapper later inductionHypothesis =>
    rw [List.flatMap_cons] at whole
    -- What stands at the range is the source of the wrapper, so that the copying goes on behind it.
    have split : source = front ++ (pending ++ (text ++ parts.flatMap ChildPart.source)) := whole
    obtain ⟨copied, stop⟩ := slice?_in_front split here sliced
    obtain ⟨kept, others, same⟩ := inductionHypothesis (front ++ pending ++ text) []
      (by rw [split]; simp) (by rw [stop, List.append_nil])
    rw [← stop] at others
    refine ⟨pending :: kept, ?_, by rw [List.flatten_cons, same, List.flatMap_cons]; rfl⟩
    rw [List.map_cons, outside, List.mapM_cons, copied, others]
    rfl

/-- The parts for a slot enclose what stands between the tags of its wrappers. -/
theorem exists_inners (extracts : Extracts source position parts ranges) (slot : String) :
    ∃ inners, ((ranges.filter fun range => range.wraps slot).map ElementRange.inner).mapM
        (slice? source) = some inners ∧
      ((parts.filterMap ChildPart.entry?).filter fun entry => entry.1 = slot.toLower).flatMap
        Prod.snd = inners.flatMap trim := by
  induction extracts with
  | done => exact ⟨[], rfl, rfl⟩
  | kept later inductionHypothesis => exact inductionHypothesis
  | @wrapped text inner own range parts ranges sliced inside wrapper later inductionHypothesis =>
    obtain ⟨inners, others, same⟩ := inductionHypothesis
    by_cases asked : own.toLower = slot.toLower
    · have wraps : range.wraps slot = true := by
        simp [ElementRange.wraps, ElementRange.slotName?, wrapper, asked]
      refine ⟨inner :: inners, ?_, ?_⟩
      · rw [List.filter_cons, if_pos wraps, List.map_cons, List.mapM_cons, inside, others]
        rfl
      · rw [filterMap_entry?_wrapped, List.filter_cons, if_pos (by simpa using asked),
          List.flatMap_cons, same, List.flatMap_cons]
    · have passes : ¬ range.wraps slot = true := by
        simp [ElementRange.wraps, ElementRange.slotName?, wrapper, asked]
      refine ⟨inners, ?_, ?_⟩
      · rw [List.filter_cons, if_neg passes]
        exact others
      · rw [filterMap_entry?_wrapped, List.filter_cons, if_neg (by simpa using asked)]
        exact same

theorem exists_entry_iff (extracts : Extracts source position parts ranges) (name : String) :
    (∃ part, (name, part) ∈ parts.filterMap ChildPart.entry?) ↔
      ∃ range ∈ ranges, range.slotName? = some name := by
  induction extracts with
  | done => simp
  | kept later inductionHypothesis => exact inductionHypothesis
  | @wrapped text inner own range parts ranges sliced inside wrapper later inductionHypothesis =>
    have named : range.slotName? = some own.toLower := by rw [ElementRange.slotName?, wrapper]; rfl
    rw [List.exists_mem_cons_iff, ← inductionHypothesis, filterMap_entry?_wrapped, named]
    simp [eq_comm, exists_or]

/-- Parts of a whole source split it at the wrappers beside them. -/
theorem splits (extracts : Extracts source 0 parts ranges)
    (whole : parts.flatMap ChildPart.source = source) :
    Splits source ranges (.ofParts parts) := by
  rw [ofParts_eq]
  constructor
  case main =>
    obtain ⟨kept, sliced, same⟩ := extracts.exists_kept [] [] (by rw [whole]; rfl) rfl
    exact ⟨kept, sliced, by rw [same]; rfl⟩
  case parts => exact extracts.exists_inners
  case names => exact extracts.exists_entry_iff

end Extracts

/-! ### Alignment of the children -/

section Alignment

variable {source : List Char} {all : List Piece}

/-- The walk stops at a closed element, which has the sources of its pieces, and goes on behind its
closing tag. -/
theorem exists_range_of_closed (laid : Laid source all) (filled : ∀ piece ∈ all, piece.source ≠ [])
    {before rest : List Piece} {piece : Piece} {tag : OpeningTag} {index : Nat}
    (whole : all = before ++ piece :: rest) (marked : piece.mark = .opening tag)
    (closed : closeOf? tag rest = some index) {covered : Nat}
    (behind : covered ≤ byteCount (sourceOf before)) :
    ∃ range : ElementRange, range.tag = tag ∧
      range.span.start = byteCount (sourceOf before) ∧
      range.span.stop = byteCount (sourceOf (before ++ (piece :: rest.take (index + 1)))) ∧
      slice? source range.span = some (sourceOf (piece :: rest.take (index + 1))) ∧
      slice? source range.inner = some (sourceOf (rest.take index)) ∧
      outermostOf ElementRange.span covered (elementRanges (tokensOf (piece :: rest))) =
        range :: outermostOf ElementRange.span range.span.stop
          (elementRanges (tokensOf (rest.drop (index + 1)))) := by
  obtain ⟨content, closing, name, others, rfl, rfl, closingMark⟩ := exists_of_closeOf? closed
  have closingToken : closing.mark ≠ .comment := by simp [closingMark]
  have closedToken := closeOf?_tokensOf_of_closed closingToken closed
  have placed := laid.placed before piece _ whole
  have listed : all = (before ++ piece :: content) ++ closing :: others := by
    rw [whole]
    simp
  have stop : closing.span.stop =
      byteCount (sourceOf (before ++ (piece :: (content ++ [closing])))) := by
    rw [laid.stop_eq listed]
    simp
  have sliced := laid.slice_pieces
    (show all = before ++ (piece :: (content ++ [closing]) ++ others) by rw [whole]; simp)
  rw [List.take_length_add_append, List.take_succ_cons, List.take_zero, List.take_left,
    ← List.drop_drop, List.drop_left, List.drop_one, List.tail_cons]
  rw [← stop, ← placed] at sliced ⊢
  refine ⟨⟨tag, ⟨piece.start, closing.span.stop⟩, ⟨piece.span.stop, closing.span.start⟩⟩, rfl, rfl,
    rfl, sliced, ?_, ?_⟩
  · rw [whole] at laid
    exact laid.slice_between
  · exact outermostOf_of_closed readsForward_elementRange? laid filled whole (by simp [marked])
      closingToken (elementRange?_of_closeOf? marked closedToken) rfl (by omega)

/-- The parts of the pieces behind some others are extracted at the wrappers among the outermost
elements. -/
theorem extracts_childParts (laid : Laid source all) (filled : ∀ piece ∈ all, piece.source ≠ [])
    (pieces : List Piece) :
    ∀ (before : List Piece) (covered : Nat), all = before ++ pieces →
      covered ≤ byteCount (sourceOf before) →
      Extracts source (byteCount (sourceOf before)) (childParts pieces)
        ((outermostOf ElementRange.span covered (elementRanges (tokensOf pieces))).filter
          ElementRange.isWrapper) := by
  -- `covered` may lie behind the element kept last by pieces that open no closed element.
  have passed {piece : Piece} {rest : List Piece}
      (unclosed : ∀ tag, piece.mark = .opening tag → closeOf? tag rest = none)
      (inductionHypothesis : ∀ (before : List Piece) (covered : Nat), all = before ++ rest →
        covered ≤ byteCount (sourceOf before) →
        Extracts source (byteCount (sourceOf before)) (childParts rest)
          ((outermostOf ElementRange.span covered (elementRanges (tokensOf rest))).filter
            ElementRange.isWrapper))
      (before : List Piece) (covered : Nat) (whole : all = before ++ piece :: rest)
      (behind : covered ≤ byteCount (sourceOf before)) :
      Extracts source (byteCount (sourceOf before)) (.kept piece.source :: childParts rest)
        ((outermostOf ElementRange.span covered (elementRanges (tokensOf (piece :: rest)))).filter
          ElementRange.isWrapper) := by
    have unread : elementRange? piece (tokensOf rest) = none :=
      elementRange?_of_unclosed fun tag marked => by
        rw [closeOf?_tokensOf, unclosed tag marked, Option.map_none]
    have added : byteCount (sourceOf (before ++ [piece])) =
        byteCount (sourceOf before) + byteCount piece.source := by
      simp
    have later := inductionHypothesis (before ++ [piece]) covered
      (by rw [whole, List.append_assoc]; rfl) (by omega)
    rw [added] at later
    rw [elementRanges, rangesAlong_tokensOf_of_unread fun _ => unread]
    exact .kept later
  fun_induction childParts pieces with
  | case1 =>
    intro before covered whole behind
    exact .done _
  | case2 piece rest tag marked unclosed inductionHypothesis =>
    refine passed (fun other same => ?_) inductionHypothesis
    rw [marked] at same
    cases same
    exact unclosed
  | case3 piece rest tag marked index closed slot wrapper inductionHypothesis =>
    intro before covered whole behind
    obtain ⟨range, rfl, start, stop, sliced, inside, walked⟩ :=
      exists_range_of_closed laid filled whole marked closed behind
    have isWrapper : range.isWrapper = true := by
      simp [ElementRange.isWrapper, ElementRange.slotName?, wrapper]
    have later := inductionHypothesis (before ++ (piece :: rest.take (index + 1))) range.span.stop
      (by rw [whole, List.append_assoc, List.cons_append, List.take_append_drop])
      (Nat.le_of_eq stop)
    rw [← stop] at later
    rw [walked, List.filter_cons_of_pos isWrapper, ← start]
    exact .wrapped sliced inside wrapper later
  | case4 piece rest tag marked index closed unwrapped inductionHypothesis =>
    intro before covered whole behind
    obtain ⟨range, rfl, _, stop, _, _, walked⟩ :=
      exists_range_of_closed laid filled whole marked closed behind
    have stays : ¬ range.isWrapper = true := by
      simp [ElementRange.isWrapper, ElementRange.slotName?, unwrapped]
    have later := inductionHypothesis (before ++ (piece :: rest.take (index + 1))) range.span.stop
      (by rw [whole, List.append_assoc, List.cons_append, List.take_append_drop])
      (Nat.le_of_eq stop)
    rw [sourceOf_append, byteCount_append] at later
    rw [walked, List.filter_cons_of_neg stays]
    exact .kept later
  | case5 piece rest other inductionHypothesis =>
    exact passed (fun tag marked => absurd marked (other tag)) inductionHypothesis

end Alignment

/-- Splitting an include's children neither loses nor doubles content. Children with a tag that has
no end are not split. All others are split at the wrappers among the outermost closed elements,
which are those inside no other closed element unless elements cross. -/
theorem children_split_at_outermost_wrappers (children : List Char) :
    match tokenize (String.ofList children) with
    | .error _ => SlotContent.ofChildren children = ⟨trim children, []⟩
    | .ok tokens =>
      Outermost ElementRange.span (elementRanges tokens) (outermostElements tokens) ∧
        Splits children ((outermostElements tokens).filter ElementRange.isWrapper)
          (.ofChildren children) ∧
        ((∀ earlier ∈ elementRanges tokens, ∀ later ∈ elementRanges tokens,
            ¬ later.span.Crosses earlier.span) →
          outermostElements tokens = unenclosedOf ElementRange.span (elementRanges tokens)) := by
  rw [tokenize, String.toList_ofList]
  cases scanned : strictPieces children with
  | error tag =>
    show SlotContent.ofChildren children = _
    rw [SlotContent.ofChildren, scanned]
    rfl
  | ok all =>
    obtain ⟨rfl, ended⟩ := strictPieces_eq_ok_iff.mp scanned
    have partition : Partitions (String.ofList children) (tokensOf (pieces .strict children)) := by
      rw [← String.toList_ofList (l := children)] at ended
      have cut := partitions_tokensOf ended
      rwa [String.toList_ofList] at cut
    have outermost := outermost_rangesAlong readsForward_elementRange? partition.nonempty
      partition.ordered
    have laid : Laid children (pieces .strict children) := laid_pieces .strict children
    refine ⟨outermost, ?_, outermost.eq_unenclosedOf
      (increasing_rangesAlong readsForward_elementRange? partition.nonempty partition.ordered)⟩
    have extracts : Extracts children 0 (childParts (pieces .strict children)) _ :=
      extracts_childParts laid (source_ne_nil_of_mem children 0) _ [] 0 rfl (Nat.le_refl _)
    rw [SlotContent.ofChildren, scanned]
    exact extracts.splits (by rw [flatMap_source_childParts]; exact laid.whole)

example : SlotContent.ofChildren
    "<template slot=A> 1 </template>x<p><template slot=a/></p>".toList =
      ⟨"x<p><template slot=a/></p>".toList, [("a", ['1'])]⟩ := by
  decide +kernel

/-- In `<a><b></a>..</b>` the element `b` is closed and encloses the wrapper, but the walk goes on
behind `</a>`, so that it extracts the wrapper all the same. -/
theorem not_splits_at_unenclosed_of_crossed :
    ∃ tokens, tokenize "<a><b></a><template slot=x>T</template></b>" = .ok tokens ∧
      ¬ Splits "<a><b></a><template slot=x>T</template></b>".toList
        ((unenclosedOf ElementRange.span (elementRanges tokens)).filter ElementRange.isWrapper)
        (.ofChildren "<a><b></a><template slot=x>T</template></b>".toList) := by
  refine ⟨[⟨.opening ⟨"a", [], false⟩, "<a>".toList, 0⟩,
    ⟨.opening ⟨"b", [], false⟩, "<b>".toList, 3⟩, ⟨.closing "a", "</a>".toList, 6⟩,
    ⟨.opening ⟨"template", [⟨"slot", "x"⟩], false⟩, "<template slot=x>".toList, 10⟩,
    ⟨.text, "T".toList, 27⟩, ⟨.closing "template", "</template>".toList, 28⟩,
    ⟨.closing "b", "</b>".toList, 39⟩], by decide +kernel, fun splits => ?_⟩
  -- No wrapper lies outside all other elements, yet there is content for the slot `x`.
  obtain ⟨inners, sliced, same⟩ := splits.parts "x"
  have nothing : inners = [] := by
    have listed := sliced.symm.trans
      (show _ = some [] by decide +kernel)
    exact Option.some.inj listed
  have extracted : (SlotContent.ofChildren
      "<a><b></a><template slot=x>T</template></b>".toList).part "x" = ['T'] := by decide +kernel
  rw [extracted, nothing] at same
  cases same

end SceneMarkup.Template
