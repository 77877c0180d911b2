import SceneMarkup.Proofs.Markup.Scanned
import SceneMarkup.Proofs.Template.Reading
import SceneMarkup.Proofs.Template.SlotTags

/-!
Contract: the slots of a component body are those of its tags.

Owns:
- the slots and comments of a body, told by its pieces;
- the bodies whose slots are written so plainly that both scanners read them alike;
- the search for a closing slot tag, which counts the tags that the pieces have;
- the theorem that the scan of such a body finds exactly those slots and comments.

Does not own: bodies with braces, and what replaces a slot.
-/

namespace SceneMarkup.Template

open SceneMarkup.Text SceneMarkup.Markup

/-! ### Statement -/

/-- The tag of a piece that opens a slot. -/
def slotOpening? (piece : Piece) : Option OpeningTag :=
  match piece.mark with
  | .opening tag => if sameWord tag.name "slot" then some tag else none
  | _ => none

/-- The pieces among which the closing tag of an element of the name is looked for, when `depth`
more elements of the name are open: those up to that tag, or all if there is none. -/
def searchedFor (name : String) (depth : Nat) (pieces : List Piece) : List Piece :=
  match closeIndex? name depth pieces with
  | some index => pieces.take (index + 1)
  | none => pieces

/-- A slot of a body: the piece and tag that open it, and the pieces behind them. -/
structure TaggedSlot where
  opening : Piece
  tag : OpeningTag
  behind : List Piece
deriving DecidableEq, Repr

namespace TaggedSlot

/-- The index of the closing tag among the pieces behind the opening tag. -/
def close? (slot : TaggedSlot) : Option Nat := closeOf? slot.tag slot.behind

/-- The pieces up to the closing tag, that tag included. -/
def inside (slot : TaggedSlot) : List Piece :=
  match slot.close? with
  | some index => slot.behind.take (index + 1)
  | none => []

/-- The source between the two tags; a slot without a closing tag has none. -/
def fallback (slot : TaggedSlot) : List Char :=
  match slot.close? with
  | some index => sourceOf (slot.behind.take index)
  | none => []

def source (slot : TaggedSlot) : List Char := slot.opening.source ++ sourceOf slot.inside

/-- The pieces behind the slot. -/
def after (slot : TaggedSlot) : List Piece :=
  match slot.close? with
  | some index => slot.behind.drop (index + 1)
  | none => slot.behind

theorem inside_append_after (slot : TaggedSlot) : slot.inside ++ slot.after = slot.behind := by
  unfold inside after
  cases slot.close? with
  | some index => exact List.take_append_drop _ _
  | none => rfl

theorem length_after_le (slot : TaggedSlot) : slot.after.length ≤ slot.behind.length := by
  rw [← slot.inside_append_after, List.length_append]
  exact Nat.le_add_left _ _

/-- The pieces among which the closing tag is looked for. -/
def searched (slot : TaggedSlot) : List Piece :=
  if slot.tag.selfClosing then [] else searchedFor slot.tag.name 0 slot.behind

end TaggedSlot

/-- A slot, or a piece outside all slots. -/
inductive BodyPart where
  | element (slot : TaggedSlot)
  | outside (piece : Piece)
deriving DecidableEq, Repr

/-- The slots of a body and the pieces outside them, from left to right. -/
def bodyParts (pieces : List Piece) : List BodyPart :=
  match pieces with
  | [] => []
  | piece :: rest =>
    match slotOpening? piece with
    | some tag => .element ⟨piece, tag, rest⟩ :: bodyParts (TaggedSlot.after ⟨piece, tag, rest⟩)
    | none => .outside piece :: bodyParts rest
termination_by pieces.length
decreasing_by
  · exact Nat.lt_succ_of_le (TaggedSlot.length_after_le ⟨piece, tag, rest⟩)
  · simp

/-- What the scan of a body should find at a part: its byte position, the segment and its
source. -/
def BodyPart.item? : BodyPart → Option (Nat × Segment × List Char)
  | .element slot => some (slot.opening.start,
      .slot (slot.tag.attributes.nonEmpty? "name") slot.fallback, slot.source)
  | .outside piece =>
    if piece.mark = .comment then some (piece.start, .comment, piece.source) else none

/-- The items of a scan with their byte positions and their sources. -/
def placedItems (position : Nat) : List (Stretch Segment) → List (Nat × Segment × List Char)
  | [] => []
  | .item segment source :: rest =>
    (position, segment, source) :: placedItems (position + byteCount source) rest
  | .plain source :: rest => placedItems (position + byteCount source) rest

/-- Whether something begins inside a piece, behind its first character. -/
def hides (begins : List Char → Bool) (piece : Piece) : Bool :=
  piece.source.tail.tails.any begins

/-- Whether a slot tag has a blank, a slash or its end behind the word, its quotes come in pairs,
and neither `<` nor `>` stands outside them. -/
def isPlainSlotTag (source : List Char) : Bool :=
  startsSlotTag source && quotesPaired none source.tail.dropLast

def opensComment (text : List Char) : Bool := (CommentForm.of? text).isSome

def closesSlot (text : List Char) : Bool := (closingSlot? text).isSome

/-- Whether a slot tag begins that does not end in the text as a self-closing tag. -/
def mayOpenSlot (text : List Char) : Bool :=
  startsSlotTag text && !(slotTag? text).any fun read => read.1.selfClosing

/-- A piece that the search for a closing slot tag passes as the tag that it is. -/
def passesPlainly (piece : Piece) : Bool :=
  ((slotOpening? piece).isNone || isPlainSlotTag piece.source)
    && !hides mayOpenSlot piece && !hides closesSlot piece

/-- A part that is written plainly: no tag outside slots hides a slot or a comment, slot tags are
plain, and nothing that is searched for the closing tag of a slot hides a tag that counts there. -/
def BodyPart.isPlain : BodyPart → Bool
  | .element slot => isPlainSlotTag slot.opening.source && slot.searched.all passesPlainly
  | .outside piece => piece.mark = .comment ∨
      (!hides startsSlotTag piece && !hides opensComment piece)

/-- The scan for slots finds the comments outside slots and the slots of the tags, in their places
and with their extents, and nothing else. -/
def SlotsAgree (body : List Char) (pieces : List Piece) : Prop :=
  placedItems 0 (bodySegments.stretches body) = (bodyParts pieces).filterMap BodyPart.item?

instance (body : List Char) (pieces : List Piece) : Decidable (SlotsAgree body pieces) :=
  inferInstanceAs (Decidable (_ = _))

/-! ### Plain parts -/

theorem slotOpening?_eq_some_iff {piece : Piece} {tag : OpeningTag} :
    slotOpening? piece = some tag ↔
      piece.mark = .opening tag ∧ sameWord tag.name "slot" = true := by
  unfold slotOpening?
  split
  · rename_i other marked
    rw [marked, Mark.opening.injEq, Option.ite_none_right_eq_some, Option.some.injEq]
    constructor
    · rintro ⟨named, rfl⟩
      exact ⟨rfl, named⟩
    · rintro ⟨rfl, named⟩
      exact ⟨named, rfl⟩
  · rename_i other
    exact iff_of_false (Option.some_ne_none tag).symm fun marked => other tag marked.1

theorem of_passesPlainly {piece : Piece} (plainly : passesPlainly piece = true) :
    (∀ tag, slotOpening? piece = some tag → isPlainSlotTag piece.source = true) ∧
      hides mayOpenSlot piece = false ∧ hides closesSlot piece = false := by
  simp only [passesPlainly, Bool.and_eq_true, Bool.or_eq_true, Bool.not_eq_true',
    Option.isNone_iff_eq_none] at plainly
  obtain ⟨⟨isPlain, unopened⟩, unclosed⟩ := plainly
  refine ⟨fun tag opened => isPlain.resolve_left ?_, unopened, unclosed⟩
  rw [opened]
  exact Option.some_ne_none tag

/-! ### Items one after another -/

theorem placedItems_of_read {item behind : List Char} {segment : Segment}
    (read : segment? true (item ++ behind) = some (segment, behind)) (position : Nat) :
    placedItems position (bodySegments.stretches (item ++ behind)) =
      (position, segment, item) ::
        placedItems (position + byteCount item) (bodySegments.stretches behind) := by
  rw [bodySegments.stretches_of_read read, readPart_of_append]
  rfl

theorem placedItems_of_stops {plain behind : List Char}
    (unread : bodySegments.Unread behind plain) (stops : bodySegments.Stops behind)
    (position : Nat) :
    placedItems position (bodySegments.stretches (plain ++ behind)) =
      placedItems (position + byteCount plain) (bodySegments.stretches behind) := by
  by_cases empty : plain = []
  · rw [empty]
    rfl
  · rw [bodySegments.stretches_plain empty unread stops]
    rfl

/-- Plain text has no items, also in front of other plain text. -/
theorem placedItems_of_unread {plain behind : List Char}
    (unread : bodySegments.Unread behind plain) (position : Nat) :
    placedItems position (bodySegments.stretches (plain ++ behind)) =
      placedItems (position + byteCount plain) (bodySegments.stretches behind) := by
  have whole := bodySegments.plainFrom_append [] behind
  rw [List.reverse_nil, List.nil_append] at whole
  have stops := bodySegments.stops_plainFrom [] behind
  have further := bodySegments.unread_plainFrom behind
  rw [← whole] at unread ⊢
  rw [← List.append_assoc,
    placedItems_of_stops (bodySegments.unread_append unread further) stops,
    placedItems_of_stops further stops, byteCount_append, Nat.add_assoc]

/-! ### Text that both scans pass over -/

/-- Text in front of other text, at no character of which the search for a closing slot tag reads
a tag. -/
def Passed (behind : List Char) : List Char → Prop
  | [] => True
  | character :: rest =>
    closingSlot? (character :: (rest ++ behind)) = none ∧
      opensSlot (character :: (rest ++ behind)) = false ∧ Passed behind rest

theorem slotClose?_of_passed {text behind : List Char} (passed : Passed behind text)
    (depth : Nat) : slotClose? depth (text ++ behind) = slotClose? depth behind := by
  induction text with
  | nil => rfl
  | cons character rest inductionHypothesis =>
    obtain ⟨unclosed, unopened, later⟩ := passed
    rw [List.cons_append, slotClose?_cons unclosed unopened]
    exact inductionHypothesis later

theorem segment?_eq_none_of_unslotted {character : Char} {rest : List Char}
    (unbraced : character ≠ '\x7b') (uncommented : CommentForm.of? (character :: rest) = none)
    (unslotted : startsSlotTag (character :: rest) = false) :
    segment? true (character :: rest) = none := by
  rw [segment?, behindComment?, uncommented, Option.map_none]
  dsimp only
  rw [if_neg unbraced, unslotted, Bool.and_false, if_neg Bool.false_ne_true]

theorem opensSlot_of_unslotted {text : List Char} (unslotted : startsSlotTag text = false) :
    opensSlot text = false := by
  rw [opensSlot, unslotted, Bool.false_and]

theorem opensSlot_append_eq_false {text behind : List Char} (closed : Sealed behind text)
    (unopened : mayOpenSlot text = false) : opensSlot (text ++ behind) = false := by
  rw [opensSlot, startsSlotTag_append closed]
  cases starts : startsSlotTag text with
  | false => rfl
  | true =>
    rw [mayOpenSlot, starts, Bool.true_and, Bool.not_eq_false', Option.any_eq_true] at unopened
    obtain ⟨⟨tag, rest⟩, read, selfClosing⟩ := unopened
    rw [slotTag?_append read, Option.any_some, selfClosing]
    rfl

theorem unread_of_nothing_hidden {text behind : List Char} (closed : text ≠ [] → Sealed behind text)
    (unbraced : '\x7b' ∉ text) (untagged : text.tails.any startsSlotTag = false)
    (uncommented : text.tails.any opensComment = false) : bodySegments.Unread behind text := by
  induction text with
  | nil => exact trivial
  | cons character rest inductionHypothesis =>
    rw [List.tails, List.any_cons, Bool.or_eq_false_iff] at untagged uncommented
    rw [List.mem_cons, not_or] at unbraced
    have here := closed (List.cons_ne_nil _ _)
    refine ⟨segment?_eq_none_of_unslotted (Ne.symm unbraced.1) ?_ ?_,
      inductionHypothesis here.tail unbraced.2 untagged.2 uncommented.2⟩
    · rw [← List.cons_append]
      exact commentForm_append_eq_none here (by simpa [opensComment] using uncommented.1)
    · rw [← List.cons_append, startsSlotTag_append here]
      exact untagged.1

theorem passed_of_nothing_hidden {text behind : List Char} (closed : text ≠ [] → Sealed behind text)
    (unopened : text.tails.any mayOpenSlot = false)
    (unclosed : text.tails.any closesSlot = false) : Passed behind text := by
  induction text with
  | nil => exact trivial
  | cons character rest inductionHypothesis =>
    rw [List.tails, List.any_cons, Bool.or_eq_false_iff] at unopened unclosed
    have here := closed (List.cons_ne_nil _ _)
    exact ⟨closingSlot?_append_eq_none here (by simpa [closesSlot] using unclosed.1),
      opensSlot_append_eq_false here unopened.1,
      inductionHypothesis here.tail unopened.2 unclosed.2⟩

/-! ### Pieces in front of other text -/

section Pieces

variable {source behind : List Char} {mark : Mark}

/-- Plain text of the strict scan is plain text of the scan for slots. -/
theorem unread_of_unread (unbraced : '\x7b' ∉ source)
    (unread : (marks .strict).Unread behind source) : bodySegments.Unread behind source := by
  induction source with
  | nil => exact trivial
  | cons character rest inductionHypothesis =>
    obtain ⟨here, later⟩ := unread
    rw [List.mem_cons, not_or] at unbraced
    exact ⟨segment?_eq_none_of_unslotted (Ne.symm unbraced.1) (commentForm_of_unread here)
      (startsSlotTag_of_unread here), inductionHypothesis unbraced.2 later⟩

theorem passed_of_unread (unread : (marks .strict).Unread behind source) :
    Passed behind source := by
  induction source with
  | nil => exact trivial
  | cons character rest inductionHypothesis =>
    obtain ⟨here, later⟩ := unread
    exact ⟨closingSlot?_of_unread here, opensSlot_of_unslotted (startsSlotTag_of_unread here),
      inductionHypothesis later⟩

theorem segment?_of_comment {text : List Char}
    (read : mark? .strict text = some (.comment, behind)) :
    segment? true text = some (.comment, behind) := by
  unfold segment?
  rw [behindComment?_of_mark? read]

/-- A tag that is no slot tag and hides nothing is passed over. -/
theorem unread_of_mark? {position : Nat}
    (read : mark? .strict (source ++ behind) = some (mark, behind)) (ended : mark ≠ .unterminated)
    (token : mark ≠ .comment) (unbraced : '\x7b' ∉ source)
    (other : slotOpening? ⟨mark, source, position⟩ = none)
    (untagged : hides startsSlotTag ⟨mark, source, position⟩ = false)
    (uncommented : hides opensComment ⟨mark, source, position⟩ = false) :
    bodySegments.Unread behind source := by
  have unstarted : startsSlotTag (source ++ behind) = false := by
    rw [Bool.eq_false_iff]
    intro starts
    obtain ⟨tag, rfl, named⟩ := exists_opening_of_startsSlotTag read ended starts
    rw [slotOpening?_eq_some_iff.mpr ⟨rfl, named⟩] at other
    cases other
  have unopened := commentForm_of_mark? read token
  obtain ⟨tail, rfl, closed⟩ := exists_tail_of_mark? read ended unbraced
  rw [List.mem_cons, not_or] at unbraced
  exact ⟨segment?_eq_none_of_unslotted (by decide) unopened unstarted,
    unread_of_nothing_hidden (fun _ => closed) unbraced.2 untagged uncommented⟩

/-- A plain slot tag is read as the tag that it is. -/
theorem slotTag?_of_mark? {tag : OpeningTag}
    (read : mark? .strict (source ++ behind) = some (.opening tag, behind))
    (unbraced : '\x7b' ∉ source) (isPlain : isPlainSlotTag source = true) :
    startsSlotTag (source ++ behind) = true ∧ slotTag? (source ++ behind) = some (tag, behind) := by
  obtain ⟨starts, paired⟩ := Bool.and_eq_true_iff.mp isPlain
  obtain ⟨inner, rfl⟩ := exists_inner_of_opening read
  refine ⟨?_, ?_⟩
  · rw [startsSlotTag_append (.inr (by simp [List.getLast?_cons]))]
    exact starts
  · have whole : '<' :: (inner ++ ['>']) ++ behind = '<' :: (inner ++ '>' :: behind) := by simp
    rw [whole] at read ⊢
    have pairedInner : quotesPaired none inner = true := by
      simpa using paired
    have unbracedInner : '\x7b' ∉ inner := fun member =>
      unbraced (List.mem_cons_of_mem _ (List.mem_append_left _ member))
    exact slotTag?_of_quotesPaired (openingTag?_of_mark? read) pairedInner unbracedInner

end Pieces

/-! ### The search for a closing tag -/

theorem slotClose?_of_closing {text behind : List Char} (closed : closingSlot? text = some behind)
    (depth : Nat) :
    slotClose? depth text =
      match depth with
      | 0 => some (text, behind)
      | depth + 1 => slotClose? depth behind := by
  cases text with
  | nil => cases closed
  | cons character rest =>
    rw [slotClose?]
    split
    · rename_i left read
      rw [closed] at read
      cases read
      rfl
    · rename_i unread
      rw [closed] at unread
      cases unread

theorem slotClose?_of_unclosed {character : Char} {rest : List Char}
    (unclosed : closingSlot? (character :: rest) = none) (depth : Nat) :
    slotClose? depth (character :: rest) =
      slotClose? (if opensSlot (character :: rest) then depth + 1 else depth) rest := by
  rw [slotClose?]
  split
  · rename_i read
    rw [unclosed] at read
    cases read
  · rfl

section Search

variable {source behind : List Char} {mark : Mark} {position : Nat}

theorem closingSlot?_of_closes (read : mark? .strict (source ++ behind) = some (mark, behind))
    (ended : mark ≠ .unterminated) (position : Nat) :
    closingSlot? (source ++ behind) =
      if Piece.closes "slot" ⟨mark, source, position⟩ then some behind else none := by
  rw [closingSlot?_of_mark? read ended]
  cases mark <;> rfl

theorem opens_opening (name : String) (tag : OpeningTag) :
    Piece.opens name ⟨.opening tag, source, position⟩ =
      (!tag.selfClosing && sameWord tag.name name) := rfl

/-- A tag opens a slot for the search exactly if it does so among the pieces. -/
theorem opensSlot_eq_opens (read : mark? .strict (source ++ behind) = some (mark, behind))
    (ended : mark ≠ .unterminated) (unbraced : '\x7b' ∉ source)
    (plainly : passesPlainly ⟨mark, source, position⟩ = true) :
    opensSlot (source ++ behind) = Piece.opens "slot" ⟨mark, source, position⟩ := by
  obtain ⟨isPlain, _, _⟩ := of_passesPlainly plainly
  cases opened : slotOpening? ⟨mark, source, position⟩ with
  | some tag =>
    obtain ⟨rfl, named⟩ := slotOpening?_eq_some_iff.mp opened
    obtain ⟨starts, tagged⟩ := slotTag?_of_mark? read unbraced (isPlain tag opened)
    rw [opensSlot, starts, tagged, opens_opening, named, Bool.and_true]
    rfl
  | none =>
    have unopened : Piece.opens "slot" ⟨mark, source, position⟩ = false := by
      cases mark with
      | opening tag =>
        have other : sameWord tag.name "slot" = false := by
          rw [Bool.eq_false_iff]
          intro named
          rw [slotOpening?_eq_some_iff.mpr ⟨rfl, named⟩] at opened
          cases opened
        rw [opens_opening, other, Bool.and_false]
      | _ => rfl
    rw [unopened]
    apply opensSlot_of_unslotted
    rw [Bool.eq_false_iff]
    intro starts
    obtain ⟨tag, rfl, named⟩ := exists_opening_of_startsSlotTag read ended starts
    rw [slotOpening?_eq_some_iff.mpr ⟨rfl, named⟩] at opened
    cases opened

/-- A tag or comment that hides nothing counts once, as the tag that it is. -/
theorem slotClose?_of_mark? (read : mark? .strict (source ++ behind) = some (mark, behind))
    (ended : mark ≠ .unterminated) (unbraced : '\x7b' ∉ source)
    (plainly : passesPlainly ⟨mark, source, position⟩ = true)
    (unclosed : Piece.closes "slot" ⟨mark, source, position⟩ = false) (depth : Nat) :
    slotClose? depth (source ++ behind) =
      slotClose? (if Piece.opens "slot" ⟨mark, source, position⟩ then depth + 1 else depth)
        behind := by
  have counted := opensSlot_eq_opens read ended unbraced plainly
  have passes := closingSlot?_of_closes read ended position
  obtain ⟨_, notOpening, notClosing⟩ := of_passesPlainly plainly
  obtain ⟨tail, rfl, closed⟩ := exists_tail_of_mark? read ended unbraced
  rw [unclosed, if_neg Bool.false_ne_true] at passes
  rw [← counted]
  rw [List.cons_append] at passes ⊢
  rw [slotClose?_of_unclosed passes]
  exact slotClose?_of_passed (passed_of_nothing_hidden (fun _ => closed) notOpening notClosing) _

theorem searchedFor_cons {name : String} {depth next : Nat} {piece : Piece} {rest : List Piece}
    (counted : closeIndex? name depth (piece :: rest) =
      (closeIndex? name next rest).map (· + 1)) :
    searchedFor name depth (piece :: rest) = piece :: searchedFor name next rest := by
  rw [searchedFor, counted, searchedFor]
  cases closeIndex? name next rest <;> rfl

/-- The search for a closing slot tag stops at the closing tag that the pieces have. -/
theorem slotClose?_of_scanned {pieces : List Piece} {position : Nat}
    (scanned : Scanned position pieces) (ended : ∀ piece ∈ pieces, piece.mark ≠ .unterminated)
    (unbraced : '\x7b' ∉ sourceOf pieces) {depth : Nat}
    (plainly : ∀ piece ∈ searchedFor "slot" depth pieces, passesPlainly piece = true) :
    slotClose? depth (sourceOf pieces) = (closeIndex? "slot" depth pieces).map fun index =>
      (sourceOf (pieces.drop index), sourceOf (pieces.drop (index + 1))) := by
  induction pieces generalizing position depth with
  | nil =>
    rw [sourceOf_nil, slotClose?]
    cases depth <;> rfl
  | cons piece rest inductionHypothesis =>
    rw [sourceOf_cons, List.mem_append, not_or] at unbraced
    obtain ⟨endedHere, endedRest⟩ := List.forall_mem_cons.mp ended
    -- Where the piece is passed, the search goes on behind it.
    have further {position next : Nat} (later : Scanned position rest)
        (counted : closeIndex? "slot" depth (piece :: rest) =
          (closeIndex? "slot" next rest).map (· + 1))
        (passed : slotClose? depth (piece.source ++ sourceOf rest) =
          slotClose? next (sourceOf rest)) :
        slotClose? depth (sourceOf (piece :: rest)) =
          (closeIndex? "slot" depth (piece :: rest)).map fun index =>
            (sourceOf ((piece :: rest).drop index),
              sourceOf ((piece :: rest).drop (index + 1))) := by
      rw [searchedFor_cons counted] at plainly
      rw [sourceOf_cons, passed, counted, Option.map_map,
        inductionHypothesis later endedRest unbraced.2 (List.forall_mem_cons.mp plainly).2]
      rfl
    have step := closeIndex?_cons "slot" depth piece rest
    cases scanned with
    | plain unread later =>
      exact further later step (slotClose?_of_passed (passed_of_unread unread) depth)
    | @marked _ mark source _ read later =>
      by_cases closes : Piece.closes "slot" ⟨mark, source, position⟩ = true
      · have closed := closingSlot?_of_closes read endedHere position
        rw [if_pos closes] at closed step
        have stopped := slotClose?_of_closing closed depth
        cases depth with
        | zero =>
          rw [step, sourceOf_cons, stopped]
          rfl
        | succ depth => exact further later step stopped
      · rw [if_neg closes] at step
        refine further later step (slotClose?_of_mark? read endedHere unbraced.1 ?_
          (by simpa using closes) depth)
        rw [searchedFor_cons step] at plainly
        exact (List.forall_mem_cons.mp plainly).1

end Search

/-! ### Slots -/

/-- Names that are the same word are closed by the same tags. -/
theorem closeIndex?_of_sameWord {name other : String} (same : sameWord name other = true)
    (depth : Nat) (pieces : List Piece) :
    closeIndex? name depth pieces = closeIndex? other depth pieces := by
  have words (word : String) : sameWord word name = sameWord word other := by
    rw [sameWord, sameWord, beq_iff_eq.mp same]
  have opens (piece : Piece) : piece.opens name = piece.opens other := by
    unfold Piece.opens
    split
    · rw [words]
    · rfl
  have closes (piece : Piece) : piece.closes name = piece.closes other := by
    unfold Piece.closes
    split
    · rw [words]
    · rfl
  induction pieces generalizing depth with
  | nil => cases depth <;> rfl
  | cons piece rest inductionHypothesis =>
    rw [closeIndex?_cons, closeIndex?_cons, opens, closes, inductionHypothesis]
    cases depth with
    | zero => rfl
    | succ depth =>
      dsimp only
      rw [inductionHypothesis]

namespace TaggedSlot

variable {slot : TaggedSlot} {position : Nat}

theorem source_append_after (slot : TaggedSlot) :
    slot.source ++ sourceOf slot.after = slot.opening.source ++ sourceOf slot.behind := by
  rw [source, List.append_assoc, ← sourceOf_append, inside_append_after]

theorem scanned_after (scanned : Scanned position slot.behind) :
    Scanned (position + byteCount (sourceOf slot.inside)) slot.after := by
  unfold inside after
  cases slot.close? with
  | some index => exact scanned.drop (index + 1)
  | none => exact scanned

/-- The search from the opening tag on gives the content and the end of the slot. -/
theorem slotClose?_behind (named : sameWord slot.tag.name "slot" = true)
    (open? : slot.tag.selfClosing = false) (scanned : Scanned position slot.behind)
    (ended : ∀ piece ∈ slot.behind, piece.mark ≠ .unterminated)
    (unbraced : '\x7b' ∉ sourceOf slot.behind)
    (plainly : ∀ piece ∈ slot.searched, passesPlainly piece = true) :
    slotClose? 0 (sourceOf slot.behind) = slot.close?.map fun index =>
      (sourceOf (slot.behind.drop index), sourceOf slot.after) := by
  have close : slot.close? = closeIndex? "slot" 0 slot.behind := by
    rw [close?, closeOf?, open?, if_neg Bool.false_ne_true, closeIndex?_of_sameWord named]
  have searchedAll : slot.searched = searchedFor "slot" 0 slot.behind := by
    rw [searched, open?, if_neg Bool.false_ne_true, searchedFor, searchedFor,
      closeIndex?_of_sameWord named]
  rw [searchedAll] at plainly
  rw [slotClose?_of_scanned scanned ended unbraced plainly, after, close]
  cases closeIndex? "slot" 0 slot.behind <;> rfl

end TaggedSlot

theorem segment?_of_startsSlotTag {text : List Char} (uncommented : CommentForm.of? text = none)
    (starts : startsSlotTag text = true) : segment? true text = some (slotSegment text) := by
  obtain ⟨rest, rfl, _⟩ := exists_of_startsSlotTag starts
  rw [segment?, behindComment?, uncommented, Option.map_none]
  dsimp only
  rw [if_neg (by decide), starts, Bool.and_true, if_pos rfl]

/-- The scan reads a plain slot from its opening tag to its closing tag. -/
theorem segment?_of_slot {slot : TaggedSlot} {position : Nat}
    (named : sameWord slot.tag.name "slot" = true)
    (read : mark? .strict (slot.opening.source ++ sourceOf slot.behind) =
      some (.opening slot.tag, sourceOf slot.behind))
    (scanned : Scanned position slot.behind)
    (ended : ∀ piece ∈ slot.behind, piece.mark ≠ .unterminated)
    (unbraced : '\x7b' ∉ slot.opening.source) (unbracedBehind : '\x7b' ∉ sourceOf slot.behind)
    (isPlain : BodyPart.isPlain (.element slot) = true) :
    segment? true (slot.source ++ sourceOf slot.after) =
      some (.slot (slot.tag.attributes.nonEmpty? "name") slot.fallback, sourceOf slot.after) := by
  obtain ⟨plainTag, plainly⟩ := Bool.and_eq_true_iff.mp isPlain
  obtain ⟨starts, tagged⟩ := slotTag?_of_mark? read unbraced plainTag
  have uncommented := commentForm_of_mark? read Mark.noConfusion
  rw [slot.source_append_after, segment?_of_startsSlotTag uncommented starts, slotSegment, tagged]
  dsimp only
  cases open? : slot.tag.selfClosing with
  | true =>
    have unclosed : slot.close? = none := by
      rw [TaggedSlot.close?, closeOf?, open?, if_pos rfl]
    rw [if_pos rfl, TaggedSlot.fallback, TaggedSlot.after, unclosed]
  | false =>
    have searched := slot.slotClose?_behind named open? scanned ended unbracedBehind
      (List.all_eq_true.mp plainly)
    rw [if_neg Bool.false_ne_true, searched, TaggedSlot.fallback]
    cases closed : slot.close? with
    | none =>
      rw [TaggedSlot.after, closed]
      rfl
    | some index =>
      rw [Option.map_some]
      dsimp only
      rw [← sourceOf_take_append_drop index slot.behind, readPart_of_append]

/-! ### Bodies -/

theorem bodyParts_of_slot {piece : Piece} {tag : OpeningTag}
    (opened : slotOpening? piece = some tag) (rest : List Piece) : bodyParts (piece :: rest) =
      .element ⟨piece, tag, rest⟩ :: bodyParts (TaggedSlot.after ⟨piece, tag, rest⟩) := by
  rw [bodyParts, opened]

theorem bodyParts_of_other {piece : Piece} (opened : slotOpening? piece = none)
    (rest : List Piece) : bodyParts (piece :: rest) = .outside piece :: bodyParts rest := by
  rw [bodyParts, opened]

/-- The scan of plainly written pieces finds their slots and comments. -/
theorem placedItems_of_scanned {pieces : List Piece} {position : Nat}
    (scanned : Scanned position pieces) (ended : ∀ piece ∈ pieces, piece.mark ≠ .unterminated)
    (unbraced : '\x7b' ∉ sourceOf pieces)
    (plain : ∀ part ∈ bodyParts pieces, part.isPlain = true) :
    placedItems position (bodySegments.stretches (sourceOf pieces)) =
      (bodyParts pieces).filterMap BodyPart.item? := by
  fun_induction bodyParts pieces generalizing position with
  | case1 =>
    rw [sourceOf_nil, Recogniser.stretches_nil]
    rfl
  | case2 piece rest tag opened inductionHypothesis =>
    obtain ⟨marked, named⟩ := slotOpening?_eq_some_iff.mp opened
    have unbracedParts : '\x7b' ∉ piece.source ∧ '\x7b' ∉ sourceOf rest := by
      rwa [sourceOf_cons, List.mem_append, not_or] at unbraced
    have endedRest := (List.forall_mem_cons.mp ended).2
    obtain ⟨plainSlot, plainAfter⟩ := List.forall_mem_cons.mp plain
    cases scanned with
    | plain => cases marked
    | @marked _ mark source _ read later =>
      dsimp only at marked
      subst marked
      let slot : TaggedSlot := ⟨⟨.opening tag, source, position⟩, tag, rest⟩
      have parts : slot.inside ++ slot.after = rest := slot.inside_append_after
      have further : Scanned (position + byteCount slot.source) slot.after := by
        rw [TaggedSlot.source, byteCount_append, ← Nat.add_assoc]
        exact TaggedSlot.scanned_after later
      rw [sourceOf_cons, ← slot.source_append_after,
        placedItems_of_read (segment?_of_slot named read later endedRest unbracedParts.1
          unbracedParts.2 plainSlot),
        inductionHypothesis further ?_ ?_ plainAfter, List.filterMap_cons]
      · rfl
      · intro part member
        exact endedRest part (parts ▸ List.mem_append_right _ member)
      · intro member
        refine unbracedParts.2 ?_
        rw [← parts, sourceOf_append]
        exact List.mem_append_right _ member
  | case3 piece rest opened inductionHypothesis =>
    rw [sourceOf_cons, List.mem_append, not_or] at unbraced
    obtain ⟨endedHere, endedRest⟩ := List.forall_mem_cons.mp ended
    obtain ⟨plainHere, plainRest⟩ := List.forall_mem_cons.mp plain
    rw [sourceOf_cons, List.filterMap_cons]
    cases scanned with
    | plain unread later =>
      rw [placedItems_of_unread (unread_of_unread unbraced.1 unread),
        inductionHypothesis later endedRest unbraced.2 plainRest]
      rfl
    | @marked _ mark source _ read later =>
      have further := inductionHypothesis later endedRest unbraced.2 plainRest
      by_cases remark : mark = .comment
      · subst remark
        rw [placedItems_of_read (segment?_of_comment read), further]
        rfl
      · simp only [BodyPart.isPlain, remark, false_or, Bool.and_eq_true, Bool.not_eq_true',
          decide_eq_true_eq] at plainHere
        rw [placedItems_of_unread (unread_of_mark? read endedHere remark unbraced.1 opened
          plainHere.1 plainHere.2), further, BodyPart.item?, if_neg remark]

/-- Both scans find the same slots in a body without braces that the strict scan accepts and whose
parts are plain. -/
theorem slots_agree_with_tags (body : List Char) (pieces : List Piece)
    (accepted : strictPieces body = .ok pieces) (unbraced : '\x7b' ∉ body)
    (plain : ∀ part ∈ bodyParts pieces, part.isPlain = true) : SlotsAgree body pieces := by
  obtain ⟨rfl, ended⟩ := strictPieces_eq_ok_iff.mp accepted
  have whole : sourceOf (piecesAt .strict 0 body) = body := sourceOf_piecesAt ..
  have scanned := placedItems_of_scanned (scanned_piecesAt body 0) ended (by rwa [whole]) plain
  rwa [whole] at scanned

/-- A comment around a slot tag, a slot inside another, whose name is a quoted `>`, and a slot that
nothing closes. -/
def nestedBody : List Char :=
  "<!-- <slot> --><Slot name='>'><slot><!-- <slot/> -->x</slot></SLOT ><slot>".toList

def nestedPieces : List Piece :=
  [⟨.comment, "<!-- <slot> -->".toList, 0⟩,
    ⟨.opening ⟨"Slot", [⟨"name", ">"⟩], false⟩, "<Slot name='>'>".toList, 15⟩,
    ⟨.opening ⟨"slot", [], false⟩, "<slot>".toList, 30⟩,
    ⟨.comment, "<!-- <slot/> -->".toList, 36⟩,
    ⟨.text, "x".toList, 52⟩,
    ⟨.closing "slot", "</slot>".toList, 53⟩,
    ⟨.closing "SLOT", "</SLOT >".toList, 60⟩,
    ⟨.opening ⟨"slot", [], false⟩, "<slot>".toList, 68⟩]

/-- The slot around the others. -/
def outerSlot : TaggedSlot where
  opening := ⟨.opening ⟨"Slot", [⟨"name", ">"⟩], false⟩, "<Slot name='>'>".toList, 15⟩
  tag := ⟨"Slot", [⟨"name", ">"⟩], false⟩
  behind := nestedPieces.drop 2

/-- The slot that nothing closes. -/
def openSlot : TaggedSlot where
  opening := ⟨.opening ⟨"slot", [], false⟩, "<slot>".toList, 68⟩
  tag := ⟨"slot", [], false⟩
  behind := []

theorem close?_outerSlot : outerSlot.close? = some 4 := by
  simp [outerSlot, nestedPieces, TaggedSlot.close?, closeOf?, closeIndex?, Piece.closes,
    Piece.opens, sameWord_iff]

theorem bodyParts_nestedPieces : bodyParts nestedPieces =
    [.outside ⟨.comment, "<!-- <slot> -->".toList, 0⟩, .element outerSlot,
      .element openSlot] := by
  have outer : slotOpening? outerSlot.opening = some outerSlot.tag := by
    simp [slotOpening?, outerSlot, sameWord_iff]
  have last : slotOpening? openSlot.opening = some openSlot.tag := by
    simp [slotOpening?, openSlot, sameWord_iff]
  have whole : nestedPieces =
      ⟨.comment, "<!-- <slot> -->".toList, 0⟩ :: outerSlot.opening :: outerSlot.behind := rfl
  have after : outerSlot.after = [openSlot.opening] := by
    rw [TaggedSlot.after, close?_outerSlot]
    rfl
  rw [whole, bodyParts_of_other rfl, bodyParts_of_slot outer]
  change _ :: .element outerSlot :: bodyParts outerSlot.after = _
  rw [after, bodyParts_of_slot last]
  change _ :: _ :: .element openSlot :: bodyParts [] = _
  rw [bodyParts]

theorem item?_outerSlot : (BodyPart.element outerSlot).item? =
    some (15, .slot (some ">") "<slot><!-- <slot/> -->x</slot>".toList,
      "<Slot name='>'><slot><!-- <slot/> -->x</slot></SLOT >".toList) := by
  have name : outerSlot.tag.attributes.nonEmpty? "name" = some ">" := by
    simp [outerSlot, Attributes.nonEmpty?, Attributes.value?, sameWord_iff]
  rw [BodyPart.item?, TaggedSlot.fallback, TaggedSlot.source, TaggedSlot.inside, close?_outerSlot,
    name]
  decide +kernel

theorem isPlain_outerSlot : (BodyPart.element outerSlot).isPlain = true := by
  have counted : closeIndex? outerSlot.tag.name 0 outerSlot.behind = some 4 := close?_outerSlot
  have searched : outerSlot.searched =
      ⟨.opening ⟨"slot", [], false⟩, "<slot>".toList, 30⟩ :: (nestedPieces.drop 3).take 4 := by
    have opens : outerSlot.tag.selfClosing = false := rfl
    rw [TaggedSlot.searched, opens, if_neg Bool.false_ne_true, searchedFor, counted]
    rfl
  have inner : passesPlainly ⟨.opening ⟨"slot", [], false⟩, "<slot>".toList, 30⟩ = true := by
    rw [passesPlainly, Bool.and_assoc, Bool.and_eq_true, Bool.or_eq_true]
    exact ⟨.inr (by decide +kernel), by decide +kernel⟩
  have others : ((nestedPieces.drop 3).take 4).all passesPlainly = true := by decide +kernel
  rw [BodyPart.isPlain, searched, List.all_cons, inner, others, Bool.and_true, Bool.and_true]
  decide +kernel

theorem slots_agree_with_tags_of_nested :
    strictPieces nestedBody = .ok nestedPieces ∧
      (bodyParts nestedPieces).filterMap BodyPart.item? =
        [(0, .comment, "<!-- <slot> -->".toList),
          (15, .slot (some ">") "<slot><!-- <slot/> -->x</slot>".toList,
            "<Slot name='>'><slot><!-- <slot/> -->x</slot></SLOT >".toList),
          (68, .slot none [], "<slot>".toList)] ∧
      SlotsAgree nestedBody nestedPieces := by
  have accepted : strictPieces nestedBody = .ok nestedPieces :=
    strictPieces_eq_ok_iff.mpr ⟨by decide +kernel, by decide⟩
  have last : (BodyPart.element openSlot).item? = some (68, .slot none [], "<slot>".toList) := rfl
  have plain : (bodyParts nestedPieces).all BodyPart.isPlain = true := by
    rw [bodyParts_nestedPieces, List.all_cons, List.all_cons, isPlain_outerSlot]
    decide +kernel
  refine ⟨accepted, ?_, slots_agree_with_tags nestedBody nestedPieces accepted (by decide)
    (List.all_eq_true.mp plain)⟩
  rw [bodyParts_nestedPieces, List.filterMap_cons, List.filterMap_cons_some item?_outerSlot,
    List.filterMap_cons_some last]
  rfl

/-- A slot tag in a quoted value is found as a slot, and a quote that nothing closes hides the slot
tag that has it. -/
theorem slots_differ_in_quotes :
    ('\x7b' ∉ "<box text='<slot/>'/>".toList ∧
        ∃ pieces ∈ (strictPieces "<box text='<slot/>'/>".toList).toOption,
          ¬ SlotsAgree "<box text='<slot/>'/>".toList pieces) ∧
      '\x7b' ∉ "<view><slot name='x</view>".toList ∧
        ∃ pieces ∈ (strictPieces "<view><slot name='x</view>".toList).toOption,
          ¬ SlotsAgree "<view><slot name='x</view>".toList pieces := by
  decide +kernel

end SceneMarkup.Template
