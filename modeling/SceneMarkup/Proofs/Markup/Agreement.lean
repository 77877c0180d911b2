import SceneMarkup.Proofs.Markup.Locality
import SceneMarkup.Proofs.Markup.Scanning

/-!
Contract: the strict and the lenient scan of one source agree.

Owns:
- `StartsTag`, the start of a tag with its whole name;
- `BreaksOff`, a strict scan up to the first tag without an end, beside the lenient scan;
- the theorem that both scans give the same tokens, or the same tokens up to that tag.

Does not own: what the lenient scan finds behind such a tag.
-/

namespace SceneMarkup.Markup

open SceneMarkup.Text

/-! ### Statement -/

/-- A text begins with `<` or `</` and a name, and no further name character follows the name. -/
def StartsTag (text name : List Char) : Prop :=
  ∃ behind, (text = '<' :: (name ++ behind) ∨ text = '<' :: '/' :: (name ++ behind)) ∧
    name ≠ [] ∧ (∀ character ∈ name, isNameCharacter character = true) ∧
      ∀ next, behind.head? = some next → isNameCharacter next = false

/-- The tokens without a text token at the end. The text in front of a broken tag may go on in the
lenient scan, in which the tag is text. -/
def withoutLastText (tokens : List Piece) : List Piece :=
  match tokens.getLast? with
  | some last => if last.mark = .text then tokens.dropLast else tokens
  | none => []

theorem withoutLastText_cons (token : Piece) (tokens : List Piece) :
    withoutLastText (token :: tokens) <+: token :: withoutLastText tokens := by
  cases tokens with
  | nil =>
    rw [withoutLastText, List.getLast?_singleton]
    dsimp only
    split
    · exact List.nil_prefix
    · exact List.prefix_rfl
  | cons next others =>
    rw [withoutLastText, List.getLast?_cons_cons, withoutLastText]
    split
    · split
      · have dropped : (token :: next :: others).dropLast = token :: (next :: others).dropLast :=
          List.dropLast_cons_cons
        exact dropped ▸ List.prefix_rfl
      · exact List.prefix_rfl
    · rename_i impossible
      simp at impossible

/-! ### Broken tags -/

/-- The name at a tag start, up to the first character that belongs to no name. -/
theorem startsTag_of_startsName {rest : List Char} (started : startsName rest = true) :
    StartsTag ('<' :: rest) (tagName rest) ∧ StartsTag ('<' :: '/' :: rest) (tagName rest) := by
  have whole : tagName rest ++ behindTagName rest = rest := List.takeWhile_append_dropWhile
  have nonempty : tagName rest ≠ [] := by
    cases rest with
    | nil => cases started
    | cons first others =>
      rw [tagName, List.takeWhile_cons_of_pos (show isNameCharacter first = true from started)]
      exact List.cons_ne_nil _ _
  have letters : ∀ character ∈ tagName rest, isNameCharacter character = true :=
    fun _ member => List.mem_takeWhile_imp member
  have ended : ∀ next, (behindTagName rest).head? = some next → isNameCharacter next = false := by
    intro next head
    have stopped := List.head?_dropWhile_not isNameCharacter rest
    rw [show (rest.dropWhile isNameCharacter).head? = some next from head] at stopped
    simpa using stopped
  exact ⟨⟨_, Or.inl (by rw [whole]), nonempty, letters, ended⟩,
    ⟨_, Or.inr (by rw [whole]), nonempty, letters, ended⟩⟩

/-- A tag without an end takes up all that follows its start. -/
theorem startsTag_of_unterminated {text behind : List Char}
    (read : mark? .strict text = some (.unterminated, behind)) :
    behind = [] ∧ ∃ name, StartsTag text name ∧ startedName text = String.ofList name := by
  cases markRead_of_mark? read with
  | @brokenClosing rest uncommented started unread strict =>
    exact ⟨rfl, _, (startsTag_of_startsName started).2, rfl⟩
  | @brokenOpening rest uncommented started unread strict =>
    refine ⟨rfl, _, (startsTag_of_startsName started).1, ?_⟩
    rw [startedName]
    rintro others rfl
    revert started
    simp [startsName, isNameCharacter, show isAlphanumeric '/' = false by decide]

/-! ### The scans side by side -/

/-- What is read at a place with an end is read in the lenient scan, too. -/
theorem mark?_lenient {text behind : List Char} {mark : Mark}
    (read : mark? .strict text = some (mark, behind)) (ended : mark ≠ .unterminated) :
    mark? .lenient text = some (mark, behind) :=
  ((markRead_of_mark? read).recovering ended .lenient).mark?_eq

theorem mark?_lenient_eq_none {text : List Char} (unread : mark? .strict text = none) :
    mark? .lenient text = none := by
  cases read : mark? .lenient text with
  | none => rfl
  | some found =>
    obtain ⟨mark, behind⟩ := found
    have strict := (markRead_of_mark? read).recovering (ne_unterminated_of_mark? read) .strict
    rw [strict.mark?_eq] at unread
    cases unread

theorem unread_lenient {behind plain : List Char}
    (unread : (marks .strict).Unread behind plain) : (marks .lenient).Unread behind plain := by
  induction plain with
  | nil => exact trivial
  | cons character rest inductionHypothesis =>
    exact ⟨mark?_lenient_eq_none unread.1, inductionHypothesis unread.2⟩

theorem unread_of_append {plain behind later : List Char}
    (unread : (marks .strict).Unread (behind ++ later) plain) :
    (marks .strict).Unread behind plain := by
  induction plain with
  | nil => exact trivial
  | cons character rest inductionHypothesis =>
    refine ⟨mark?_eq_none_of_isPrefix ?_ unread.1, inductionHypothesis unread.2⟩
    rw [← List.append_assoc, ← List.cons_append]
    exact List.prefix_append _ _

/-- A search that stops in front of a tag with an end or a comment stops there in both scans. -/
theorem stops_lenient {text : List Char} (stops : (marks .strict).Stops text) (position : Nat)
    (ended : ∀ first ∈ (piecesAt .strict position text).head?, first.mark ≠ .unterminated) :
    (marks .lenient).Stops text := by
  rcases stops with rfl | found
  · exact Or.inl rfl
  · obtain ⟨⟨mark, behind⟩, read⟩ := Option.isSome_iff_exists.mp found
    have read : mark? .strict text = some (mark, behind) := read
    rw [piecesAt_of_mark? read, List.head?_cons] at ended
    exact stops_of_mark? (mark?_lenient read (ended _ rfl))

/-- Without broken tags the pieces are the same. -/
theorem piecesAt_lenient (text : List Char) (position : Nat)
    (ended : ∀ piece ∈ piecesAt .strict position text, piece.mark ≠ .unterminated) :
    piecesAt .lenient position text = piecesAt .strict position text := by
  induction text using (marks .strict).splitting_induction generalizing position with
  | nil => rw [piecesAt_nil, piecesAt_nil]
  | item text behind mark read inductionHypothesis =>
    rw [piecesAt_of_mark? read] at ended ⊢
    rw [piecesAt_of_mark? (mark?_lenient read (ended _ List.mem_cons_self)), inductionHypothesis]
    exact fun piece member => ended piece (List.mem_cons_of_mem _ member)
  | plain plain behind nonempty unread stops inductionHypothesis =>
    rw [piecesAt_plain nonempty unread stops] at ended ⊢
    have further : ∀ piece ∈ piecesAt .strict (position + byteCount plain) behind,
        piece.mark ≠ .unterminated :=
      fun piece member => ended piece (List.mem_cons_of_mem _ member)
    rw [piecesAt_plain nonempty (unread_lenient unread)
      (stops_lenient stops _ fun first member => further first (List.mem_of_mem_head? member)),
      inductionHypothesis _ further]

theorem piecesAt_ne_nil {recovery : Recovery} {text : List Char} (nonempty : text ≠ [])
    (position : Nat) : piecesAt recovery position text ≠ [] := by
  intro empty
  have whole := @sourceOf_piecesAt recovery position text
  rw [empty] at whole
  exact nonempty whole.symm

/-- A text at which nothing begins has a text run as its first piece. -/
theorem head?_piecesAt_of_unread {recovery : Recovery} {text : List Char} (nonempty : text ≠ [])
    (unread : mark? recovery text = none) (position : Nat) :
    ∃ plain, (piecesAt recovery position text).head? = some ⟨.text, plain, position⟩ := by
  obtain ⟨character, others, rfl⟩ := List.exists_cons_of_ne_nil nonempty
  rw [piecesAt, Recogniser.stretches]
  split
  · rename_i found
    rw [show (marks recovery).read (character :: others) = none from unread] at found
    cases found
  · exact ⟨_, rfl⟩

/-- A strict scan that breaks off in front of `rest`. Up to there it does not depend on `rest`, and
the lenient scan has the same tokens. -/
structure BreaksOff (position : Nat) (text before rest : List Char) : Prop where
  whole : text = before ++ rest
  scanned : piecesAt .strict position text =
    piecesAt .strict position before ++ [⟨.unterminated, rest, position + byteCount before⟩]
  ended : ∀ piece ∈ piecesAt .strict position before, piece.mark ≠ .unterminated
  kept : withoutLastText (tokensOf (piecesAt .strict position before)) <+:
    tokensOf (piecesAt .lenient position text)
  started : ∃ name, StartsTag rest name ∧ startedName rest = String.ofList name

namespace BreaksOff

variable {position : Nat} {text before rest : List Char}

/-- A piece that is the same in both scans, in front of pieces up to a broken tag. -/
theorem isPrefix_withoutLastText {first : Piece} {here : List Char}
    (breaks : BreaksOff position text before rest)
    (lenient : piecesAt .lenient first.start here = first :: piecesAt .lenient position text) :
    withoutLastText (tokensOf (first :: piecesAt .strict position before)) <+:
      tokensOf (piecesAt .lenient first.start here) := by
  rw [lenient, tokensOf_cons, tokensOf_cons]
  split
  · exact breaks.kept
  · exact (withoutLastText_cons _ _).trans (List.cons_prefix_cons.mpr ⟨rfl, breaks.kept⟩)

/-- A tag with an end or a comment in front of a scan that breaks off. -/
theorem item {part behind : List Char} {mark : Mark}
    (read : mark? .strict (part ++ behind) = some (mark, behind)) (ended : mark ≠ .unterminated)
    (breaks : BreaksOff (position + byteCount part) behind before rest) :
    BreaksOff position (part ++ behind) (part ++ before) rest := by
  obtain rfl := breaks.whole
  have inside : mark? .strict (part ++ before) = some (mark, before) := by
    rw [← List.append_assoc] at read
    exact mark?_of_append read
  have scanned := piecesAt_of_mark? read position
  have scannedInside := piecesAt_of_mark? inside position
  have lenient := piecesAt_of_mark? (mark?_lenient read ended) position
  rw [readPart_of_append] at scanned scannedInside lenient
  constructor
  case whole => rw [List.append_assoc]
  case scanned =>
    simp [scanned, scannedInside, breaks.scanned, Nat.add_assoc]
  case ended =>
    rw [scannedInside]
    intro piece member
    rcases List.mem_cons.mp member with rfl | later
    · exact ended
    · exact breaks.ended piece later
  case kept =>
    rw [scannedInside]
    exact breaks.isPrefix_withoutLastText lenient
  case started => exact breaks.started

/-- Where the search for plain text stops before a broken tag that comes later, it stops without
that tag, too: the first piece is the same. -/
theorem stops_before {here : List Char} (stops : (marks .strict).Stops here)
    (breaks : BreaksOff position here before rest) : (marks .strict).Stops before := by
  by_contra goesOn
  obtain ⟨nonempty, unread⟩ := not_or.mp goesOn
  obtain ⟨plain, isText⟩ := head?_piecesAt_of_unread nonempty
    (Option.not_isSome_iff_eq_none.mp unread) position
  have first : (piecesAt .strict position here).head? = some ⟨.text, plain, position⟩ := by
    rw [breaks.scanned, List.head?_append, isText]
    rfl
  rcases stops with rfl | found
  · exact nonempty (List.append_eq_nil_iff.mp breaks.whole.symm).1
  · obtain ⟨⟨mark, behind⟩, read⟩ := Option.isSome_iff_exists.mp found
    have read : mark? .strict here = some (mark, behind) := read
    rw [piecesAt_of_mark? read, List.head?_cons] at first
    cases first
    exact ne_text_of_mark? read rfl

/-- Plain text in front of a scan that breaks off. -/
theorem plain {part behind : List Char} (nonempty : part ≠ [])
    (unread : (marks .strict).Unread behind part) (stops : (marks .strict).Stops behind)
    (breaks : BreaksOff (position + byteCount part) behind before rest) :
    BreaksOff position (part ++ behind) (part ++ before) rest := by
  have scanned := piecesAt_plain nonempty unread stops position
  have stopsBefore := breaks.stops_before stops
  obtain rfl := breaks.whole
  have scannedInside := piecesAt_plain nonempty (unread_of_append unread) stopsBefore position
  constructor
  case whole => rw [List.append_assoc]
  case scanned =>
    simp [scanned, scannedInside, breaks.scanned, Nat.add_assoc]
  case ended =>
    rw [scannedInside]
    intro piece member
    rcases List.mem_cons.mp member with rfl | later
    · exact Mark.noConfusion
    · exact breaks.ended piece later
  case kept =>
    rw [scannedInside]
    by_cases empty : before = []
    · -- In the lenient scan the broken tag belongs to the text in front of it.
      rw [empty, piecesAt_nil]
      exact List.nil_prefix
    · have endedFirst : ∀ first ∈ (piecesAt .strict (position + byteCount part)
          (before ++ rest)).head?, first.mark ≠ .unterminated := by
        intro first member
        obtain ⟨piece, others, same⟩ := List.exists_cons_of_ne_nil
          (@piecesAt_ne_nil .strict before empty (position + byteCount part))
        rw [breaks.scanned, same] at member
        cases member
        exact breaks.ended _ (same ▸ List.mem_cons_self)
      exact breaks.isPrefix_withoutLastText
        (piecesAt_plain nonempty (unread_lenient unread) (stops_lenient stops _ endedFirst)
          position)
  case started => exact breaks.started

end BreaksOff

/-- A strict scan has only pieces with an end, or breaks off at the first without. -/
theorem ended_or_breaksOff (text : List Char) (position : Nat) :
    (∀ piece ∈ piecesAt .strict position text, piece.mark ≠ .unterminated) ∨
      ∃ before rest, BreaksOff position text before rest := by
  induction text using (marks .strict).splitting_induction generalizing position with
  | nil =>
    rw [piecesAt_nil]
    exact Or.inl fun _ member => absurd member List.not_mem_nil
  | item text behind mark read inductionHypothesis =>
    have parts := readPart_append (properSuffix_of_mark? read).suffix
    by_cases broken : mark = .unterminated
    · subst broken
      obtain ⟨rfl, started⟩ := startsTag_of_unterminated read
      rw [List.append_nil] at parts
      refine Or.inr ⟨[], text, ⟨rfl, ?_, ?_, ?_, started⟩⟩
      · rw [piecesAt_of_mark? read, parts, piecesAt_nil, piecesAt_nil]
        rfl
      · rw [piecesAt_nil]
        exact fun _ member => absurd member List.not_mem_nil
      · rw [piecesAt_nil]
        exact List.nil_prefix
    · rcases inductionHypothesis (position + byteCount (readPart text behind)) with
        ended | ⟨before, rest, breaks⟩
      · left
        rw [piecesAt_of_mark? read]
        intro piece member
        rcases List.mem_cons.mp member with rfl | later
        · exact broken
        · exact ended piece later
      · right
        have read : mark? .strict (readPart text behind ++ behind) = some (mark, behind) := by
          rwa [parts]
        have whole := breaks.item read broken
        rw [parts] at whole
        exact ⟨_, rest, whole⟩
  | plain plain behind nonempty unread stops inductionHypothesis =>
    rcases inductionHypothesis (position + byteCount plain) with ended | ⟨before, rest, breaks⟩
    · left
      rw [piecesAt_plain nonempty unread stops]
      intro piece member
      rcases List.mem_cons.mp member with rfl | later
      · exact Mark.noConfusion
      · exact ended piece later
    · exact Or.inr ⟨_, rest, breaks.plain nonempty unread stops⟩

/-! ### Agreement -/

/-- The two scans of a source that has no broken tag. -/
theorem tokenize_of_ended {source : String}
    (ended : ∀ piece ∈ pieces .strict source.toList, piece.mark ≠ .unterminated) :
    tokenize source = .ok (tokenizeLenient source) := by
  have same : pieces .lenient source.toList = pieces .strict source.toList :=
    piecesAt_lenient source.toList 0 ended
  rw [tokenize, strictPieces_eq_ok_iff.mpr ⟨rfl, ended⟩, tokenizeLenient, lenientPieces, same]
  rfl

/-- The strict scan of a source that has a broken tag names the first. -/
theorem tokenize_of_breaksOff {source : String} {before rest : List Char}
    (breaks : BreaksOff 0 source.toList before rest) :
    tokenize source = .error ⟨startedName rest, byteCount before⟩ := by
  have found : (pieces .strict source.toList).find? (fun piece => piece.mark == .unterminated) =
      some ⟨.unterminated, rest, byteCount before⟩ := by
    rw [List.find?_eq_some_iff_append]
    refine ⟨rfl, piecesAt .strict 0 before, [], ?_, ?_⟩
    · rw [← Nat.zero_add (byteCount before)]
      exact breaks.scanned
    · intro piece member
      simpa using breaks.ended piece member
  rw [tokenize, strictPieces, found]
  rfl

/-- The lenient scan always gives tokens, those of the strict one where it succeeds. Where it fails,
it fails at the start of a tag, everything in front of which scans strictly, with the same tokens as
in the lenient scan. -/
theorem strict_and_lenient_agree (source : String) :
    (∀ token ∈ tokenizeLenient source, token.mark ≠ .comment ∧ token.mark ≠ .unterminated) ∧
      (∀ tokens, tokenize source = .ok tokens → tokenizeLenient source = tokens) ∧
      ∀ broken, tokenize source = .error broken → ∃ before rest name tokens,
        source.toList = before ++ rest ∧ broken.offset = byteCount before ∧
        StartsTag rest name ∧ broken.tag = String.ofList name ∧
        tokenize (String.ofList before) = .ok tokens ∧
        withoutLastText tokens <+: tokenizeLenient source := by
  refine ⟨?_, ?_, ?_⟩
  · intro token member
    obtain ⟨inside, notComment⟩ := List.mem_filter.mp member
    exact ⟨by simpa using notComment, ne_unterminated_of_mem_lenient _ 0 token inside⟩
  · intro tokens scanned
    obtain ⟨accepted, rfl⟩ := exists_of_tokenize scanned
    rw [tokenize_of_ended (strictPieces_eq_ok_iff.mp accepted).2] at scanned
    exact Except.ok.inj scanned
  · intro broken failed
    rcases ended_or_breaksOff source.toList 0 with ended | ⟨before, rest, breaks⟩
    · rw [tokenize_of_ended ended] at failed
      cases failed
    · rw [tokenize_of_breaksOff breaks] at failed
      cases failed
      obtain ⟨name, started, named⟩ := breaks.started
      have ended : ∀ piece ∈ pieces .strict (String.ofList before).toList,
          piece.mark ≠ .unterminated := by
        rw [String.toList_ofList]
        exact breaks.ended
      refine ⟨before, rest, name, _, breaks.whole, rfl, started, named,
        (tokenize_of_ended ended), ?_⟩
      have same :
          tokenizeLenient (String.ofList before) = tokensOf (piecesAt .strict 0 before) := by
        rw [tokenizeLenient, lenientPieces, String.toList_ofList]
        exact congrArg tokensOf (piecesAt_lenient before 0 breaks.ended)
      rw [same]
      exact breaks.kept

/-- A tag in both scans, and a closing tag that is not closed behind text that goes on in the other
scan. -/
theorem strict_and_lenient_agree_at_tags :
    (∃ tokens, tokenize "<View/>" = .ok tokens ∧ tokens.length = 1 ∧
      tokenizeLenient "<View/>" = tokens) ∧
    tokenize "<View>é</View x><Box/>" = .error ⟨"View", 8⟩ ∧
      ∃ before rest name tokens, "<View>é</View x><Box/>".toList = before ++ rest ∧
        8 = byteCount before ∧ StartsTag rest name ∧ "View" = String.ofList name ∧
        tokenize (String.ofList before) = .ok tokens ∧
        withoutLastText tokens <+: tokenizeLenient "<View>é</View x><Box/>" :=
  ⟨⟨[⟨.opening ⟨"View", [], true⟩, "<View/>".toList, 0⟩], by decide +kernel, rfl,
      (strict_and_lenient_agree _).2.1 _ (by decide +kernel)⟩,
    by decide +kernel, (strict_and_lenient_agree _).2.2 ⟨"View", 8⟩ (by decide +kernel)⟩

end SceneMarkup.Markup
