import Mathlib.Data.List.Chain
import SceneMarkup.Proofs.Markup.Construction
import SceneMarkup.Proofs.Markup.Scanning

/-!
Contract: recovery from unclosed, crossed and stray tags loses no element.

Owns:
- `openingsFrom`, the opening tags of a document as a reader meets them from left to right, who
  keeps in mind where the elements around end and passes over verbatim text;
- the theorem that a document without factories has exactly one node for each of these tags, in
  their order, or fails at the first of them that is unknown.

Does not own: attributes and texts of nodes.
-/

namespace SceneMarkup.Markup

open SceneMarkup.Text

/-! ### Statement -/

/-- The place of the closing tag that belongs to the opening tag at a place, looked for in front of
`limit`. -/
def closingPlace? (tokens : List Piece) (place : Nat) (tag : OpeningTag) (limit : Nat) :
    Option Nat :=
  if tag.selfClosing then none else matchingClose? tokens place tag.name limit

/-- The raw source between an opening token and the token at the place of its closing tag. -/
def rawContent (source : List Char) (tokens : List Piece) (token : Piece) (close : Nat) :
    List Char :=
  ((tokens[close]?).bind fun closing =>
    slice? source ⟨token.span.stop, closing.span.start⟩).getD []

/-- The opening tags that a reader meets in a row of tokens that begins at a place. `limits` are the
places of the closing tags of the elements met so far, the latest first: the first of them that is
still ahead ends the innermost element around, and no closing tag is looked for behind it. Tokens in
front of the place `verbatim` lie in verbatim text. -/
def openingsFrom (source : List Char) (tokens : List Piece) :
    (limits : List Nat) → (verbatim place : Nat) → List Piece → List Opening
  | _, _, _, [] => []
  | limits, verbatim, place, token :: rest =>
    if place < verbatim then openingsFrom source tokens limits verbatim (place + 1) rest
    else
      match token.mark with
      | .opening tag =>
        ⟨tag, token.start⟩ ::
          match closingPlace? tokens place tag
              ((limits.find? fun limit => place < limit).getD tokens.length) with
          | none => openingsFrom source tokens limits 0 (place + 1) rest
          | some close =>
            if isVerbatimContent tag (rawContent source tokens token close) then
              openingsFrom source tokens limits close (place + 1) rest
            else openingsFrom source tokens (close :: limits) 0 (place + 1) rest
      | _ => openingsFrom source tokens limits 0 (place + 1) rest

/-- The opening tags that count in a document whose root is opened by the token at a place: that
one, and those up to its closing tag if there is one. -/
def documentOpenings (source : List Char) (tokens : List Piece) (root : Nat) (tag : OpeningTag) :
    List Opening :=
  let stop := (closingPlace? tokens root tag tokens.length).getD (root + 1)
  openingsFrom source tokens [] 0 root ((tokens.take stop).drop root)

/-! ### The reader and the outline -/

section Reading

variable {source : List Char} {tokens : List Piece}

theorem openingsFrom_of_opening {token : Piece} {tag : OpeningTag}
    (marked : token.mark = .opening tag) (limits : List Nat) (place : Nat) (rest : List Piece) :
    openingsFrom source tokens limits 0 place (token :: rest) =
      ⟨tag, token.start⟩ ::
        match closingPlace? tokens place tag
            ((limits.find? fun limit => place < limit).getD tokens.length) with
        | none => openingsFrom source tokens limits 0 (place + 1) rest
        | some close =>
          if isVerbatimContent tag (rawContent source tokens token close) then
            openingsFrom source tokens limits close (place + 1) rest
          else openingsFrom source tokens (close :: limits) 0 (place + 1) rest := by
  rw [openingsFrom, if_neg (Nat.not_lt_zero _)]
  simp only [marked]

theorem openingsFrom_of_not_opening {token : Piece}
    (unmarked : ∀ tag, token.mark ≠ .opening tag) (limits : List Nat) (place : Nat)
    (rest : List Piece) :
    openingsFrom source tokens limits 0 place (token :: rest) =
      openingsFrom source tokens limits 0 (place + 1) rest := by
  rw [openingsFrom, if_neg (Nat.not_lt_zero _)]
  split
  · rename_i tag marked
    exact absurd marked (unmarked tag)
  · rfl

theorem openingsFrom_verbatim (limits : List Nat) {place close : Nat} {content : List Piece}
    (length : place + content.length = close) (behind : List Piece) :
    openingsFrom source tokens limits close place (content ++ behind) =
      openingsFrom source tokens limits 0 close behind := by
  induction content generalizing place with
  | nil =>
    rw [List.length_nil, Nat.add_zero] at length
    subst length
    cases behind with
    | nil => rfl
    | cons token rest =>
      rw [List.nil_append, openingsFrom, openingsFrom, if_neg (Nat.lt_irrefl _),
        if_neg (Nat.not_lt_zero _)]
  | cons token rest inductionHypothesis =>
    rw [List.length_cons] at length
    rw [List.cons_append, openingsFrom, if_pos (by omega)]
    exact inductionHypothesis (by omega)

/-- Of the limits only those still ahead matter. -/
theorem openingsFrom_congr {limits others : List Nat} {place : Nat}
    (same : ∀ position, place ≤ position → (limits.find? fun limit => position < limit) =
      others.find? fun limit => position < limit) (verbatim : Nat) (rest : List Piece) :
    openingsFrom source tokens limits verbatim place rest =
      openingsFrom source tokens others verbatim place rest := by
  induction rest generalizing limits others place verbatim with
  | nil => rw [openingsFrom, openingsFrom]
  | cons token rest inductionHypothesis =>
    have further (verbatim : Nat) :
        openingsFrom source tokens limits verbatim (place + 1) rest =
          openingsFrom source tokens others verbatim (place + 1) rest :=
      inductionHypothesis (fun position ahead => same position (by omega)) verbatim
    have inside (close : Nat) :
        openingsFrom source tokens (close :: limits) 0 (place + 1) rest =
          openingsFrom source tokens (close :: others) 0 (place + 1) rest := by
      refine inductionHypothesis (fun position ahead => ?_) 0
      rw [List.find?_cons, List.find?_cons, same position (by omega)]
    rw [openingsFrom, openingsFrom, same place (Nat.le_refl _)]
    simp only [further, inside]

/-- The place of a token is the number of tokens in front of it. -/
theorem getElem?_tokensOf {all before rest : List Piece} {piece : Piece}
    (whole : all = before ++ piece :: rest) (token : piece.mark ≠ .comment) :
    (tokensOf all)[(tokensOf before).length]? = some piece := by
  simp [whole, token]

theorem length_tokensOf_append_cons {piece : Piece} (token : piece.mark ≠ .comment)
    (before rest : List Piece) :
    (tokensOf (before ++ piece :: rest)).length =
      (tokensOf before).length + 1 + (tokensOf rest).length := by
  rw [tokensOf_append, tokensOf_cons_of_ne token, List.length_append, List.length_cons]
  omega

/-- Among the tokens of a document, the closing tag of an element is found in front of the end of
the pieces around. -/
theorem closingPlace?_eq {piece : Piece} (token : piece.mark ≠ .comment) (tag : OpeningTag)
    (before rest after : List Piece) :
    closingPlace? (tokensOf (before ++ (piece :: rest ++ after))) (tokensOf before).length tag
        (tokensOf (before ++ piece :: rest)).length =
      (closeOf? tag rest).map fun index =>
        (tokensOf (before ++ piece :: rest.take index)).length := by
  unfold closingPlace? closeOf?
  split
  · rfl
  · have around : (tokensOf (before ++ (piece :: rest ++ after))).take
        (tokensOf (before ++ piece :: rest)).length = tokensOf (before ++ [piece] ++ rest) := by
      rw [← List.append_assoc, tokensOf_append _ after, List.take_left, List.append_assoc]
      rfl
    have place : (tokensOf before).length + 1 = (tokensOf (before ++ [piece])).length := by
      simp [token]
    rw [matchingClose?, around, place, tokensOf_append _ rest, List.drop_left, closeIndex?_tokensOf,
      Option.map_map]
    congr 1
    funext index
    rw [Function.comp_apply, ← place, length_tokensOf_append_cons token, Nat.add_comm]

/-- The raw content between the tokens of an element is the source of the pieces between them. -/
theorem rawContent_eq {opening closing : Piece} {before content after : List Piece}
    (laid : Laid source (before ++ opening :: (content ++ closing :: after)))
    (token : closing.mark ≠ .comment) :
    rawContent source (tokensOf (before ++ opening :: (content ++ closing :: after))) opening
      (tokensOf (before ++ opening :: content)).length = sourceOf content := by
  have split : before ++ opening :: (content ++ closing :: after) =
      (before ++ opening :: content) ++ closing :: after := by simp
  rw [rawContent, getElem?_tokensOf split token, Option.bind_some, laid.slice_between,
    Option.getD_some]

/-- At the places from `start` on, `stop` is where the innermost element around ends. -/
def EndsAround (limits : List Nat) (total start stop : Nat) : Prop :=
  ∀ place, start ≤ place → place < stop →
    (limits.find? fun limit => place < limit).getD total = stop

theorem EndsAround.later {limits : List Nat} {total start stop later : Nat}
    (around : EndsAround limits total start stop) (behind : start ≤ later) :
    EndsAround limits total later stop :=
  fun place after => around place (Nat.le_trans behind after)

/-- A closing tag ahead ends the element it belongs to. -/
theorem endsAround_cons (close : Nat) (limits : List Nat) (total start : Nat) :
    EndsAround (close :: limits) total start close := by
  intro place _ inside
  rw [List.find?_cons_of_pos (by simpa using inside), Option.getD_some]

/-- Behind its closing tag an element has no effect. -/
theorem openingsFrom_drop_limit (close : Nat) (limits : List Nat) (rest : List Piece) :
    openingsFrom source tokens (close :: limits) 0 close rest =
      openingsFrom source tokens limits 0 close rest := by
  apply openingsFrom_congr
  intro place behind
  rw [List.find?_cons_of_neg (by simpa using behind)]

/-- At the opening tag of an element that is closed, the reader meets the opening tags of the
element, and goes on at its closing tag with the limits of before. -/
theorem openingsFrom_element {all before content after : List Piece} {piece closing : Piece}
    {tag : OpeningTag} {limits : List Nat} (laid : Laid source all)
    (whole : all = before ++ piece :: (content ++ closing :: after))
    (marked : piece.mark = .opening tag) (closingToken : closing.mark ≠ .comment)
    (closes : closingPlace? (tokensOf all) (tokensOf before).length tag
      ((limits.find? fun limit => (tokensOf before).length < limit).getD (tokensOf all).length) =
        some (tokensOf (before ++ piece :: content)).length)
    (behind : List Piece)
    (inside : openingsFrom source (tokensOf all)
        ((tokensOf (before ++ piece :: content)).length :: limits) 0
        (tokensOf (before ++ [piece])).length (tokensOf content ++ behind) =
      openingsAll (elements content) ++
        openingsFrom source (tokensOf all)
          ((tokensOf (before ++ piece :: content)).length :: limits) 0
          (tokensOf (before ++ piece :: content)).length behind) :
    openingsFrom source (tokensOf all) limits 0 (tokensOf before).length
        (piece :: (tokensOf content ++ behind)) =
      (Element.mk tag piece.start (some content) (elements content)).openings ++
        openingsFrom source (tokensOf all) limits 0
          (tokensOf (before ++ piece :: content)).length behind := by
  have token : piece.mark ≠ .comment := by simp [marked]
  have close := length_tokensOf_append_cons token before content
  have start := length_tokensOf_append_cons token before []
  subst whole
  rw [openingsFrom_of_opening marked, closes, Element.openings]
  dsimp only
  rw [rawContent_eq laid closingToken, List.cons_append]
  refine congrArg _ ?_
  by_cases verbatim : isVerbatimContent tag (sourceOf content) = true
  · rw [if_pos verbatim, if_pos verbatim, openingsFrom_verbatim limits close.symm, List.nil_append]
  · rw [openingsFrom_drop_limit, start] at inside
    rw [if_neg verbatim, if_neg verbatim]
    exact inside

/-- In a stretch of pieces up to the end of the element around, the reader meets the opening tags of
the elements side by side in it. -/
theorem openingsFrom_segment {all : List Piece} (laid : Laid source all) (segment : List Piece) :
    ∀ (before after : List Piece) (limits : List Nat) (behind : List Piece),
      all = before ++ (segment ++ after) →
      EndsAround limits (tokensOf all).length (tokensOf before).length
        (tokensOf (before ++ segment)).length →
      openingsFrom source (tokensOf all) limits 0 (tokensOf before).length
          (tokensOf segment ++ behind) =
        openingsAll (elements segment) ++
          openingsFrom source (tokensOf all) limits 0 (tokensOf (before ++ segment)).length
            behind := by
  -- The induction follows the outline. `around` is what the reader needs to know of the elements
  -- outside the segment: the place where the innermost of them ends.
  fun_induction elements segment with
  | case1 =>
    intro before after limits behind whole around
    rw [List.append_nil, openingsAll]
    rfl
  | case2 piece rest tag marked index closed insideHypothesis behindHypothesis =>
    intro before after limits behind whole around
    have token : piece.mark ≠ .comment := by simp [marked]
    obtain ⟨content, closing, other, others, rfl, rfl, closingMark⟩ := exists_of_closeOf? closed
    have closingToken : closing.mark ≠ .comment := by simp [closingMark]
    have passed : ∀ tag, closing.mark ≠ .opening tag := by simp [closingMark]
    rw [List.take_left] at insideHypothesis
    rw [← List.drop_drop, List.drop_left, List.drop_one, List.tail_cons] at behindHypothesis
    rw [List.take_left, ← List.drop_drop, List.drop_left, List.drop_one, List.tail_cons]
    have limit := around (tokensOf before).length (Nat.le_refl _)
      (by rw [length_tokensOf_append_cons token]; omega)
    have closes : closingPlace? (tokensOf all) (tokensOf before).length tag
        (tokensOf (before ++ piece :: (content ++ closing :: others))).length =
          some (tokensOf (before ++ piece :: content)).length := by
      rw [whole, closingPlace?_eq token, closed, Option.map_some, List.take_left]
    -- Inside the element its own closing tag is the end around.
    have inside := insideHypothesis (before ++ [piece]) (closing :: others ++ after)
      ((tokensOf (before ++ piece :: content)).length :: limits)
      (closing :: (tokensOf others ++ behind)) (by simpa using whole)
      (by rw [← List.append_cons]; exact endsAround_cons _ _ _ _)
    rw [← List.append_cons] at inside
    have element := openingsFrom_element laid (by simpa using whole) marked closingToken
      (by rw [limit, closes]) _ inside
    -- The reader passes over the closing tag and meets the elements behind it.
    have split : before ++ piece :: (content ++ closing :: others) =
        (before ++ piece :: content ++ [closing]) ++ others := by simp
    have behindClose : (tokensOf (before ++ piece :: content ++ [closing])).length =
        (tokensOf (before ++ piece :: content)).length + 1 :=
      length_tokensOf_append_cons closingToken _ []
    have afterStart := length_tokensOf_append_cons token before content
    rw [openingsFrom_of_not_opening passed, ← behindClose,
      behindHypothesis _ after limits behind (by simpa using whole)
        (by rw [split] at around; exact around.later (by omega)), ← split] at element
    rw [openingsAll]
    simpa [token, closingToken] using element
  | case3 piece rest tag marked unclosed inductionHypothesis =>
    intro before after limits behind whole around
    have token : piece.mark ≠ .comment := by simp [marked]
    have place := length_tokensOf_append_cons token before []
    have limit := around (tokensOf before).length (Nat.le_refl _)
      (by rw [length_tokensOf_append_cons token]; omega)
    -- Without a closing tag there is no content, and both go on right behind the opening tag.
    have unclosed : closingPlace? (tokensOf all) (tokensOf before).length tag
        (tokensOf (before ++ piece :: rest)).length = none := by
      rw [whole, closingPlace?_eq token, unclosed, Option.map_none]
    rw [tokensOf_cons_of_ne token, List.cons_append, openingsFrom_of_opening marked, limit,
      unclosed, openingsAll, Element.openings]
    rw [List.append_cons] at around ⊢
    have behindHypothesis := inductionHypothesis (before ++ [piece]) after limits behind
      (by rw [whole, List.cons_append, List.append_cons])
    rw [place] at behindHypothesis
    exact congrArg _ (behindHypothesis (around.later (Nat.le_succ _)))
  | case4 piece rest unmarked inductionHypothesis =>
    intro before after limits behind whole around
    rw [List.append_cons] at around ⊢
    have inside := inductionHypothesis (before ++ [piece]) after limits behind
      (by rw [whole, List.cons_append, List.append_cons])
    -- A comment has no place among the tokens, so that the reader does not move.
    by_cases comment : piece.mark = .comment
    · have place : tokensOf (before ++ [piece]) = tokensOf before := by simp [comment]
      rw [place] at inside
      rw [tokensOf_cons_of_comment comment]
      exact inside around
    · have place := length_tokensOf_append_cons comment before []
      rw [place] at inside
      rw [tokensOf_cons_of_ne comment, List.cons_append, openingsFrom_of_not_opening unmarked]
      exact inside (around.later (Nat.le_succ _))

/-- From the root on the reader meets the opening tags of the root element. -/
theorem documentOpenings_eq {all before rest : List Piece} {root : Piece} {tag : OpeningTag}
    {element : Element} (laid : Laid source all) (whole : all = before ++ root :: rest)
    (marked : root.mark = .opening tag) (first : (elements (root :: rest)).head? = some element) :
    documentOpenings source (tokensOf all) (tokensOf before).length tag = element.openings := by
  have token : root.mark ≠ .comment := by simp [marked]
  have closing : closingPlace? (tokensOf all) (tokensOf before).length tag (tokensOf all).length =
      (closeOf? tag rest).map fun index =>
        (tokensOf (before ++ root :: rest.take index)).length := by
    have found := closingPlace?_eq token tag before rest []
    rw [List.append_nil] at found
    rw [whole, found]
  have tokens : tokensOf all = tokensOf before ++ root :: tokensOf rest := by
    simp [whole, token]
  unfold documentOpenings
  dsimp only
  cases closed : closeOf? tag rest with
  | none =>
    rw [closed, Option.map_none] at closing
    rw [elements, marked] at first
    simp only [closed, List.head?_cons, Option.some.injEq] at first
    rw [closing, Option.getD_none, tokens, List.take_length_add_append, List.drop_left, ← tokens,
      List.take_succ_cons, List.take_zero, openingsFrom_of_opening marked, List.find?_nil,
      Option.getD_none, closing, ← first, Element.openings]
    simp only [openingsFrom]
  | some index =>
    obtain ⟨content, closingTag, other, others, rfl, rfl, closingMark⟩ := exists_of_closeOf? closed
    have closingToken : closingTag.mark ≠ .comment := by simp [closingMark]
    rw [closed, Option.map_some, List.take_left] at closing
    rw [elements, marked] at first
    simp only [closed, List.head?_cons, Option.some.injEq, List.take_left] at first
    have region : ((tokensOf all).take (tokensOf (before ++ root :: content)).length).drop
        (tokensOf before).length = root :: (tokensOf content ++ []) := by
      have split : all = (before ++ root :: content) ++ closingTag :: others := by
        simpa using whole
      rw [split, tokensOf_append _ (closingTag :: others), List.take_left, tokensOf_append,
        List.drop_left, tokensOf_cons_of_ne token, List.append_nil]
    have inside := openingsFrom_segment laid content (before ++ [root]) (closingTag :: others)
      [(tokensOf (before ++ root :: content)).length] [] (by simpa using whole)
      (by rw [← List.append_cons]; exact endsAround_cons _ _ _ _)
    rw [← List.append_cons] at inside
    rw [closing, Option.getD_some, region,
      openingsFrom_element laid whole marked closingToken (by rw [List.find?_nil]; exact closing) []
        inside, openingsFrom, List.append_nil, first]

end Reading

/-! ### Kinds and errors of opening tags -/

/-- Opening tags that are all known stand for their kinds. -/
theorem mapM_checkedKind_of_known {openings : List Opening}
    (known : ∀ opening ∈ openings, (tagKind? opening.tag).isSome = true) :
    ∃ kinds, openings.mapM Opening.checkedKind = .ok kinds ∧
      kinds.map some = openings.map fun opening => tagKind? opening.tag := by
  induction openings with
  | nil => exact ⟨[], rfl, rfl⟩
  | cons opening rest inductionHypothesis =>
    obtain ⟨kinds, checked, same⟩ :=
      inductionHypothesis fun other member => known other (List.mem_cons_of_mem _ member)
    obtain ⟨kind, written⟩ := Option.isSome_iff_exists.mp (known opening (List.mem_cons_self ..))
    refine ⟨kind :: kinds, ?_, ?_⟩
    · rw [List.mapM_cons, Opening.checkedKind, written, checked]
      rfl
    · rw [List.map_cons, List.map_cons, written, same]

/-- Of opening tags the first that is unknown is the error. -/
theorem mapM_checkedKind_of_unknown {known : List Opening} {opening : Opening}
    (earlier : ∀ other ∈ known, (tagKind? other.tag).isSome = true)
    (unknown : tagKind? opening.tag = none) (later : List Opening) :
    (known ++ opening :: later).mapM Opening.checkedKind =
      .error (.unknownTag opening.tag.name opening.offset) := by
  obtain ⟨kinds, checked, _⟩ := mapM_checkedKind_of_known earlier
  rw [List.mapM_append, checked, List.mapM_cons, Opening.checkedKind, unknown]
  rfl

/-! ### Documents -/

/-- Blank texts and comments are passed over in front of the first other piece. -/
theorem dropWhile_blanks {before : List Piece} {root : Piece}
    (blank : ∀ token ∈ tokensOf before, token.isBlankText = true) (token : root.mark ≠ .comment)
    (visible : root.isBlankText = false) (rest : List Piece) :
    ((before ++ root :: rest).dropWhile fun piece => piece.mark == .comment || piece.isBlankText) =
      root :: rest := by
  have passed : ∀ piece ∈ before, (piece.mark == .comment || piece.isBlankText) = true := by
    intro piece member
    rw [Bool.or_eq_true, beq_iff_eq]
    by_cases comment : piece.mark = .comment
    · exact .inl comment
    · exact .inr (blank piece (List.mem_filter.mpr ⟨member, by simpa using comment⟩))
  rw [List.dropWhile_append_of_pos passed]
  exact List.dropWhile_cons_of_neg (by simp [token, visible])

/-- The root element begins at the first token that is not a blank text. -/
theorem exists_of_tokensOf {all blanks behind : List Piece} {root : Piece} {tag : OpeningTag}
    (tokens : tokensOf all = blanks ++ root :: behind)
    (blank : ∀ token ∈ blanks, token.isBlankText = true) (marked : root.mark = .opening tag) :
    ∃ before rest, all = before ++ root :: rest ∧ tokensOf before = blanks ∧
      rootElement? all = (elements (root :: rest)).head? := by
  obtain ⟨before, rest, rfl, rfl, -⟩ := exists_of_tokensOf_eq tokens
  refine ⟨before, rest, rfl, rfl, ?_⟩
  rw [rootElement?, dropWhile_blanks blank (by simp [marked]) (by simp [Piece.isBlankText, marked])]
  dsimp only
  rw [marked]

/-- Without factories, the outcome of a document is told by its opening tags. -/
theorem outcome_parseTree {source : String} {blanks behind : List Piece} {root : Piece}
    {tag : OpeningTag} (tokenized : tokenize source = .ok (blanks ++ root :: behind))
    (blank : ∀ token ∈ blanks, token.isBlankText = true) (marked : root.mark = .opening tag)
    (ledger : IdLedger) :
    ((parseTree .empty source).outcome ledger).1.map NodeTree.kinds =
      (documentOpenings source.toList (blanks ++ root :: behind) blanks.length tag).mapM
        Opening.checkedKind := by
  obtain ⟨accepted, tokens⟩ := exists_of_tokenize tokenized
  obtain ⟨before, rest, whole, rfl, rooted⟩ := exists_of_tokensOf tokens.symm blank marked
  have found : ∃ element, (elements (root :: rest)).head? = some element := by
    rw [elements, marked]
    dsimp only
    split
    · exact ⟨_, rfl⟩
    · exact ⟨_, rfl⟩
  obtain ⟨element, first⟩ := found
  rw [parseTree, accepted]
  dsimp only
  rw [rooted, first, tokens,
    documentOpenings_eq (laid_pieces .strict source.toList) whole marked first]
  exact outcome_buildElement element ledger

/-- Recovery loses no opening tag: without factories, a document whose opening tags are all known
has one node for each of them, in their order, and any other document fails at the first unknown
one. -/
theorem recovery_keeps_opening_tags {source : String} {blanks behind : List Piece} {root : Piece}
    {tag : OpeningTag} (tokenized : tokenize source = .ok (blanks ++ root :: behind))
    (blank : ∀ token ∈ blanks, token.isBlankText = true) (marked : root.mark = .opening tag)
    (ledger : IdLedger) :
    let openings := documentOpenings source.toList (blanks ++ root :: behind) blanks.length tag
    ((∀ opening ∈ openings, (tagKind? opening.tag).isSome = true) →
      ∃ tree, ((parseTree .empty source).outcome ledger).1 = .ok tree ∧
        tree.kinds.map some = openings.map fun opening => tagKind? opening.tag) ∧
    ∀ known opening later, openings = known ++ opening :: later →
      (∀ other ∈ known, (tagKind? other.tag).isSome = true) → tagKind? opening.tag = none →
        ((parseTree .empty source).outcome ledger).1 =
          .error (.unknownTag opening.tag.name opening.offset) := by
  intro openings
  have outcome := outcome_parseTree tokenized blank marked ledger
  constructor
  · intro known
    obtain ⟨kinds, checked, same⟩ := mapM_checkedKind_of_known known
    rw [checked] at outcome
    cases built : ((parseTree .empty source).outcome ledger).1 with
    | error cause =>
      rw [built] at outcome
      cases outcome
    | ok tree =>
      rw [built] at outcome
      cases outcome
      exact ⟨tree, rfl, same⟩
  · intro known opening later split earlier unknown
    change openings = _ at split
    have failed := mapM_checkedKind_of_unknown earlier unknown later
    rw [← split] at failed
    rw [failed] at outcome
    cases built : ((parseTree .empty source).outcome ledger).1 with
    | error cause =>
      rw [built] at outcome
      cases outcome
      rfl
    | ok tree =>
      rw [built] at outcome
      cases outcome

/-- A crossed element beside a verbatim text with an unknown tag in it, and the same unknown tag
outside of such a text. -/
theorem recovery_keeps_opening_tags_of_crossed :
    (∃ tree, ((parseTree .empty " <View><Text>a<Foo></Text><Box></View></Box>").outcome .empty).1 =
        .ok tree ∧ tree.kinds.map some = [some .container, some .text, some .rectangle]) ∧
      ((parseTree .empty "<View><Box></Text><Foo/></View>").outcome .empty).1 =
        .error (.unknownTag "Foo" 18) := by
  constructor
  · have tokenized : tokenize " <View><Text>a<Foo></Text><Box></View></Box>" =
        .ok ([⟨.text, [' '], 0⟩] ++ ⟨.opening ⟨"View", [], false⟩, "<View>".toList, 1⟩ ::
          [⟨.opening ⟨"Text", [], false⟩, "<Text>".toList, 7⟩, ⟨.text, ['a'], 13⟩,
            ⟨.opening ⟨"Foo", [], false⟩, "<Foo>".toList, 14⟩,
            ⟨.closing "Text", "</Text>".toList, 19⟩,
            ⟨.opening ⟨"Box", [], false⟩, "<Box>".toList, 26⟩,
            ⟨.closing "View", "</View>".toList, 31⟩, ⟨.closing "Box", "</Box>".toList, 38⟩]) := by
      decide +kernel
    obtain ⟨tree, built, kinds⟩ :=
      (recovery_keeps_opening_tags tokenized (by decide) rfl .empty).1 (by decide +kernel)
    exact ⟨tree, built, kinds.trans (by decide +kernel)⟩
  · have tokenized : tokenize "<View><Box></Text><Foo/></View>" =
        .ok ([] ++ ⟨.opening ⟨"View", [], false⟩, "<View>".toList, 0⟩ ::
          [⟨.opening ⟨"Box", [], false⟩, "<Box>".toList, 6⟩,
            ⟨.closing "Text", "</Text>".toList, 11⟩,
            ⟨.opening ⟨"Foo", [], true⟩, "<Foo/>".toList, 18⟩,
            ⟨.closing "View", "</View>".toList, 24⟩]) := by
      decide +kernel
    exact (recovery_keeps_opening_tags tokenized (by decide) rfl .empty).2
      [⟨⟨"View", [], false⟩, 0⟩, ⟨⟨"Box", [], false⟩, 6⟩] ⟨⟨"Foo", [], true⟩, 18⟩ []
      (by decide +kernel) (by decide +kernel) (by decide +kernel)

end SceneMarkup.Markup
