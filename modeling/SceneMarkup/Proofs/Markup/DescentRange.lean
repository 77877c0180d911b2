import Mathlib.Data.List.TakeWhile
import SceneMarkup.Proofs.Markup.Descent
import SceneMarkup.Proofs.Markup.Partition

/-!
Contract: a descent over the tokens of a document always advances inside its range.

Owns:
- `StaysInRange`, what holds of the descent from every opening tag and through every range of
  tokens;
- the descent through a stretch of pieces, which builds the elements side by side in it;
- the causes for which a document is refused;
- the theorem that the tree of a document is the one of its descent, which nothing breaks.

Does not own: which nodes tags make.
-/

namespace SceneMarkup.Markup

open SceneMarkup.Text

/-! ### Statement -/

/-- An opening tag stands at an index. -/
def OpeningAt (tokens : List Piece) (index : Nat) : Prop :=
  ∃ token tag, tokens[index]? = some token ∧ token.mark = .opening tag

/-- Events of a descent through the tokens from index `first` on before `limit`. An element that is
read begins with an opening tag there and has no larger limit; a part that is cut out lies between
characters of the source. -/
def Event.Within (source : String) (tokens : List Piece) (first limit : Nat) : Event → Prop
  | .element start inner => first ≤ start ∧ start < inner ∧ inner ≤ limit ∧ OpeningAt tokens start
  | .cut span => span.start ≤ span.stop ∧ (⟨span.start⟩ : String.Pos.Raw).IsValid source ∧
    (⟨span.stop⟩ : String.Pos.Raw).IsValid source

/-- From every state a descent comes to an end: it gives a good value or refuses the document, and
it notes only fine events. -/
def Completes {α : Type} (fine : Event → Prop) (good : α → Prop) (descent : DescentM α) : Prop :=
  ∀ state, ∃ noted, (descent.outcome state).2.events = state.events ++ noted ∧
    (∀ event ∈ noted, fine event) ∧
    ((∃ value, (descent.outcome state).1 = .ok value ∧ good value) ∨
      ∃ cause, (descent.outcome state).1 = .error (.refused cause))

/-- The indices of the tokens that a step takes. -/
def Visit.indices (visit : Visit) : List Nat := List.range' visit.first (visit.next - visit.first)

/-- Steps that take every token of a range exactly once, in order: each step a single token that
opens nothing, or the tokens of one element, read within the range. -/
structure Covers (registry : ComponentRegistry) (source : List Char) (tokens : List Piece)
    (first limit : Nat) (visits : List Visit) : Prop where
  once : visits.flatMap Visit.indices = List.range' first (limit - first)
  alone : ∀ visit ∈ visits, visit.child = none →
    visit.next = visit.first + 1 ∧ ¬ OpeningAt tokens visit.first
  through : ∀ visit ∈ visits, ∀ child, visit.child = some child →
    OpeningAt tokens visit.first ∧ visit.first < visit.next ∧ visit.next ≤ limit ∧
      ∃ rounds before after,
        (elementAt registry source tokens (childrenAt registry source tokens rounds) visit.first
          limit).outcome before = (.ok (child, visit.next), after)

/-- A descent that ends and stays in the range it is given, with no more rounds than the range has
tokens: from every opening tag it goes to a later index within the limit, and through every range
it takes each token once. -/
structure StaysInRange (registry : ComponentRegistry) (source : String) (tokens : List Piece) :
    Prop where
  element : ∀ rounds start limit, start < limit → limit ≤ tokens.length → OpeningAt tokens start →
    limit - start ≤ rounds →
      Completes (Event.Within source tokens (start + 1) limit)
        (fun read => start < read.2 ∧ read.2 ≤ limit)
        (elementAt registry source.toList tokens (childrenAt registry source.toList tokens rounds)
          start limit)
  children : ∀ rounds first limit, first ≤ limit → limit ≤ tokens.length →
    limit - first < rounds →
      Completes (Event.Within source tokens first limit)
        (Covers registry source.toList tokens first limit)
        (childrenAt registry source.toList tokens rounds first limit)

/-! ### Events and steps -/

theorem within_cut {source : String} {part : List Char} {span : Span}
    (sliced : slice? source.toList span = some part) (tokens : List Piece) (first limit : Nat) :
    (Event.cut span).Within source tokens first limit := by
  have valid := isValid_of_slice? sliced
  rw [String.ofList_toList] at valid
  obtain ⟨before, behind, -, rfl⟩ := slice?_eq_some_iff.mp sliced
  exact ⟨Nat.le_add_right _ _, valid⟩

theorem Event.Within.mono {source : String} {tokens : List Piece} {first limit earlier later : Nat}
    {event : Event} (within : event.Within source tokens first limit) (before : earlier ≤ first)
    (behind : limit ≤ later) : event.Within source tokens earlier later := by
  cases event with
  | element start inner =>
    obtain ⟨here, forward, inside, opening⟩ := within
    exact ⟨before.trans here, forward, inside.trans behind, opening⟩
  | cut span => exact within

theorem Follows.completes {α β : Type} {fine : Event → Prop} {view : α → β} {good : α → Prop}
    {descent : DescentM α} {building : BuildM β}
    (follows : Follows fine view good descent building) : Completes fine good descent := by
  intro state
  obtain ⟨noted, allowed, ends, left⟩ := follows state.ledger state.events
  refine ⟨noted, congrArg DescentState.events left, allowed, ?_⟩
  change EndsAs view good (descent.outcome state).1 _ at ends
  generalize (descent.outcome state).1 = result, (building.outcome state.ledger).1 = other at ends
  cases ends with
  | given holds => exact .inl ⟨_, rfl, holds⟩
  | refused cause => exact .inr ⟨cause, rfl⟩

section Steps

variable {registry : ComponentRegistry} {source : List Char} {tokens : List Piece}
  {first limit : Nat}

theorem covers_nil : Covers registry source tokens first first [] where
  once := by rw [Nat.sub_self]; rfl
  alone _ member := absurd member List.not_mem_nil
  through _ member := absurd member List.not_mem_nil

/-- A step in front of those that take the tokens behind it. -/
theorem Covers.cons (visit : Visit) {visits : List Visit}
    (others : Covers registry source tokens visit.next limit visits)
    (forward : visit.first < visit.next) (inside : visit.next ≤ limit)
    (alone : visit.child = none → visit.next = visit.first + 1 ∧ ¬ OpeningAt tokens visit.first)
    (through : ∀ child, visit.child = some child → OpeningAt tokens visit.first ∧
      ∃ rounds before after,
        (elementAt registry source tokens (childrenAt registry source tokens rounds) visit.first
          limit).outcome before = (.ok (child, visit.next), after)) :
    Covers registry source tokens visit.first limit (visit :: visits) where
  once := by
    have split : limit - visit.first = (visit.next - visit.first) + (limit - visit.next) := by
      omega
    have start : visit.first + (visit.next - visit.first) = visit.next := by omega
    rw [List.flatMap_cons, others.once, split, ← List.range'_append_1, start]
    rfl
  alone := List.forall_mem_cons.mpr ⟨alone, others.alone⟩
  through := by
    refine List.forall_mem_cons.mpr ⟨fun child given => ?_, others.through⟩
    obtain ⟨opening, read⟩ := through child given
    exact ⟨opening, forward, inside, read⟩

end Steps

/-! ### Stretches of pieces -/

section Stretches

variable {registry : ComponentRegistry} {source : String} {all : List Piece} {first limit : Nat}

/-- The source at the span of a piece is that of the piece. -/
theorem Laid.slice_piece {source : List Char} {before behind : List Piece} {piece : Piece}
    (laid : Laid source all) (whole : all = before ++ piece :: behind) :
    slice? source piece.span = some piece.source := by
  have sliced : slice? source ⟨_, _⟩ = some (sourceOf [piece]) := laid.slice_pieces whole
  rw [← laid.placed before piece behind whole, ← laid.stop_eq whole, sourceOf_cons, sourceOf_nil,
    List.append_nil] at sliced
  exact sliced

/-- The content of an element is cut out between its tags, and it is text, or elements. -/
theorem follows_contentTree {before content after : List Piece} {opening closing : Piece}
    (laid : Laid source.toList all)
    (whole : all = before ++ opening :: (content ++ closing :: after))
    (closingToken : closing.mark ≠ .comment) {inside : RangeReader} {start : Nat}
    (follows : Follows (Event.Within source (tokensOf all) first limit)
      (List.filterMap Visit.child) (fun _ => True)
      (inside (start + 1) (tokensOf (before ++ opening :: content)).length)
      (buildElements registry (elements content))) (tree : NodeTree) :
    Follows (Event.Within source (tokensOf all) first limit) id (fun _ => True)
      (contentTree source.toList (tokensOf all) inside tree start
        (tokensOf (before ++ opening :: content)).length opening)
      (if isVerbatim tree.node.kind (contentText content) then
        return withVerbatimText tree (contentText content)
      else
        return .mk tree.node (tree.children ++ (← buildElements registry (elements content)))) := by
  have present : (tokensOf all)[(tokensOf (before ++ opening :: content)).length]? =
      some closing := by
    have split : all = (before ++ opening :: content) ++ closing :: after := by
      rw [whole, List.append_assoc, List.cons_append]
    exact getElem?_tokensOf split closingToken
  have sliced : slice? source.toList ⟨opening.span.stop, closing.span.start⟩ =
      some (sourceOf content) := by
    subst whole
    exact laid.slice_between
  unfold contentTree
  refine (follows_tokenAt present).silently ?_
  rintro _ rfl
  refine (follows_cut sliced (within_cut sliced _ _ _)).silently ?_
  rintro _ rfl
  show Follows _ _ _ (if isVerbatim tree.node.kind (contentText content) then _ else _) _
  split
  · exact follows_pure id trivial
  · refine follows.bind fun visits _ => ?_
    exact follows_pure id trivial

variable {before rest after : List Piece} {opening : Piece} {tag : OpeningTag}
  {inside : RangeReader}

/-- An element without a closing tag ends behind its opening tag. -/
theorem follows_elementAt_of_unclosed (whole : all = before ++ (opening :: rest ++ after))
    (marked : opening.mark = .opening tag) (unclosed : closeOf? tag rest = none) :
    Follows (Event.Within source (tokensOf all) first limit) Prod.fst
      (fun read => read.2 = (tokensOf before).length + 1)
      (elementAt registry source.toList (tokensOf all) inside (tokensOf before).length
        (tokensOf (before ++ opening :: rest)).length)
      (buildElement registry (.mk tag opening.start none [])) := by
  have token : opening.mark ≠ .comment := by simp [marked]
  have present : (tokensOf all)[(tokensOf before).length]? = some opening :=
    getElem?_tokensOf whole token
  have closes : closingPlace? (tokensOf all) (tokensOf before).length tag
      (tokensOf (before ++ opening :: rest)).length = none := by
    rw [whole, closingPlace?_eq token, unclosed, Option.map_none]
  rw [buildElement]
  unfold elementAt
  refine (follows_tokenAt present).silently ?_
  rintro _ rfl
  rw [marked]
  refine (follows_ofBuild _).bind fun tree _ => ?_
  rw [closes]
  exact follows_pure Prod.fst rfl

/-- An element with a closing tag ends behind that tag. -/
theorem follows_elementAt_of_closed {content others : List Piece} {closing : Piece}
    (laid : Laid source.toList all)
    (whole : all = before ++ (opening :: (content ++ closing :: others) ++ after))
    (marked : opening.mark = .opening tag) (closingToken : closing.mark ≠ .comment)
    (closed : closeOf? tag (content ++ closing :: others) = some content.length)
    (follows : Follows (Event.Within source (tokensOf all) first limit)
      (List.filterMap Visit.child) (fun _ => True)
      (inside ((tokensOf before).length + 1) (tokensOf (before ++ opening :: content)).length)
      (buildElements registry (elements content))) :
    Follows (Event.Within source (tokensOf all) first limit) Prod.fst
      (fun read => read.2 = (tokensOf (before ++ opening :: content)).length + 1)
      (elementAt registry source.toList (tokensOf all) inside (tokensOf before).length
        (tokensOf (before ++ opening :: (content ++ closing :: others))).length)
      (buildElement registry (.mk tag opening.start (some content) (elements content))) := by
  have token : opening.mark ≠ .comment := by simp [marked]
  have present : (tokensOf all)[(tokensOf before).length]? = some opening :=
    getElem?_tokensOf whole token
  have closes : closingPlace? (tokensOf all) (tokensOf before).length tag
      (tokensOf (before ++ opening :: (content ++ closing :: others))).length =
        some (tokensOf (before ++ opening :: content)).length := by
    rw [whole, closingPlace?_eq token, closed, Option.map_some, List.take_left]
  rw [buildElement]
  unfold elementAt
  refine (follows_tokenAt present).silently ?_
  rintro _ rfl
  rw [marked]
  refine (follows_ofBuild _).bind fun tree _ => ?_
  rw [closes]
  exact (follows_contentTree laid (by simpa using whole) closingToken follows tree).returning
    (fun _ => rfl) fun _ _ => rfl

end Stretches

/-! ### Rounds of the loop -/

section Rounds

variable {registry : ComponentRegistry} {source : String} {tokens : List Piece} {piece : Piece}
  {tag : OpeningTag} {rounds first next limit : Nat}

/-- Whether a token is a text of blanks is looked up in the source. -/
theorem follows_isBlankAt (sliced : slice? source.toList piece.span = some piece.source) :
    Follows (Event.Within source tokens first limit) (fun _ => ()) (· = piece.isBlankText)
      (isBlankAt source.toList piece) (pure ()) := by
  unfold isBlankAt
  by_cases text : piece.mark = .text
  · rw [if_pos text]
    refine (follows_cut sliced (within_cut sliced _ _ _)).silently ?_
    rintro _ rfl
    exact follows_pure (fun _ => ()) (by simp [Piece.isBlankText, text])
  · rw [if_neg text]
    exact follows_pure (fun _ => ()) (by simp [Piece.isBlankText, text])

theorem follows_childrenAt_of_end :
    Follows (Event.Within source tokens first first) (List.filterMap Visit.child)
      (Covers registry source.toList tokens first first)
      (childrenAt registry source.toList tokens (rounds + 1) first first) (return []) := by
  rw [childrenAt, if_neg (Nat.lt_irrefl first)]
  exact follows_pure (List.filterMap Visit.child) covers_nil

/-- At an opening tag the loop reads an element and goes on behind it. -/
theorem follows_childrenAt_of_opening {building : BuildM NodeTree}
    {buildingOthers : BuildM (List NodeTree)} (present : tokens[first]? = some piece)
    (marked : piece.mark = .opening tag) (forward : first < next) (inside : next ≤ limit)
    (child : Follows (Event.Within source tokens (first + 1) limit) Prod.fst
      (fun read => read.2 = next)
      (elementAt registry source.toList tokens (childrenAt registry source.toList tokens rounds)
        first limit) building)
    (others : Follows (Event.Within source tokens next limit) (List.filterMap Visit.child)
      (Covers registry source.toList tokens next limit)
      (childrenAt registry source.toList tokens rounds next limit) buildingOthers) :
    Follows (Event.Within source tokens first limit) (List.filterMap Visit.child)
      (Covers registry source.toList tokens first limit)
      (childrenAt registry source.toList tokens (rounds + 1) first limit)
      (do return (← building) :: (← buildingOthers)) := by
  have opening : OpeningAt tokens first := ⟨piece, tag, present, marked⟩
  rw [childrenAt, if_pos (forward.trans_le inside)]
  refine (follows_tokenAt present).silently ?_
  rintro _ rfl
  rw [marked]
  have within : (Event.element first limit).Within source tokens first limit :=
    ⟨Nat.le_refl _, forward.trans_le inside, Nat.le_refl _, opening⟩
  refine (follows_note within).silently fun _ _ => ?_
  refine ((child.mono (fun _ within => within.mono (Nat.le_succ _) (Nat.le_refl _))
    fun _ same => same).attained).bind ?_
  rintro ⟨tree, behind⟩ ⟨same, read⟩
  dsimp only at same
  subst same
  refine (others.mono (fun _ within => within.mono forward.le (Nat.le_refl _))
    fun _ covers => covers).bind fun visits covers => ?_
  refine follows_pure (List.filterMap Visit.child)
    (covers.cons ⟨first, _, some tree⟩ forward inside (fun absent => nomatch absent) ?_)
  rintro _ ⟨⟩
  exact ⟨opening, rounds, read⟩

/-- The loop passes over any other token. The text of a text token is there to be looked at. -/
theorem follows_childrenAt_of_other {building : BuildM (List NodeTree)}
    (present : tokens[first]? = some piece) (unmarked : ∀ tag, piece.mark ≠ .opening tag)
    (sliced : slice? source.toList piece.span = some piece.source) (below : first < limit)
    (others : Follows (Event.Within source tokens (first + 1) limit) (List.filterMap Visit.child)
      (Covers registry source.toList tokens (first + 1) limit)
      (childrenAt registry source.toList tokens rounds (first + 1) limit) building) :
    Follows (Event.Within source tokens first limit) (List.filterMap Visit.child)
      (Covers registry source.toList tokens first limit)
      (childrenAt registry source.toList tokens (rounds + 1) first limit) building := by
  have apart : ¬ OpeningAt tokens first := by
    rintro ⟨other, tag, here, marked⟩
    rw [present, Option.some.injEq] at here
    subst here
    exact unmarked tag marked
  rw [childrenAt, if_pos below]
  refine (follows_tokenAt present).silently ?_
  rintro _ rfl
  split
  · rename_i tag marked
    exact absurd marked (unmarked tag)
  · refine (follows_isBlankAt sliced).silently fun _ _ => ?_
    refine (others.mono (fun _ within => within.mono (Nat.le_succ _) (Nat.le_refl _))
      fun _ covers => covers).returning (fun _ => rfl) fun visits covers => ?_
    exact covers.cons ⟨first, first + 1, none⟩ (Nat.lt_succ_self _) below
      (fun _ => ⟨rfl, apart⟩) fun _ absent => nomatch absent

end Rounds

/-! ### Ranges of tokens -/

section Ranges

variable {registry : ComponentRegistry} {source : String} {all : List Piece}

/-- Through a stretch of pieces the loop builds the elements side by side in it. -/
theorem follows_childrenAt (registry : ComponentRegistry) (laid : Laid source.toList all)
    (segment : List Piece) :
    ∀ (before after : List Piece) (rounds : Nat), all = before ++ (segment ++ after) →
      (tokensOf segment).length < rounds →
      Follows
        (Event.Within source (tokensOf all) (tokensOf before).length
          (tokensOf (before ++ segment)).length)
        (List.filterMap Visit.child)
        (Covers registry source.toList (tokensOf all) (tokensOf before).length
          (tokensOf (before ++ segment)).length)
        (childrenAt registry source.toList (tokensOf all) rounds (tokensOf before).length
          (tokensOf (before ++ segment)).length)
        (buildElements registry (elements segment)) := by
  -- The induction follows the outline. Every token takes a round, and a comment takes none.
  fun_induction elements segment with
  | case1 =>
    intro before after rounds whole enough
    obtain ⟨rounds, rfl⟩ := Nat.exists_eq_add_one_of_ne_zero (Nat.ne_zero_of_lt enough)
    rw [List.append_nil, buildElements]
    exact follows_childrenAt_of_end
  | case2 piece rest tag marked index closed insideHypothesis behindHypothesis =>
    intro before after rounds whole enough
    have token : piece.mark ≠ .comment := by simp [marked]
    obtain ⟨rounds, rfl⟩ := Nat.exists_eq_add_one_of_ne_zero (Nat.ne_zero_of_lt enough)
    have present : (tokensOf all)[(tokensOf before).length]? = some piece :=
      getElem?_tokensOf whole token
    obtain ⟨content, closing, other, others, rfl, rfl, closingMark⟩ := exists_of_closeOf? closed
    have closingToken : closing.mark ≠ .comment := by simp [closingMark]
    rw [List.take_left] at insideHypothesis
    rw [← List.drop_drop, List.drop_left, List.drop_one, List.tail_cons] at behindHypothesis
    rw [List.take_left, ← List.drop_drop, List.drop_left, List.drop_one, List.tail_cons]
    -- Where the parts of the element stand among the tokens.
    have start := length_tokensOf_append_cons token before []
    have close := length_tokensOf_append_cons token before content
    have behind : (tokensOf (before ++ piece :: content ++ [closing])).length =
        (tokensOf (before ++ piece :: content)).length + 1 :=
      length_tokensOf_append_cons closingToken _ []
    have split : before ++ piece :: (content ++ closing :: others) =
        (before ++ piece :: content ++ [closing]) ++ others := by simp
    have stop : (tokensOf (before ++ piece :: (content ++ closing :: others))).length =
        (tokensOf (before ++ piece :: content)).length + 1 + (tokensOf others).length := by
      rw [split, tokensOf_append, List.length_append, behind]
    have fewer : (tokensOf content).length + ((tokensOf others).length + 1) < rounds := by
      simpa [token, closingToken] using enough
    have inside := insideHypothesis (before ++ [piece]) (closing :: others ++ after) rounds
      (by simpa using whole) (by omega)
    have further := behindHypothesis (before ++ piece :: content ++ [closing]) after rounds
      (by simpa using whole) (by omega)
    rw [← List.append_cons, start] at inside
    rw [behind, ← split] at further
    rw [buildElements]
    refine follows_childrenAt_of_opening present marked (by omega) (by omega)
      (follows_elementAt_of_closed laid whole marked closingToken closed ?_) further
    exact inside.mono (fun _ within => within.mono (Nat.le_refl _) (by omega)) fun _ _ => trivial
  | case3 piece rest tag marked unclosed behindHypothesis =>
    intro before after rounds whole enough
    have token : piece.mark ≠ .comment := by simp [marked]
    obtain ⟨rounds, rfl⟩ := Nat.exists_eq_add_one_of_ne_zero (Nat.ne_zero_of_lt enough)
    have present : (tokensOf all)[(tokensOf before).length]? = some piece :=
      getElem?_tokensOf whole token
    have start := length_tokensOf_append_cons token before []
    have stop := length_tokensOf_append_cons token before rest
    have further := behindHypothesis (before ++ [piece]) after rounds (by simpa using whole)
      (by simpa [token] using enough)
    rw [← List.append_cons, start] at further
    rw [buildElements]
    exact follows_childrenAt_of_opening present marked (by omega) (by omega)
      (follows_elementAt_of_unclosed whole marked unclosed) further
  | case4 piece rest unmarked behindHypothesis =>
    intro before after rounds whole enough
    by_cases comment : piece.mark = .comment
    · -- A comment has no place among the tokens, so that the loop does not move.
      have place : tokensOf (before ++ [piece]) = tokensOf before := by simp [comment]
      have further := behindHypothesis (before ++ [piece]) after rounds (by simpa using whole)
        (by simpa [comment] using enough)
      rwa [← List.append_cons, place] at further
    · obtain ⟨rounds, rfl⟩ := Nat.exists_eq_add_one_of_ne_zero (Nat.ne_zero_of_lt enough)
      have present : (tokensOf all)[(tokensOf before).length]? = some piece :=
        getElem?_tokensOf whole comment
      have start := length_tokensOf_append_cons comment before []
      have stop := length_tokensOf_append_cons comment before rest
      have further := behindHypothesis (before ++ [piece]) after rounds (by simpa using whole)
        (by simpa [comment] using enough)
      rw [← List.append_cons, start] at further
      exact follows_childrenAt_of_other present unmarked (laid.slice_piece (by simpa using whole))
        (by omega) further

/-- The element at an opening tag is the first of the elements from there on. -/
theorem follows_elementAt (registry : ComponentRegistry) (laid : Laid source.toList all)
    {before rest : List Piece} (after : List Piece) {opening : Piece} {tag : OpeningTag}
    {rounds : Nat} (whole : all = before ++ (opening :: rest ++ after))
    (marked : opening.mark = .opening tag)
    (enough : (tokensOf (opening :: rest)).length ≤ rounds) :
    ∃ element, (elements (opening :: rest)).head? = some element ∧
      Follows
        (Event.Within source (tokensOf all) ((tokensOf before).length + 1)
          (tokensOf (before ++ opening :: rest)).length)
        Prod.fst
        (fun read => (tokensOf before).length < read.2 ∧
          read.2 ≤ (tokensOf (before ++ opening :: rest)).length)
        (elementAt registry source.toList (tokensOf all)
          (childrenAt registry source.toList (tokensOf all) rounds) (tokensOf before).length
          (tokensOf (before ++ opening :: rest)).length)
        (buildElement registry element) := by
  have token : opening.mark ≠ .comment := by simp [marked]
  have start := length_tokensOf_append_cons token before []
  have stop := length_tokensOf_append_cons token before rest
  rw [tokensOf_cons_of_ne token, List.length_cons] at enough
  cases closed : closeOf? tag rest with
  | none =>
    refine ⟨.mk tag opening.start none [], ?_, ?_⟩
    · rw [elements, marked]
      simp only [closed, List.head?_cons]
    · refine (follows_elementAt_of_unclosed whole marked closed).mono (fun _ within => within) ?_
      intro read same
      omega
  | some index =>
    refine ⟨.mk tag opening.start (some (rest.take index)) (elements (rest.take index)), ?_, ?_⟩
    · rw [elements, marked]
      simp only [closed, List.head?_cons]
    · obtain ⟨content, closing, other, others, rfl, rfl, closingMark⟩ := exists_of_closeOf? closed
      have closingToken : closing.mark ≠ .comment := by simp [closingMark]
      have close := length_tokensOf_append_cons token before content
      have behind := length_tokensOf_append_cons closingToken content others
      have inside := follows_childrenAt registry laid content (before ++ [opening])
        (closing :: others ++ after) rounds (by simpa using whole) (by omega)
      rw [← List.append_cons, start] at inside
      rw [List.take_left]
      refine (follows_elementAt_of_closed laid whole marked closingToken closed
        (inside.mono (fun _ within => within.mono (Nat.le_refl _) (by omega))
          fun _ _ => trivial)).mono (fun _ within => within) ?_
      intro read same
      omega

/-- The pieces up to a number of tokens. -/
theorem exists_append_of_le (all : List Piece) {count : Nat}
    (fewer : count ≤ (tokensOf all).length) :
    ∃ front back, all = front ++ back ∧ (tokensOf front).length = count := by
  obtain ⟨front, back, rfl, taken, -⟩ :=
    List.filter_eq_append_iff.mp (List.take_append_drop count (tokensOf all)).symm
  refine ⟨front, back, rfl, ?_⟩
  rw [tokensOf, taken, List.length_take, Nat.min_eq_left fewer]

/-- The pieces of a range of tokens. -/
theorem exists_stretch {first limit : Nat} (forward : first ≤ limit)
    (inside : limit ≤ (tokensOf all).length) :
    ∃ before segment after, all = before ++ (segment ++ after) ∧
      (tokensOf before).length = first ∧ (tokensOf (before ++ segment)).length = limit := by
  obtain ⟨before, behind, rfl, rfl⟩ := exists_append_of_le all (forward.trans inside)
  rw [tokensOf_append, List.length_append] at inside
  have fewer : limit - (tokensOf before).length ≤ (tokensOf behind).length := by omega
  obtain ⟨segment, after, rfl, length⟩ := exists_append_of_le behind fewer
  refine ⟨before, segment, after, rfl, rfl, ?_⟩
  rw [tokensOf_append, List.length_append, length]
  omega

/-- The pieces of a range of tokens from one of its tokens on. -/
theorem exists_stretch_cons {start limit : Nat} {token : Piece} (forward : start < limit)
    (inside : limit ≤ (tokensOf all).length) (present : (tokensOf all)[start]? = some token) :
    ∃ before rest after, all = before ++ (token :: rest ++ after) ∧
      (tokensOf before).length = start ∧
      (tokensOf (before ++ token :: rest)).length = limit := by
  obtain ⟨before, behind, rfl, -, rfl⟩ := exists_of_getElem?_tokensOf present
  have isToken := ne_comment_of_mem_tokensOf (List.mem_of_getElem? present)
  have length := length_tokensOf_append_cons isToken before behind
  have fewer : limit - ((tokensOf before).length + 1) ≤ (tokensOf behind).length := by omega
  obtain ⟨rest, after, rfl, restLength⟩ := exists_append_of_le behind fewer
  refine ⟨before, rest, after, rfl, rfl, ?_⟩
  rw [length_tokensOf_append_cons isToken, restLength]
  omega

/-! ### Documents -/

/-- The place of the first token that is not a text of blanks is looked up. -/
theorem follows_firstVisible {first limit : Nat} {tokens : List Piece} (row : List Piece)
    (sliced : ∀ token ∈ row, slice? source.toList token.span = some token.source) (index : Nat) :
    Follows (Event.Within source tokens first limit) (fun _ => ())
      (· = (row.findIdx? fun token => !token.isBlankText).map (index + ·))
      (firstVisible source.toList index row) (pure ()) := by
  induction row generalizing index with
  | nil =>
    rw [firstVisible]
    exact follows_pure (fun _ => ()) rfl
  | cons token rest inductionHypothesis =>
    obtain ⟨slicedHere, slicedBehind⟩ := List.forall_mem_cons.mp sliced
    rw [firstVisible]
    refine (follows_isBlankAt slicedHere).silently ?_
    rintro _ rfl
    cases blank : token.isBlankText with
    | true =>
      refine (inductionHypothesis slicedBehind (index + 1)).mono (fun _ within => within) ?_
      rintro _ rfl
      rw [List.findIdx?_cons, blank, Bool.not_true, if_neg Bool.false_ne_true, Option.map_map]
      congr 1
      funext place
      rw [Function.comp_apply]
      omega
    | false =>
      refine follows_pure (fun _ => ()) ?_
      simp [List.findIdx?_cons, blank]

/-- The element that a piece begins with those behind it. -/
def elementFrom? (root : Piece) (rest : List Piece) : Option Element :=
  match root.mark with
  | .opening _ => (elements (root :: rest)).head?
  | _ => none

theorem elementFrom?_of_opening {root : Piece} {tag : OpeningTag}
    (marked : root.mark = .opening tag) (rest : List Piece) :
    elementFrom? root rest = (elements (root :: rest)).head? := by
  simp only [elementFrom?, marked]

theorem elementFrom?_of_other {root : Piece} (unmarked : ∀ tag, root.mark ≠ .opening tag)
    (rest : List Piece) : elementFrom? root rest = none := by
  unfold elementFrom?
  split
  · rename_i tag marked
    exact absurd marked (unmarked tag)
  · rfl

/-- Where all tokens are texts of blanks, no element begins. -/
theorem rootElement?_of_blank
    (absent : ((tokensOf all).findIdx? fun token => !token.isBlankText) = none) :
    rootElement? all = none := by
  have blank : ∀ token ∈ tokensOf all, token.isBlankText = true := by
    simpa using List.findIdx?_eq_none_iff.mp absent
  have passed : (all.dropWhile fun piece => piece.mark == .comment || piece.isBlankText) = [] := by
    rw [List.dropWhile_eq_nil_iff]
    intro piece member
    rw [Bool.or_eq_true, beq_iff_eq]
    by_cases comment : piece.mark = .comment
    · exact .inl comment
    · exact .inr (blank piece (List.mem_filter.mpr ⟨member, by simpa using comment⟩))
  rw [rootElement?, passed]

/-- The first token that is not a text of blanks decides whether an element begins there. -/
theorem exists_root {place : Nat}
    (found : ((tokensOf all).findIdx? fun token => !token.isBlankText) = some place) :
    ∃ before root rest, all = before ++ root :: rest ∧ root.mark ≠ .comment ∧
      (tokensOf before).length = place ∧ rootElement? all = elementFrom? root rest := by
  obtain ⟨bound, visible, blank⟩ := List.findIdx?_eq_some_iff_getElem.mp found
  obtain ⟨before, rest, whole, front, length⟩ :=
    exists_of_getElem?_tokensOf (List.getElem?_eq_getElem bound)
  have token := ne_comment_of_mem_tokensOf (List.getElem_mem bound)
  have blankBefore : ∀ token ∈ tokensOf before, token.isBlankText = true := by
    rw [front]
    intro token member
    obtain ⟨index, inside, rfl⟩ := List.mem_take_iff_getElem.mp member
    simpa using blank index (by omega)
  refine ⟨before, _, rest, whole, token, length, ?_⟩
  have begins := dropWhile_blanks blankBefore token (by simpa using visible) rest
  rw [← whole] at begins
  rw [rootElement?, begins]
  rfl

/-- From the root a descent builds the root element, or finds no opening tag there. -/
theorem follows_elementAt_of_root (registry : ComponentRegistry) (laid : Laid source.toList all)
    {before rest : List Piece} {root : Piece} (whole : all = before ++ root :: rest)
    (token : root.mark ≠ .comment) :
    Follows (Event.Within source (tokensOf all) 0 (tokensOf all).length) Prod.fst
      (fun read => read.2 ≤ (tokensOf all).length)
      (elementAt registry source.toList (tokensOf all)
        (childrenAt registry source.toList (tokensOf all) (tokensOf all).length)
        (tokensOf before).length (tokensOf all).length)
      (match elementFrom? root rest with
      | none => throw .noRootElement
      | some element => buildElement registry element) := by
  by_cases opening : ∃ tag, root.mark = .opening tag
  · obtain ⟨tag, marked⟩ := opening
    have enough : (tokensOf (root :: rest)).length ≤ (tokensOf all).length := by
      simp [whole]
    obtain ⟨element, first, follows⟩ :=
      follows_elementAt registry laid [] (by simpa using whole) marked enough
    rw [← whole] at follows
    rw [elementFrom?_of_opening marked, first]
    exact follows.mono (fun _ within => within.mono (Nat.zero_le _) (Nat.le_refl _))
      fun _ inside => inside.2
  · have present : (tokensOf all)[(tokensOf before).length]? = some root :=
      getElem?_tokensOf whole token
    have absent : ∀ tag, root.mark ≠ .opening tag := fun tag same => opening ⟨tag, same⟩
    rw [elementFrom?_of_other absent]
    unfold elementAt
    refine (follows_tokenAt present).silently ?_
    rintro _ rfl
    split
    · rename_i tag marked
      exact absurd marked (absent tag)
    · exact follows_throw _

/-- The tree of a document is that of its descent. -/
theorem follows_documentAt (registry : ComponentRegistry) (source : String) :
    Follows
      (fun event => ∃ tokens, tokenize source = .ok tokens ∧
        event.Within source tokens 0 tokens.length)
      id (fun _ => True) (documentAt registry source) (parseTree registry source) := by
  unfold documentAt parseTree
  cases scanned : strictPieces source.toList with
  | error tag =>
    have refused : tokenize source = .error tag := by
      rw [tokenize, scanned]
      rfl
    rw [refused]
    exact follows_throw _
  | ok all =>
    have accepted : tokenize source = .ok (tokensOf all) := by
      rw [tokenize, scanned]
      rfl
    have laid : Laid source.toList all := by
      rw [(strictPieces_eq_ok_iff.mp scanned).1]
      exact laid_pieces _ _
    have sliced : ∀ token ∈ tokensOf all, slice? source.toList token.span = some token.source :=
      ((tokens_partition_source source).1 _ accepted).sliced
    rw [accepted]
    suffices inRange : Follows (Event.Within source (tokensOf all) 0 (tokensOf all).length) id
        (fun _ => True) _ _ from
      inRange.mono (fun event within => ⟨_, rfl, within⟩) fun _ _ => trivial
    refine (follows_firstVisible (tokensOf all) sliced 0).silently ?_
    rintro _ rfl
    cases found : (tokensOf all).findIdx? fun token => !token.isBlankText with
    | none =>
      dsimp only
      rw [rootElement?_of_blank found]
      exact follows_throw _
    | some place =>
      obtain ⟨before, root, rest, whole, token, rfl, rooted⟩ := exists_root found
      rw [Option.map_some, Nat.zero_add]
      dsimp only
      rw [rooted]
      refine (follows_elementAt_of_root registry laid whole token).andThen ?_
      rintro ⟨tree, next⟩ inside
      dsimp only at inside ⊢
      rw [if_pos inside]
      refine (follows_firstVisible _ (fun token member => ?_) next).silently fun _ _ => ?_
      · exact sliced token (List.mem_of_mem_drop member)
      · exact follows_pure id trivial

/-- The descent through the tokens of a document stays in its ranges. -/
theorem staysInRange (registry : ComponentRegistry) (laid : Laid source.toList all) :
    StaysInRange registry source (tokensOf all) where
  element := by
    rintro rounds start limit forward inside ⟨token, tag, present, marked⟩ enough
    obtain ⟨before, rest, after, whole, rfl, rfl⟩ := exists_stretch_cons forward inside present
    obtain ⟨element, -, follows⟩ :=
      follows_elementAt registry laid after whole marked (by simpa using enough)
    exact follows.completes
  children := by
    intro rounds first limit forward inside enough
    obtain ⟨before, segment, after, whole, rfl, rfl⟩ := exists_stretch forward inside
    exact (follows_childrenAt registry laid segment before after rounds whole
      (by simpa using enough)).completes

end Ranges

/-! ### Refusals -/

section Refusals

variable {registry : ComponentRegistry} {ledger : IdLedger} {cause : ParseError}

theorem unknownTag_of_resolveTag {tag : OpeningTag} {offset : Nat}
    (failed : ((resolveTag registry tag offset).outcome ledger).1 = .error cause) :
    ∃ name place, cause = .unknownTag name place := by
  unfold resolveTag at failed
  split at failed
  · cases failed
  · split at failed
    · cases failed
    · split at failed
      · cases failed
      · cases failed
        exact ⟨_, _, rfl⟩

mutual
/-- Only an unknown tag makes an element fail. -/
theorem unknownTag_of_buildElement (element : Element) (ledger : IdLedger)
    (failed : ((buildElement registry element).outcome ledger).1 = .error cause) :
    ∃ name place, cause = .unknownTag name place := by
  match element with
  | .mk tag start content children =>
    rw [buildElement] at failed
    rcases BuildM.error_of_bind failed with here | ⟨tree, middle, behind⟩
    · exact unknownTag_of_resolveTag here
    · cases content with
      | none => cases behind
      | some pieces =>
        dsimp only at behind
        split at behind
        · cases behind
        · rcases BuildM.error_of_bind behind with inside | ⟨trees, last, ended⟩
          · exact unknownTag_of_buildElements children middle inside
          · cases ended

theorem unknownTag_of_buildElements (elements : List Element) (ledger : IdLedger)
    (failed : ((buildElements registry elements).outcome ledger).1 = .error cause) :
    ∃ name place, cause = .unknownTag name place := by
  match elements with
  | [] =>
    rw [buildElements] at failed
    cases failed
  | element :: rest =>
    rw [buildElements] at failed
    rcases BuildM.error_of_bind failed with here | ⟨tree, middle, behind⟩
    · exact unknownTag_of_buildElement element ledger here
    · rcases BuildM.error_of_bind behind with later | ⟨trees, last, ended⟩
      · exact unknownTag_of_buildElements rest middle later
      · cases ended
end

/-- A document is refused for one of three causes. -/
theorem refusal_of_parseTree {source : String}
    (failed : ((parseTree registry source).outcome ledger).1 = .error cause) :
    cause = .noRootElement ∨ (∃ tag offset, cause = .unknownTag tag offset) ∨
      ∃ tag offset, cause = .unterminatedTag tag offset := by
  unfold parseTree at failed
  split at failed
  · cases failed
    exact .inr (.inr ⟨_, _, rfl⟩)
  · split at failed
    · cases failed
      exact .inl rfl
    · exact .inr (.inl (unknownTag_of_buildElement _ _ failed))

end Refusals

/-- The descent over the tokens of a document always advances inside its range and takes every token
once. The tree of the document is the one of its descent from the root, so that it is broken by
nothing, and it can be refused for three causes only. -/
theorem descent_advances (registry : ComponentRegistry) (source : String) :
    (∀ tokens, tokenize source = .ok tokens → StaysInRange registry source tokens) ∧
      Follows
        (fun event => ∃ tokens, tokenize source = .ok tokens ∧
          event.Within source tokens 0 tokens.length)
        id (fun _ => True) (documentAt registry source) (parseTree registry source) ∧
      ∀ ledger, (∃ tree, ((parseTree registry source).outcome ledger).1 = .ok tree) ∨
        ∃ cause, ((parseTree registry source).outcome ledger).1 = .error cause ∧
          (cause = .noRootElement ∨ (∃ tag offset, cause = .unknownTag tag offset) ∨
            ∃ tag offset, cause = .unterminatedTag tag offset) := by
  refine ⟨?_, follows_documentAt registry source, fun ledger => ?_⟩
  · intro tokens scanned
    obtain ⟨-, rfl⟩ := exists_of_tokenize scanned
    exact staysInRange registry (laid_pieces .strict source.toList)
  · cases ended : ((parseTree registry source).outcome ledger).1 with
    | ok tree => exact .inl ⟨tree, rfl⟩
    | error cause => exact .inr ⟨cause, rfl, refusal_of_parseTree ended⟩

/-- An element with a crossed element in it and a verbatim text that has an opening tag. -/
def crossedDocument : String := " <View>é<Box><!-- c --><Text>a<Foo></Text></View></Box>"

theorem descent_advances_through_crossed :
    ∃ tokens, tokenize crossedDocument = .ok tokens ∧
      StaysInRange .standard crossedDocument tokens ∧
      ∃ visits after,
        (childrenAt .standard crossedDocument.toList tokens 7 2 8).outcome ⟨.empty, []⟩ =
          (.ok visits, after) ∧
        visits.map (fun visit => (visit.first, visit.next, visit.child.isSome)) =
          [(2, 3, false), (3, 4, true), (4, 8, true)] ∧
        after.events = [.cut ⟨7, 9⟩, .element 3 8, .element 4 8, .cut ⟨30, 36⟩] := by
  obtain ⟨tokens, tokenized, stop, steps, events⟩ : ∃ tokens,
      tokenize crossedDocument = .ok tokens ∧ 8 ≤ tokens.length ∧
      ((childrenAt .standard crossedDocument.toList tokens 7 2 8).outcome
        ⟨.empty, []⟩).1.toOption.map
          (List.map fun visit => (visit.first, visit.next, visit.child.isSome)) =
        some [(2, 3, false), (3, 4, true), (4, 8, true)] ∧
      ((childrenAt .standard crossedDocument.toList tokens 7 2 8).outcome ⟨.empty, []⟩).2.events =
        [.cut ⟨7, 9⟩, .element 3 8, .element 4 8, .cut ⟨30, 36⟩] :=
    ⟨[⟨.text, [' '], 0⟩, ⟨.opening ⟨"View", [], false⟩, "<View>".toList, 1⟩, ⟨.text, ['é'], 7⟩,
      ⟨.opening ⟨"Box", [], false⟩, "<Box>".toList, 9⟩,
      ⟨.opening ⟨"Text", [], false⟩, "<Text>".toList, 24⟩, ⟨.text, ['a'], 30⟩,
      ⟨.opening ⟨"Foo", [], false⟩, "<Foo>".toList, 31⟩, ⟨.closing "Text", "</Text>".toList, 36⟩,
      ⟨.closing "View", "</View>".toList, 43⟩, ⟨.closing "Box", "</Box>".toList, 50⟩],
      by decide +kernel, by decide, by decide +kernel, by decide +kernel⟩
  have inRange := (descent_advances .standard crossedDocument).1 tokens tokenized
  refine ⟨tokens, tokenized, inRange, ?_⟩
  obtain ⟨-, -, -, ⟨visits, given, -⟩ | ⟨cause, refused⟩⟩ :=
    inRange.children 7 2 8 (by decide) stop (by decide) ⟨.empty, []⟩
  · refine ⟨visits, _, Prod.ext given rfl, ?_, events⟩
    rw [given] at steps
    exact Option.some.inj steps
  · rw [refused] at steps
    cases steps

end SceneMarkup.Markup
