import Mathlib.Order.Bounds.Basic
import SceneMarkup.Proofs.Markup.Matching

/-!
Contract: closing tags belong to opening tags as closing brackets do to opening ones.

Owns:
- `surplus`, by how much the closing tags of a name outnumber its opening tags;
- the count of open elements, which the surplus tells at every token;
- `MatchesAsBrackets`, what callers rely on when they look for closing tags;
- the theorem that it holds of all tokens.

Does not own: the elements that callers make of opening and closing tags.
-/

namespace SceneMarkup.Markup

open SceneMarkup.Text

/-! ### Statement -/

/-- What a mark adds to the closing tags of a name: one for such a tag, in letters of any case, and
minus one for an opening tag of the name that has to be closed. -/
def Mark.surplus (name : String) : Mark → Int
  | .closing other => if other.toLower = name.toLower then 1 else 0
  | .opening ⟨other, _, false⟩ => if other.toLower = name.toLower then -1 else 0
  | _ => 0

/-- By how much the closing tags of a name outnumber its opening tags that have to be closed. -/
def surplus (name : String) : List Piece → Int
  | [] => 0
  | token :: rest => token.mark.surplus name + surplus name rest

/-- The tokens behind index `first` up to index `last`. -/
def tokensUpTo (tokens : List Piece) (first last : Nat) : List Piece :=
  (tokens.drop (first + 1)).take (last - first)

/-- The indices behind `start` and before `limit` up to which the closing tags of a name outnumber
the opening tags by one. -/
def surplusIndices (tokens : List Piece) (start : Nat) (name : String) (limit : Nat) : Set Nat :=
  {index | start < index ∧ index < min limit tokens.length ∧
    surplus name (tokensUpTo tokens start index) = 1}

/-- At an index stands an opening tag of a name that has to be closed. -/
def OpensAt (tokens : List Piece) (index : Nat) (name : String) : Prop :=
  ∃ piece tag, tokens[index]? = some piece ∧ piece.mark = .opening tag ∧
    tag.selfClosing = false ∧ tag.name = name

/-- Closing tags that are found as closing brackets would be. -/
structure MatchesAsBrackets (tokens : List Piece) : Prop where
  least : ∀ start name limit index, matchingClose? tokens start name limit = some index ↔
    IsLeast (surplusIndices tokens start name limit) index
  /-- In front of the closing tag, the number of further open elements is the surplus of opening
  tags, and the search goes on with it. -/
  counter : ∀ start name limit last, start ≤ last → last < min limit tokens.length →
    (∀ index, matchingClose? tokens start name limit = some index → last < index) →
    ∃ depth : Nat, (depth : Int) = -surplus name (tokensUpTo tokens start last) ∧
      matchingClose? tokens start name limit =
        (closeIndex? name depth ((tokens.take limit).drop (last + 1))).map (· + (last + 1))
  /-- Of two elements of one name, the later one lies behind the earlier one or inside it. -/
  nested : ∀ limit first second name other close otherClose, first < second →
    OpensAt tokens first name → OpensAt tokens second other → sameWord name other = true →
    matchingClose? tokens first name limit = some close →
    matchingClose? tokens second other limit = some otherClose →
      close < second ∨ otherClose < close
  distinct : ∀ limit first second name other close otherClose, first ≠ second →
    OpensAt tokens first name → OpensAt tokens second other →
    matchingClose? tokens first name limit = some close →
    matchingClose? tokens second other limit = some otherClose → close ≠ otherClose
  shrunk : ∀ start name limit smaller, smaller ≤ limit →
    matchingClose? tokens start name smaller =
      (matchingClose? tokens start name limit).filter (· < smaller)

/-! ### Surplus -/

@[simp] theorem surplus_nil (name : String) : surplus name [] = 0 := rfl

@[simp] theorem surplus_append (name : String) (front back : List Piece) :
    surplus name (front ++ back) = surplus name front + surplus name back := by
  induction front with
  | nil => simp
  | cons piece rest inductionHypothesis =>
    simp only [List.cons_append, surplus, inductionHypothesis, Int.add_assoc]

theorem surplus_cons (name : String) (piece : Piece) (rest : List Piece) :
    surplus name (piece :: rest) = surplus name [piece] + surplus name rest :=
  surplus_append name [piece] rest

/-- The surplus of a single token is what the search goes by. -/
theorem surplus_singleton (name : String) (piece : Piece) :
    surplus name [piece] =
      if piece.closes name then 1 else if piece.opens name then -1 else 0 := by
  have single : surplus name [piece] = piece.mark.surplus name := by simp [surplus]
  rw [single]
  unfold Piece.closes Piece.opens sameWord
  cases piece.mark with
  | closing other => simp [Mark.surplus]
  | opening tag =>
    obtain ⟨other, attributes, selfClosing⟩ := tag
    cases selfClosing <;> simp [Mark.surplus]
  | _ => rfl

/-- The case of letters in a name does not matter. -/
theorem surplus_of_sameWord {name other : String} (same : sameWord name other = true)
    (tokens : List Piece) : surplus name tokens = surplus other tokens := by
  have lowered : name.toLower = other.toLower := beq_iff_eq.mp same
  have marks (mark : Mark) : mark.surplus name = mark.surplus other := by
    simp only [Mark.surplus, lowered]
  induction tokens with
  | nil => rfl
  | cons piece rest inductionHypothesis => rw [surplus, surplus, marks, inductionHypothesis]

/-! ### One token -/

/-- A closing tag that is one too many ends the count. -/
theorem closeIndex?_of_exceeds {name : String} {depth : Nat} {piece : Piece}
    (exceeds : (depth : Int) < surplus name [piece]) (rest : List Piece) :
    closeIndex? name depth (piece :: rest) = some 0 := by
  rw [surplus_singleton] at exceeds
  by_cases closes : piece.closes name = true
  · rw [if_pos closes] at exceeds
    obtain rfl : depth = 0 := by omega
    rw [closeIndex?_cons, if_pos closes]
  · rw [if_neg closes] at exceeds
    split at exceeds <;> omega

/-- Any other token takes its surplus from the count, which is never more than is there. -/
theorem exists_closeIndex?_cons {name : String} {depth : Nat} {piece : Piece}
    (within : surplus name [piece] ≤ depth) :
    ∃ next : Nat, (next : Int) = depth - surplus name [piece] ∧
      ∀ rest, closeIndex? name depth (piece :: rest) =
        (closeIndex? name next rest).map (· + 1) := by
  rw [surplus_singleton] at within ⊢
  by_cases closes : piece.closes name = true
  · rw [if_pos closes] at within ⊢
    obtain ⟨next, rfl⟩ : ∃ next, depth = next + 1 := ⟨depth - 1, by omega⟩
    refine ⟨next, by omega, fun rest => ?_⟩
    rw [closeIndex?_cons, if_pos closes]
  · rw [if_neg closes]
    by_cases opens : piece.opens name = true
    · refine ⟨depth + 1, by rw [if_pos opens]; omega, fun rest => ?_⟩
      rw [closeIndex?_cons, if_neg closes, if_pos opens]
    · refine ⟨depth, by rw [if_neg opens]; omega, fun rest => ?_⟩
      rw [closeIndex?_cons, if_neg closes, if_neg opens]

/-! ### Many tokens -/

section Count

variable {name : String} {depth index : Nat} {pieces : List Piece}

/-- Up to the closing tag that ends the count, there is one closing tag too many. -/
theorem surplus_of_closeIndex? (found : closeIndex? name depth pieces = some index) :
    index < pieces.length ∧ surplus name (pieces.take (index + 1)) = depth + 1 := by
  induction pieces generalizing depth index with
  | nil => cases depth <;> cases found
  | cons piece rest inductionHypothesis =>
    rw [List.take_succ_cons, surplus_cons]
    by_cases within : surplus name [piece] ≤ depth
    · obtain ⟨next, counted, further⟩ := exists_closeIndex?_cons within
      rw [further, Option.map_eq_some_iff] at found
      obtain ⟨earlier, searched, rfl⟩ := found
      obtain ⟨inside, later⟩ := inductionHypothesis searched
      rw [List.length_cons]
      omega
    · rw [closeIndex?_of_exceeds (by omega)] at found
      cases found
      have most : surplus name [piece] ≤ 1 := by
        rw [surplus_singleton]
        split
        · omega
        · split <;> omega
      rw [List.take_zero, surplus_nil, List.length_cons]
      omega

/-- In front of that closing tag there is none too many, so that the count stays above zero. -/
theorem surplus_take_le {count : Nat} (inside : count ≤ pieces.length)
    (before : ∀ index, closeIndex? name depth pieces = some index → count ≤ index) :
    surplus name (pieces.take count) ≤ depth := by
  induction pieces generalizing depth count with
  | nil =>
    rw [List.take_nil, surplus_nil]
    omega
  | cons piece rest inductionHypothesis =>
    cases count with
    | zero =>
      rw [List.take_zero, surplus_nil]
      omega
    | succ count =>
      have within : surplus name [piece] ≤ depth := by
        by_contra exceeds
        exact absurd (before 0 (closeIndex?_of_exceeds (by omega) rest)) (by omega)
      obtain ⟨next, counted, further⟩ := exists_closeIndex?_cons within
      have later := inductionHypothesis (Nat.le_of_succ_le_succ inside) fun index found =>
        Nat.le_of_succ_le_succ (before (index + 1) (by rw [further, found]; rfl))
      rw [List.take_succ_cons, surplus_cons]
      omega

/-- Behind tokens among which no closing tag is one too many, the count goes on with their surplus
taken from it. -/
theorem exists_closeIndex?_append {front : List Piece} (rest : List Piece)
    (within : ∀ count ≤ front.length, surplus name (front.take count) ≤ depth) :
    ∃ next : Nat, (next : Int) = depth - surplus name front ∧
      closeIndex? name depth (front ++ rest) =
        (closeIndex? name next rest).map (· + front.length) := by
  induction front generalizing depth with
  | nil =>
    refine ⟨depth, by rw [surplus_nil]; omega, ?_⟩
    rw [List.nil_append, List.length_nil]
    exact (Option.map_id' ..).symm
  | cons piece front inductionHypothesis =>
    have first : surplus name [piece] ≤ depth := by
      have single := within 1 (by simp)
      rwa [List.take_succ_cons, List.take_zero] at single
    obtain ⟨next, counted, further⟩ := exists_closeIndex?_cons first
    have later : ∀ count ≤ front.length, surplus name (front.take count) ≤ next := by
      intro count inside
      have longer := within (count + 1) (by rw [List.length_cons]; omega)
      rw [List.take_succ_cons, surplus_cons] at longer
      omega
    obtain ⟨last, countedLast, goesOn⟩ := inductionHypothesis later
    refine ⟨last, by rw [surplus_cons]; omega, ?_⟩
    rw [List.cons_append, further, goesOn, Option.map_map]
    rfl

end Count

/-! ### Tokens at indices -/

section Indices

variable {tokens : List Piece} {start limit index last : Nat} {name : String}

/-- Tokens behind an index are those up to a later one and those behind that. -/
theorem tokensUpTo_append {middle : Nat} (first : start ≤ middle) (second : middle ≤ last) :
    tokensUpTo tokens start middle ++ tokensUpTo tokens middle last =
      tokensUpTo tokens start last := by
  have behind : tokens.drop (middle + 1) = (tokens.drop (start + 1)).drop (middle - start) := by
    rw [List.drop_drop]
    congr 1
    omega
  rw [tokensUpTo, tokensUpTo, behind, ← List.take_add, tokensUpTo]
  congr 1
  omega

theorem surplus_tokensUpTo_add {middle : Nat} (first : start ≤ middle) (second : middle ≤ last) :
    surplus name (tokensUpTo tokens start middle) + surplus name (tokensUpTo tokens middle last) =
      surplus name (tokensUpTo tokens start last) := by
  rw [← surplus_append, tokensUpTo_append first second]

/-- One more token brings its own surplus. -/
theorem surplus_tokensUpTo_succ (name : String) (behind : start ≤ last) {piece : Piece}
    (next : tokens[last + 1]? = some piece) :
    surplus name (tokensUpTo tokens start (last + 1)) =
      surplus name (tokensUpTo tokens start last) + surplus name [piece] := by
  obtain ⟨inside, rfl⟩ := List.getElem?_eq_some_iff.mp next
  have single : tokensUpTo tokens last (last + 1) = [tokens[last + 1]] := by
    rw [tokensUpTo, Nat.add_sub_cancel_left, List.drop_eq_getElem_cons inside,
      List.take_succ_cons, List.take_zero]
  rw [← surplus_tokensUpTo_add behind (Nat.le_add_right last 1), single]

/-- The tokens that are searched, up to one of them. -/
theorem take_searched (before : last < limit) (behind : start ≤ last) :
    ((tokens.take limit).drop (start + 1)).take (last - start) = tokensUpTo tokens start last := by
  rw [tokensUpTo, List.take_drop, List.take_drop, List.take_take, Nat.min_eq_left (by omega)]

theorem matchingClose?_eq_some_iff :
    matchingClose? tokens start name limit = some index ↔ ∃ place, index = place + (start + 1) ∧
      closeIndex? name 0 ((tokens.take limit).drop (start + 1)) = some place := by
  rw [matchingClose?, Option.map_eq_some_iff]
  constructor
  · rintro ⟨place, found, rfl⟩
    exact ⟨place, rfl, found⟩
  · rintro ⟨place, rfl, found⟩
    exact ⟨place, found, rfl⟩

/-- Up to a closing tag that is found there is one closing tag too many. -/
theorem mem_surplusIndices (found : matchingClose? tokens start name limit = some index) :
    index ∈ surplusIndices tokens start name limit := by
  obtain ⟨place, rfl, counted⟩ := matchingClose?_eq_some_iff.mp found
  obtain ⟨inside, exceeds⟩ := surplus_of_closeIndex? counted
  rw [List.length_drop, List.length_take] at inside
  have before : place + (start + 1) < limit := by omega
  refine ⟨by omega, by omega, ?_⟩
  rw [← take_searched before (by omega)]
  have places : place + (start + 1) - start = place + 1 := by omega
  rw [places, exceeds]
  rfl

/-- In front of a closing tag that is found there is none too many. -/
theorem surplus_tokensUpTo_le (behind : start ≤ last) (inside : last < min limit tokens.length)
    (before : ∀ index, matchingClose? tokens start name limit = some index → last < index) :
    surplus name (tokensUpTo tokens start last) ≤ 0 := by
  have short : last < limit := by omega
  rw [← take_searched short behind]
  apply surplus_take_le
  · rw [List.length_drop, List.length_take]
    omega
  · intro place found
    have later := before _ (matchingClose?_eq_some_iff.mpr ⟨place, rfl, found⟩)
    omega

theorem surplus_le_of_matchingClose? (behind : start ≤ last) (before : last < index)
    (found : matchingClose? tokens start name limit = some index) :
    surplus name (tokensUpTo tokens start last) ≤ 0 := by
  have inside := (mem_surplusIndices found).2.1
  refine surplus_tokensUpTo_le behind (before.trans inside) fun other same => ?_
  rw [found] at same
  cases same
  exact before

theorem isLeast_of_matchingClose? (found : matchingClose? tokens start name limit = some index) :
    IsLeast (surplusIndices tokens start name limit) index := by
  refine ⟨mem_surplusIndices found, fun other member => ?_⟩
  obtain ⟨behind, inside, exceeds⟩ := member
  by_contra earlier
  have within := surplus_le_of_matchingClose? (Nat.le_of_lt behind) (Nat.lt_of_not_le earlier) found
  omega

/-- The closing tag that is found is the first one up to which there is one too many. -/
theorem matchingClose?_eq_some_iff_isLeast :
    matchingClose? tokens start name limit = some index ↔
      IsLeast (surplusIndices tokens start name limit) index := by
  refine ⟨isLeast_of_matchingClose?, fun least => ?_⟩
  cases found : matchingClose? tokens start name limit with
  | some other => rw [(isLeast_of_matchingClose? found).unique least]
  | none =>
    obtain ⟨behind, inside, exceeds⟩ := least.1
    have within := surplus_tokensUpTo_le (Nat.le_of_lt behind) inside fun later same => by
      rw [found] at same
      cases same
    omega

theorem exists_counter (behind : start ≤ last) (inside : last < min limit tokens.length)
    (before : ∀ index, matchingClose? tokens start name limit = some index → last < index) :
    ∃ depth : Nat, (depth : Int) = -surplus name (tokensUpTo tokens start last) ∧
      matchingClose? tokens start name limit =
        (closeIndex? name depth ((tokens.take limit).drop (last + 1))).map (· + (last + 1)) := by
  have searched : ((tokens.take limit).drop (start + 1)).take (last - start) =
      tokensUpTo tokens start last := take_searched (by omega) behind
  have length : (tokensUpTo tokens start last).length = last - start := by
    rw [tokensUpTo, List.length_take, List.length_drop]
    omega
  have whole : (tokens.take limit).drop (start + 1) =
      tokensUpTo tokens start last ++ (tokens.take limit).drop (last + 1) := by
    rw [← List.take_append_drop (last - start) ((tokens.take limit).drop (start + 1)), searched,
      List.drop_drop]
    congr 2
    omega
  have within : ∀ count ≤ (tokensUpTo tokens start last).length,
      surplus name ((tokensUpTo tokens start last).take count) ≤ (0 : Nat) := by
    intro count short
    rw [length] at short
    have part : (tokensUpTo tokens start last).take count =
        tokensUpTo tokens start (start + count) := by
      rw [tokensUpTo, tokensUpTo, List.take_take]
      congr 1
      omega
    have near : start + count < min limit tokens.length := by omega
    rw [part]
    refine surplus_tokensUpTo_le (Nat.le_add_right start count) near fun index found => ?_
    have later := before index found
    omega
  obtain ⟨depth, counted, further⟩ :=
    exists_closeIndex?_append ((tokens.take limit).drop (last + 1)) within
  refine ⟨depth, by omega, ?_⟩
  rw [matchingClose?, whole, further, Option.map_map, length]
  congr 1
  funext place
  rw [Function.comp_apply]
  omega

end Indices

/-! ### Two elements -/

section Pairs

variable {tokens : List Piece} {limit first second close otherClose : Nat} {name other : String}

/-- The token at the index that is found is a closing tag of the name. -/
theorem closes_of_matchingClose? (found : matchingClose? tokens first name limit = some close) :
    ∃ piece, tokens[close]? = some piece ∧ piece.closes name = true := by
  obtain ⟨behind, inside, exceeds⟩ := mem_surplusIndices found
  obtain ⟨earlier, rfl⟩ : ∃ earlier, close = earlier + 1 := ⟨close - 1, by omega⟩
  have here : tokens[earlier + 1]? = some tokens[earlier + 1] :=
    List.getElem?_eq_getElem (by omega)
  refine ⟨_, here, ?_⟩
  have within : surplus name (tokensUpTo tokens first earlier) ≤ 0 :=
    surplus_le_of_matchingClose? (Nat.le_of_lt_succ behind) (Nat.lt_succ_self earlier) found
  have sum := surplus_tokensUpTo_succ name (Nat.le_of_lt_succ behind) here
  rw [surplus_singleton] at sum
  by_contra other
  rw [if_neg other] at sum
  split at sum <;> omega

theorem surplus_of_opensAt (opened : OpensAt tokens second other)
    (same : sameWord name other = true) :
    ∃ piece, tokens[second]? = some piece ∧ surplus name [piece] = -1 := by
  obtain ⟨piece, tag, present, marked, ended, rfl⟩ := opened
  have lowered : name.toLower = tag.name.toLower := beq_iff_eq.mp same
  have closes : piece.closes name = false := by simp [Piece.closes, marked]
  have opens : piece.opens name = true := by simp [Piece.opens, marked, ended, sameWord, lowered]
  refine ⟨piece, present, ?_⟩
  rw [surplus_singleton, closes, opens, if_neg Bool.false_ne_true, if_pos rfl]

/-- An element that opens inside another one of its name is closed inside it: an opening tag of the
name at `second` leaves one closing tag more to be found before `close`. -/
theorem lt_or_lt_of_sameWord (earlier : first < second) (opened : OpensAt tokens second other)
    (same : sameWord name other = true)
    (found : matchingClose? tokens first name limit = some close)
    (otherFound : matchingClose? tokens second other limit = some otherClose) :
    close < second ∨ otherClose < close := by
  obtain ⟨behind, inside, exceeds⟩ := mem_surplusIndices found
  obtain ⟨_, _, otherExceeds⟩ := mem_surplusIndices otherFound
  rw [← surplus_of_sameWord same] at otherExceeds
  obtain ⟨opening, present, opens⟩ := surplus_of_opensAt opened same
  obtain ⟨closing, ended, closes⟩ := closes_of_matchingClose? found
  have apart : close ≠ second := by
    rintro rfl
    rw [present, Option.some.injEq] at ended
    subst ended
    rw [surplus_singleton, if_pos closes] at opens
    cases opens
  by_contra crossing
  obtain ⟨before, rfl⟩ : ∃ before, second = before + 1 := ⟨second - 1, by omega⟩
  have within : surplus name (tokensUpTo tokens first before) ≤ 0 :=
    surplus_le_of_matchingClose? (Nat.le_of_lt_succ earlier) (by omega) found
  have begun := surplus_tokensUpTo_succ name (Nat.le_of_lt_succ earlier) present
  have sum : surplus name (tokensUpTo tokens first (before + 1)) +
      surplus name (tokensUpTo tokens (before + 1) close) =
        surplus name (tokensUpTo tokens first close) :=
    surplus_tokensUpTo_add (by omega) (by omega)
  have rest : surplus name (tokensUpTo tokens (before + 1) close) ≤ 1 := by
    rcases Nat.lt_or_ge close otherClose with shorter | longer
    · rw [surplus_of_sameWord same]
      exact (surplus_le_of_matchingClose? (by omega) shorter otherFound).trans zero_le_one
    · obtain rfl : close = otherClose := by omega
      omega
  omega

theorem close_ne_close (apart : first ≠ second) (opened : OpensAt tokens first name)
    (otherOpened : OpensAt tokens second other)
    (found : matchingClose? tokens first name limit = some close)
    (otherFound : matchingClose? tokens second other limit = some otherClose) :
    close ≠ otherClose := by
  rintro rfl
  have behind := (mem_surplusIndices found).1
  have otherBehind := (mem_surplusIndices otherFound).1
  obtain ⟨piece, present, closes⟩ := closes_of_matchingClose? found
  obtain ⟨otherPiece, otherPresent, otherCloses⟩ := closes_of_matchingClose? otherFound
  rw [present, Option.some.injEq] at otherPresent
  subst otherPresent
  obtain ⟨word, marked⟩ := exists_mark_of_closes closes
  simp only [Piece.closes, marked] at closes otherCloses
  have lowered : word.toLower = name.toLower := beq_iff_eq.mp closes
  have otherLowered : word.toLower = other.toLower := beq_iff_eq.mp otherCloses
  have same : sameWord name other = true := by simp [sameWord, ← lowered, otherLowered]
  have swapped : sameWord other name = true := by simp [sameWord, ← lowered, otherLowered]
  rcases Nat.lt_or_gt_of_ne apart with earlier | later
  · rcases lt_or_lt_of_sameWord earlier otherOpened same found otherFound with before | inside
    · omega
    · omega
  · rcases lt_or_lt_of_sameWord later opened swapped otherFound found with before | inside
    · omega
    · omega

end Pairs

/-- A smaller limit leaves out the closing tags that are not before it. -/
theorem matchingClose?_of_le {tokens : List Piece} {start limit smaller : Nat} {name : String}
    (fewer : smaller ≤ limit) :
    matchingClose? tokens start name smaller =
      (matchingClose? tokens start name limit).filter (· < smaller) := by
  have restricted (index : Nat) : index ∈ surplusIndices tokens start name smaller ↔
      index ∈ surplusIndices tokens start name limit ∧ index < smaller := by
    constructor
    · rintro ⟨behind, inside, exceeds⟩
      exact ⟨⟨behind, by omega, exceeds⟩, by omega⟩
    · rintro ⟨⟨behind, inside, exceeds⟩, short⟩
      exact ⟨behind, by omega, exceeds⟩
  apply Option.ext
  intro index
  rw [Option.filter_eq_some_iff, matchingClose?_eq_some_iff_isLeast, decide_eq_true_iff]
  constructor
  · intro least
    obtain ⟨member, short⟩ := (restricted index).mp least.1
    refine ⟨matchingClose?_eq_some_iff_isLeast.mpr ⟨member, fun other inside => ?_⟩, short⟩
    by_contra earlier
    exact earlier (least.2 ((restricted other).mpr ⟨inside, by omega⟩))
  · rintro ⟨found, short⟩
    have least := matchingClose?_eq_some_iff_isLeast.mp found
    exact ⟨(restricted index).mpr ⟨least.1, short⟩, fun other inside =>
      least.2 ((restricted other).mp inside).1⟩

/-- Among any tokens, closing tags are found as closing brackets would be. -/
theorem matches_as_brackets (tokens : List Piece) : MatchesAsBrackets tokens where
  least _ _ _ _ := matchingClose?_eq_some_iff_isLeast
  counter _ _ _ _ := exists_counter
  nested _ _ _ _ _ _ _ earlier _ opened same := lt_or_lt_of_sameWord earlier opened same
  distinct _ _ _ _ _ _ _ apart opened otherOpened := close_ne_close apart opened otherOpened
  shrunk _ _ _ _ := matchingClose?_of_le

/-- An element inside another one of its name, with a self-closing tag inside and a stray closing
tag behind it. -/
def innerElement : List Piece :=
  let marks : List Mark := [.opening ⟨"a", [], false⟩, .opening ⟨"A", [], false⟩,
    .opening ⟨"a", [], true⟩, .closing "a", .closing "b", .closing "A"]
  marks.map fun mark => ⟨mark, [], 0⟩

/-- The outer element is closed by the last tag, the first one up to which one closing tag is too
many, and not at all in front of it. -/
theorem matches_as_brackets_of_innerElement :
    IsLeast (surplusIndices innerElement 0 "a" 6) 5 ∧
      IsLeast (surplusIndices innerElement 1 "A" 6) 3 ∧
      matchingClose? innerElement 0 "a" 5 = none := by
  have brackets := matches_as_brackets innerElement
  have own : sameWord "a" "a" = true := sameWord_iff.mpr rfl
  have upper : sameWord "A" "a" = true := sameWord_iff.mpr (by decide)
  have lower : sameWord "a" "A" = true := sameWord_iff.mpr (by decide)
  have stray : sameWord "b" "a" = false := by
    rw [Bool.eq_false_iff, Ne, sameWord_iff]
    decide
  have outer : matchingClose? innerElement 0 "a" 6 = some 5 := by
    simp [matchingClose?, closeIndex?, innerElement, Piece.closes, Piece.opens, own, upper, stray]
  have inner : matchingClose? innerElement 1 "A" 6 = some 3 := by
    simp [matchingClose?, closeIndex?, innerElement, Piece.closes, Piece.opens, lower]
  refine ⟨(brackets.least 0 "a" 6 5).mp outer, (brackets.least 1 "A" 6 3).mp inner, ?_⟩
  rw [brackets.shrunk 0 "a" 6 5 (by decide), outer]
  rfl

end SceneMarkup.Markup
