import SceneMarkup.Proofs.Markup.Scanning
import SceneMarkup.Proofs.Markup.WrittenTag

/-!
Contract: well-formed documents as an author writes them, and the outline read from them.

Owns:
- `WrittenElement`, a tree of built-in elements with the plain runs between them;
- the pieces and the outline of a written element;
- the theorems that the scan gives these pieces and the count of open elements this outline.

Does not own: the nodes of the elements.
-/

namespace SceneMarkup.Markup

open SceneMarkup.Text

/-! ### Written forms -/

/-- Plain text, which consists of blanks where nothing else may stand. -/
structure PlainRun (onlyBlanks : Bool) where
  text : List Char
  untagged : '<' ∉ text
  unbraced : '\x7b' ∉ text
  blank : onlyBlanks = true → allBlank text = true

mutual
/-- A built-in element: a tag that closes itself, a text element around one plain run, or an element
around others. -/
inductive WrittenElement where
  | void (tag : WrittenTag)
  | verbatim (tag : WrittenTag) (isText : tag.kind = .text) (run : PlainRun false)
      (close : WrittenEnd tag)
  | paired (tag : WrittenTag) (content : WrittenContent (tag.kind == .text))
      (close : WrittenEnd tag)

/-- Elements side by side with the plain runs around them, which may be empty. -/
inductive WrittenContent : (onlyBlanks : Bool) → Type where
  | last {onlyBlanks : Bool} (run : PlainRun onlyBlanks) : WrittenContent onlyBlanks
  | next {onlyBlanks : Bool} (run : PlainRun onlyBlanks) (element : WrittenElement)
      (rest : WrittenContent onlyBlanks) : WrittenContent onlyBlanks
end

mutual
def WrittenElement.text : WrittenElement → List Char
  | .void tag => tag.text true
  | .verbatim tag _ run close => tag.text false ++ (run.text ++ close.text)
  | .paired tag content close => tag.text false ++ (content.text ++ close.text)

/-- The characters between the tags of an element. -/
def WrittenContent.text {onlyBlanks : Bool} : WrittenContent onlyBlanks → List Char
  | .last run => run.text
  | .next run element rest => run.text ++ (element.text ++ rest.text)
end

/-! ### Pieces -/

/-- The piece of a plain run; an empty run makes none. -/
def PlainRun.pieces {onlyBlanks : Bool} (run : PlainRun onlyBlanks) (start : Nat) : List Piece :=
  if run.text = [] then [] else [⟨.text, run.text, start⟩]

def WrittenTag.piece (tag : WrittenTag) (selfClosing : Bool) (start : Nat) : Piece :=
  ⟨.opening (tag.tag selfClosing), tag.text selfClosing, start⟩

def WrittenEnd.piece {tag : WrittenTag} (close : WrittenEnd tag) (start : Nat) : Piece :=
  ⟨.closing close.name, close.text, start⟩

/-- The byte position behind an opening tag. -/
def WrittenTag.stop (tag : WrittenTag) (start : Nat) : Nat := start + byteCount (tag.text false)

mutual
def WrittenElement.pieces (start : Nat) : WrittenElement → List Piece
  | .void tag => [tag.piece true start]
  | .verbatim tag _ run close => tag.piece false start :: (run.pieces (tag.stop start) ++
      [close.piece (tag.stop start + byteCount run.text)])
  | .paired tag content close => tag.piece false start :: (content.pieces (tag.stop start) ++
      [close.piece (tag.stop start + byteCount content.text)])

def WrittenContent.pieces {onlyBlanks : Bool} (start : Nat) :
    WrittenContent onlyBlanks → List Piece
  | .last run => run.pieces start
  | .next run element rest => run.pieces start ++
      (element.pieces (start + byteCount run.text) ++
        rest.pieces (start + byteCount run.text + byteCount element.text))
end

/-! ### Scan -/

section Scan

variable {recovery : Recovery} {onlyBlanks : Bool}

theorem unread_of_plain {plain : List Char} (untagged : '<' ∉ plain) (unbraced : '\x7b' ∉ plain)
    (behind : List Char) : (marks recovery).Unread behind plain := by
  induction plain with
  | nil => exact trivial
  | cons character plain inductionHypothesis =>
    rw [List.mem_cons, not_or] at untagged unbraced
    refine ⟨?_, inductionHypothesis untagged.2 unbraced.2⟩
    show mark? recovery (character :: (plain ++ behind)) = none
    rw [mark?, behindComment?, commentForm_of_plain (Ne.symm untagged.1) (Ne.symm unbraced.1),
      Option.map_none]
    · exact fun rest same => untagged.1 (List.cons.inj same).1.symm
    · exact fun rest same => untagged.1 (List.cons.inj same).1.symm

theorem piecesAt_run (run : PlainRun onlyBlanks) {behind : List Char}
    (stops : (marks recovery).Stops behind) (start : Nat) :
    piecesAt recovery start (run.text ++ behind) =
      run.pieces start ++ piecesAt recovery (start + byteCount run.text) behind := by
  by_cases empty : run.text = []
  · rw [PlainRun.pieces, if_pos empty, empty]
    rfl
  · rw [PlainRun.pieces, if_neg empty,
      piecesAt_plain empty (unread_of_plain run.untagged run.unbraced behind) stops]
    rfl

/-- An element begins with its opening tag. -/
theorem exists_text_of_element (element : WrittenElement) (behind : List Char) :
    ∃ tag selfClosing rest,
      element.text ++ behind = WrittenTag.text tag selfClosing ++ rest := by
  cases element with
  | void tag => exact ⟨tag, true, behind, rfl⟩
  | verbatim tag isText run close =>
    rw [WrittenElement.text, List.append_assoc]
    exact ⟨tag, false, _, rfl⟩
  | paired tag content close =>
    rw [WrittenElement.text, List.append_assoc]
    exact ⟨tag, false, _, rfl⟩

/-- Plain text ends at every element. -/
theorem stops_element (element : WrittenElement) (behind : List Char) :
    (marks recovery).Stops (element.text ++ behind) := by
  obtain ⟨tag, selfClosing, rest, begins⟩ := exists_text_of_element element behind
  rw [begins]
  exact stops_of_mark? (mark?_text recovery tag selfClosing rest)

theorem stops_end {tag : WrittenTag} (close : WrittenEnd tag) (behind : List Char) :
    (marks recovery).Stops (close.text ++ behind) :=
  stops_of_mark? (mark?_end recovery close behind)

theorem piecesAt_tag (tag : WrittenTag) (selfClosing : Bool) (start : Nat) (behind : List Char) :
    piecesAt recovery start (tag.text selfClosing ++ behind) =
      tag.piece selfClosing start ::
        piecesAt recovery (start + byteCount (tag.text selfClosing)) behind := by
  rw [piecesAt_of_mark? (mark?_text recovery tag selfClosing behind), readPart_of_append]
  rfl

theorem piecesAt_end {tag : WrittenTag} (close : WrittenEnd tag) (start : Nat)
    (behind : List Char) :
    piecesAt recovery start (close.text ++ behind) =
      close.piece start :: piecesAt recovery (start + byteCount close.text) behind := by
  rw [piecesAt_of_mark? (mark?_end recovery close behind), readPart_of_append]
  rfl

mutual
/-- The scan gives the pieces of an element and goes on behind it. -/
theorem piecesAt_element (element : WrittenElement) (start : Nat) (behind : List Char) :
    piecesAt recovery start (element.text ++ behind) =
      element.pieces start ++ piecesAt recovery (start + byteCount element.text) behind := by
  match element with
  | .void tag =>
    rw [WrittenElement.text, WrittenElement.pieces, piecesAt_tag]
    rfl
  | .verbatim tag _ run close =>
    simp [WrittenElement.text, WrittenElement.pieces, WrittenTag.stop, piecesAt_tag,
      piecesAt_run run (stops_end close behind), piecesAt_end, Nat.add_assoc]
  | .paired tag content close =>
    simp [WrittenElement.text, WrittenElement.pieces, WrittenTag.stop, piecesAt_tag,
      piecesAt_content content _ (stops_end close behind), piecesAt_end, Nat.add_assoc]

theorem piecesAt_content {onlyBlanks : Bool} (content : WrittenContent onlyBlanks) (start : Nat)
    {behind : List Char} (stops : (marks recovery).Stops behind) :
    piecesAt recovery start (content.text ++ behind) =
      content.pieces start ++ piecesAt recovery (start + byteCount content.text) behind := by
  match content with
  | .last run => rw [WrittenContent.text, WrittenContent.pieces, piecesAt_run run stops]
  | .next run element rest =>
    simp [WrittenContent.text, WrittenContent.pieces,
      piecesAt_run run (stops_element element _), piecesAt_element element,
      piecesAt_content rest _ stops, Nat.add_assoc]
end

end Scan

theorem ended_run {onlyBlanks : Bool} (run : PlainRun onlyBlanks) (start : Nat) :
    ∀ piece ∈ run.pieces start, piece.mark ≠ .unterminated := by
  unfold PlainRun.pieces
  split
  · exact fun piece member => absurd member List.not_mem_nil
  · intro piece member
    rw [List.mem_singleton.mp member]
    exact Mark.noConfusion

/-- Around pieces whose tags have an end stand two tags that have one. -/
theorem ended_pair (tag : WrittenTag) (close : WrittenEnd tag) {content : List Piece}
    (inside : ∀ piece ∈ content, piece.mark ≠ .unterminated) (start stop : Nat) :
    ∀ piece ∈ tag.piece false start :: (content ++ [close.piece stop]),
      piece.mark ≠ .unterminated := by
  intro piece member
  rcases List.mem_cons.mp member with rfl | member
  · exact Mark.noConfusion
  rcases List.mem_append.mp member with member | member
  · exact inside piece member
  · rw [List.mem_singleton.mp member]
    exact Mark.noConfusion

mutual
theorem ended_element (element : WrittenElement) (start : Nat) :
    ∀ piece ∈ element.pieces start, piece.mark ≠ .unterminated := by
  match element with
  | .void tag =>
    intro piece member
    rw [List.mem_singleton.mp member]
    exact Mark.noConfusion
  | .verbatim tag _ run close => exact ended_pair tag close (ended_run run _) _ _
  | .paired tag content close => exact ended_pair tag close (ended_content content _) _ _

theorem ended_content {onlyBlanks : Bool} (content : WrittenContent onlyBlanks) (start : Nat) :
    ∀ piece ∈ content.pieces start, piece.mark ≠ .unterminated := by
  match content with
  | .last run => exact ended_run run start
  | .next run element rest =>
    intro piece member
    rcases List.mem_append.mp member with member | member
    · exact ended_run run _ piece member
    rcases List.mem_append.mp member with member | member
    · exact ended_element element _ piece member
    · exact ended_content rest _ piece member
end

/-! ### Outline -/

mutual
/-- The outline of an element at a byte position. -/
def WrittenElement.outline (start : Nat) : WrittenElement → Element
  | .void tag => .mk (tag.tag true) start none []
  | .verbatim tag _ run _ => .mk (tag.tag false) start (some (run.pieces (tag.stop start))) []
  | .paired tag content _ => .mk (tag.tag false) start (some (content.pieces (tag.stop start)))
      (content.outlines (tag.stop start))

def WrittenContent.outlines {onlyBlanks : Bool} (start : Nat) :
    WrittenContent onlyBlanks → List Element
  | .last _ => []
  | .next run element rest => element.outline (start + byteCount run.text) ::
      rest.outlines (start + byteCount run.text + byteCount element.text)
end

theorem balanced_run {onlyBlanks : Bool} (run : PlainRun onlyBlanks) (start : Nat) :
    Balanced (run.pieces start) := by
  unfold PlainRun.pieces
  split
  · exact balanced_nil
  · exact balanced_singleton (fun _ => rfl) (fun _ => rfl)

mutual
/-- A count of open elements passes over a whole element. -/
theorem balanced_element (element : WrittenElement) (start : Nat) :
    Balanced (element.pieces start) := by
  match element with
  | .void tag => exact balanced_singleton (fun _ => rfl) (fun _ => rfl)
  | .verbatim tag _ run close =>
    exact (balanced_run run _).enclosed rfl rfl rfl close.sameName
  | .paired tag content close =>
    exact (balanced_content content _).enclosed rfl rfl rfl close.sameName

theorem balanced_content {onlyBlanks : Bool} (content : WrittenContent onlyBlanks) (start : Nat) :
    Balanced (content.pieces start) := by
  match content with
  | .last run => exact balanced_run run start
  | .next run element rest =>
    exact (balanced_run run start).append
      ((balanced_element element _).append (balanced_content rest _))
end

/-- A text between elements makes no element. -/
theorem elements_run {onlyBlanks : Bool} (run : PlainRun onlyBlanks) (start : Nat)
    (behind : List Piece) : elements (run.pieces start ++ behind) = elements behind := by
  unfold PlainRun.pieces
  split
  · rfl
  · rw [List.cons_append, List.nil_append, elements]

theorem elements_void (tag : WrittenTag) (start : Nat) (behind : List Piece) :
    elements (tag.piece true start :: behind) =
      .mk (tag.tag true) start none [] :: elements behind := by
  rw [elements]
  rfl

/-- Two tags around balanced pieces are an element with these pieces as its content. -/
theorem elements_pair (tag : WrittenTag) (close : WrittenEnd tag) {content : List Piece}
    (inside : Balanced content) (start stop : Nat) (behind : List Piece) :
    elements (tag.piece false start :: (content ++ close.piece stop :: behind)) =
      .mk (tag.tag false) start (some content) (elements content) :: elements behind := by
  have closed : closeOf? (tag.tag false) (content ++ close.piece stop :: behind) =
      some content.length :=
    closeOf?_of_balanced inside rfl rfl close.sameName behind
  rw [elements]
  simp only [WrittenTag.piece, closed, List.take_left]
  rw [← List.drop_drop, List.drop_left, List.drop_one, List.tail_cons]

mutual
/-- The outline of an element comes in front of the elements behind it. -/
theorem elements_element (element : WrittenElement) (start : Nat) (behind : List Piece) :
    elements (element.pieces start ++ behind) = element.outline start :: elements behind := by
  match element with
  | .void tag => exact elements_void tag start behind
  | .verbatim tag _ run close =>
    have inside := elements_run run (tag.stop start) []
    rw [List.append_nil, elements] at inside
    rw [WrittenElement.pieces, List.cons_append, List.append_assoc, List.cons_append,
      List.nil_append, elements_pair tag close (balanced_run run _), inside]
    rfl
  | .paired tag content close =>
    have inside := elements_content content (tag.stop start) []
    rw [List.append_nil, elements, List.append_nil] at inside
    rw [WrittenElement.pieces, List.cons_append, List.append_assoc, List.cons_append,
      List.nil_append, elements_pair tag close (balanced_content content _), inside]
    rfl

theorem elements_content {onlyBlanks : Bool} (content : WrittenContent onlyBlanks) (start : Nat)
    (behind : List Piece) :
    elements (content.pieces start ++ behind) = content.outlines start ++ elements behind := by
  match content with
  | .last run => exact elements_run run start behind
  | .next run element rest =>
    rw [WrittenContent.pieces, List.append_assoc, List.append_assoc, elements_run,
      elements_element, elements_content rest]
    rfl
end

/-! ### Sources -/

theorem sourceOf_run {onlyBlanks : Bool} (run : PlainRun onlyBlanks) (start : Nat) :
    sourceOf (run.pieces start) = run.text := by
  have scanned : piecesAt .strict start run.text = run.pieces start := by
    simpa using @piecesAt_run .strict _ run [] (Or.inl rfl) start
  rw [← scanned, sourceOf_piecesAt]

theorem sourceOf_content {onlyBlanks : Bool} (content : WrittenContent onlyBlanks) (start : Nat) :
    sourceOf (content.pieces start) = content.text := by
  have scanned : piecesAt .strict start content.text = content.pieces start := by
    simpa using @piecesAt_content .strict _ content start [] (Or.inl rfl)
  rw [← scanned, sourceOf_piecesAt]

end SceneMarkup.Markup
