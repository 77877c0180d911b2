import SceneMarkup.Markup.Comment
import SceneMarkup.Markup.Tag
import SceneMarkup.Text.Stretch

/-!
Contract: markup source as a sequence of pieces.

Owns:
- `Piece`, a tag, a text run or a comment with its source and its byte position;
- the strict scan, in which a tag without an end is an error, and the lenient one, in which it is
  text;
- the tokens of a source, which are its pieces other than comments.

Does not own: which tags belong together.
-/

namespace SceneMarkup.Markup

open SceneMarkup.Text

/-- What a piece of source is. -/
inductive Mark where
  | opening (tag : OpeningTag)
  | closing (name : String)
  | text
  | comment
  /-- A tag that has no end, with all that follows. -/
  | unterminated
deriving DecidableEq, Repr

/-- A range of byte positions, the last excluded. -/
structure Span where
  start : Nat
  stop : Nat
deriving DecidableEq, Repr

/-- The number of bytes that encode a text. -/
def byteCount : List Char → Nat
  | [] => 0
  | character :: rest => character.utf8Size + byteCount rest

@[simp] theorem byteCount_nil : byteCount [] = 0 := rfl

@[simp] theorem byteCount_cons (character : Char) (rest : List Char) :
    byteCount (character :: rest) = character.utf8Size + byteCount rest := rfl

@[simp] theorem byteCount_append (left right : List Char) :
    byteCount (left ++ right) = byteCount left + byteCount right := by
  induction left with
  | nil => simp
  | cons character rest inductionHypothesis =>
    rw [List.cons_append, byteCount_cons, byteCount_cons, inductionHypothesis, Nat.add_assoc]

structure Piece where
  mark : Mark
  source : List Char
  /-- The byte position at which the piece begins. -/
  start : Nat
deriving DecidableEq, Repr

namespace Piece

def span (piece : Piece) : Span := ⟨piece.start, piece.start + byteCount piece.source⟩

/-- Whether the piece is a text run without anything but blanks. -/
def isBlankText (piece : Piece) : Bool := piece.mark == .text && allBlank piece.source

end Piece

def sourceOf (pieces : List Piece) : List Char := pieces.flatMap Piece.source

@[simp] theorem sourceOf_nil : sourceOf [] = [] := rfl

@[simp] theorem sourceOf_cons (piece : Piece) (rest : List Piece) :
    sourceOf (piece :: rest) = piece.source ++ sourceOf rest := List.flatMap_cons

@[simp] theorem sourceOf_append (pieces others : List Piece) :
    sourceOf (pieces ++ others) = sourceOf pieces ++ sourceOf others := List.flatMap_append

@[simp] theorem sourceOf_take_append_drop (count : Nat) (pieces : List Piece) :
    sourceOf (pieces.take count) ++ sourceOf (pieces.drop count) = sourceOf pieces := by
  rw [← sourceOf_append, List.take_append_drop]

/-- How a tag without an end is treated. -/
inductive Recovery where
  | strict
  | lenient
deriving DecidableEq, Repr

/-- The piece that a tag start without an end makes: everything, or none. -/
def Recovery.brokenTag : Recovery → Option (Mark × List Char)
  | .strict => some (.unterminated, [])
  | .lenient => none

/-- The comment or tag at the beginning of a text, and the text behind it. A `<` counts as the
start of a tag only if a name follows, behind a slash for a closing tag. -/
def mark? (recovery : Recovery) (text : List Char) : Option (Mark × List Char) :=
  match behindComment? text with
  | some behind => some (.comment, behind)
  | none =>
    match text with
    | '<' :: '/' :: rest =>
      if startsName rest then
        match closingTag? rest with
        | some (name, behind) => some (.closing name, behind)
        | none => recovery.brokenTag
      else none
    | '<' :: rest =>
      if startsName rest then
        match openingTag? rest with
        | some (tag, behind) => some (.opening tag, behind)
        | none => recovery.brokenTag
      else none
    | _ => none

/-- Behind a broken tag there is a proper end of every text that is not empty. -/
theorem properSuffix_of_brokenTag {recovery : Recovery} {mark : Mark} {text behind : List Char}
    (broken : recovery.brokenTag = some (mark, behind)) (nonempty : text ≠ []) :
    ProperSuffix behind text := by
  cases recovery with
  | strict =>
    cases broken
    exact ⟨List.nil_suffix, by simpa using List.length_pos_iff.mpr nonempty⟩
  | lenient => cases broken

theorem properSuffix_of_mark? {recovery : Recovery} {text behind : List Char} {mark : Mark}
    (read : mark? recovery text = some (mark, behind)) : ProperSuffix behind text := by
  unfold mark? at read
  split at read
  · rename_i commented
    cases read
    exact properSuffix_of_behindComment? commented
  · split at read
    · split at read
      · split at read
        · rename_i closed
          cases read
          exact properSuffix_cons _
            ((properSuffix_of_closingTag? closed).suffix.trans (List.suffix_cons _ _))
        · exact properSuffix_of_brokenTag read (List.cons_ne_nil _ _)
      · cases read
    · split at read
      · split at read
        · rename_i opened
          cases read
          exact properSuffix_cons _ (properSuffix_of_openingTag? opened).suffix
        · exact properSuffix_of_brokenTag read (List.cons_ne_nil _ _)
      · cases read
    · cases read

def marks (recovery : Recovery) : Recogniser Mark := ⟨mark? recovery, properSuffix_of_mark?⟩

/-- The stretches of a source as pieces, the first at a byte position. -/
def located (start : Nat) : List (Stretch Mark) → List Piece
  | [] => []
  | .item mark source :: rest => ⟨mark, source, start⟩ :: located (start + byteCount source) rest
  | .plain source :: rest => ⟨.text, source, start⟩ :: located (start + byteCount source) rest

def pieces (recovery : Recovery) (source : List Char) : List Piece :=
  located 0 ((marks recovery).stretches source)

/-- A tag that has no end: its name and the byte position of its `<`. -/
structure UnterminatedTag where
  tag : String
  offset : Nat
deriving DecidableEq, Repr

/-- The name of the tag whose start is at the beginning of a text. -/
def startedName : List Char → String
  | '<' :: '/' :: rest => String.ofList (tagName rest)
  | '<' :: rest => String.ofList (tagName rest)
  | text => String.ofList (tagName text)

/-- The pieces of a source, unless one of its tags has no end. -/
def strictPieces (source : List Char) : Except UnterminatedTag (List Piece) :=
  let all := pieces .strict source
  match all.find? fun piece => piece.mark == .unterminated with
  | some piece => .error ⟨startedName piece.source, piece.start⟩
  | none => .ok all

/-- The pieces of a source in which tags without an end are text. -/
def lenientPieces (source : List Char) : List Piece := pieces .lenient source

def tokensOf (pieces : List Piece) : List Piece := pieces.filter fun piece => piece.mark != .comment

@[simp] theorem tokensOf_nil : tokensOf [] = [] := rfl

@[simp] theorem tokensOf_append (left right : List Piece) :
    tokensOf (left ++ right) = tokensOf left ++ tokensOf right := List.filter_append left right

theorem tokensOf_cons (piece : Piece) (rest : List Piece) :
    tokensOf (piece :: rest) =
      if piece.mark = .comment then tokensOf rest else piece :: tokensOf rest := by
  by_cases comment : piece.mark = .comment <;> simp [tokensOf, comment]

@[simp] theorem tokensOf_cons_of_comment {piece : Piece} (comment : piece.mark = .comment)
    (rest : List Piece) : tokensOf (piece :: rest) = tokensOf rest := by
  rw [tokensOf_cons, if_pos comment]

@[simp] theorem tokensOf_cons_of_ne {piece : Piece} (token : piece.mark ≠ .comment)
    (rest : List Piece) : tokensOf (piece :: rest) = piece :: tokensOf rest := by
  rw [tokensOf_cons, if_neg token]

/-- The tokens of a source, unless one of its tags has no end. -/
def tokenize (source : String) : Except UnterminatedTag (List Piece) :=
  (strictPieces source.toList).map tokensOf

/-- The tokens of a source in which tags without an end are text. -/
def tokenizeLenient (source : String) : List Piece := tokensOf (lenientPieces source.toList)

theorem sourceOf_located (start : Nat) (stretches : List (Stretch Mark)) :
    sourceOf (located start stretches) = stretches.flatMap Stretch.source := by
  induction stretches generalizing start with
  | nil => rfl
  | cons stretch rest inductionHypothesis =>
    cases stretch <;> simp [located, Stretch.source, inductionHypothesis]

/-- The sources of the pieces, in order, make up the source. -/
theorem sourceOf_pieces (recovery : Recovery) (source : List Char) :
    sourceOf (pieces recovery source) = source := by
  rw [pieces, sourceOf_located, Recogniser.flatMap_source_stretches]

end SceneMarkup.Markup
