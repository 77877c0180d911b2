import SceneMarkup.Text.Suffix

/-!
Contract: splitting a text into recognised items and the plain stretches between them.

Owns:
- `Recogniser`, a reader of one item at the beginning of a text that always advances;
- `Recogniser.stretches`, the items found from left to right, with the text between two items in
  one piece;
- the law that the sources of the stretches make up the text.

Does not own: any particular kind of item.
-/

namespace SceneMarkup.Text

/-- Reads an item at the beginning of a text; with the item comes the text behind it. -/
structure Recogniser (α : Type) where
  read : List Char → Option (α × List Char)
  advances : ∀ {text item behind}, read text = some (item, behind) → ProperSuffix behind text

/-- A part of a text: an item or the text between two items, each with the characters it is
written with. -/
inductive Stretch (α : Type) where
  | item (value : α) (source : List Char)
  | plain (source : List Char)
deriving DecidableEq, Repr

namespace Stretch

def source {α : Type} : Stretch α → List Char
  | item _ source => source
  | plain source => source

end Stretch

/-- The beginning of a text in front of one of its ends. -/
def readPart (text behind : List Char) : List Char := text.take (text.length - behind.length)

/-- The part read and the text behind it make up the text. -/
theorem readPart_append {text behind : List Char} (suffix : behind <:+ text) :
    readPart text behind ++ behind = text := by
  obtain ⟨start, rfl⟩ := suffix
  simp [readPart]

namespace Recogniser

variable {α : Type} (recogniser : Recogniser α)

/-- The text up to the next item, behind the characters already passed over, and the text from
that item on. -/
def plainFrom (reversed : List Char) : List Char → List Char × List Char
  | [] => (reversed.reverse, [])
  | character :: rest =>
    if (recogniser.read (character :: rest)).isSome then (reversed.reverse, character :: rest)
    else plainFrom (character :: reversed) rest

/-- Passing over plain text loses nothing. -/
theorem plainFrom_append (reversed text : List Char) :
    (recogniser.plainFrom reversed text).1 ++ (recogniser.plainFrom reversed text).2 =
      reversed.reverse ++ text := by
  induction text generalizing reversed with
  | nil => simp [plainFrom]
  | cons character rest inductionHypothesis =>
    rw [plainFrom]
    split
    · rfl
    · rw [inductionHypothesis]
      simp

theorem plainFrom_suffix (reversed text : List Char) :
    (recogniser.plainFrom reversed text).2 <:+ text := by
  induction text generalizing reversed with
  | nil => simp [plainFrom]
  | cons character rest inductionHypothesis =>
    rw [plainFrom]
    split
    · exact List.suffix_rfl
    · exact (inductionHypothesis _).trans (List.suffix_cons _ _)

/-- The items of a text from left to right and the plain stretches between them. -/
def stretches (text : List Char) : List (Stretch α) :=
  match text with
  | [] => []
  | character :: rest =>
    match _found : recogniser.read (character :: rest) with
    | some (item, behind) =>
      .item item (readPart (character :: rest) behind) :: stretches behind
    | none =>
      .plain (recogniser.plainFrom [character] rest).1
        :: stretches (recogniser.plainFrom [character] rest).2
termination_by text.length
decreasing_by
  · exact (recogniser.advances _found).length_lt
  · exact (properSuffix_cons character (recogniser.plainFrom_suffix [character] rest)).length_lt

/-- The sources of the stretches, in order, make up the text. -/
theorem flatMap_source_stretches (text : List Char) :
    (recogniser.stretches text).flatMap Stretch.source = text := by
  fun_induction recogniser.stretches text with
  | case1 => rfl
  | case2 character rest item behind found inductionHypothesis =>
    rw [List.flatMap_cons, inductionHypothesis]
    exact readPart_append (recogniser.advances found).suffix
  | case3 character rest found inductionHypothesis =>
    rw [List.flatMap_cons, inductionHypothesis]
    simpa [Stretch.source] using recogniser.plainFrom_append [character] rest

/-- Every item among the stretches was read somewhere in the text. -/
theorem exists_read_of_mem_stretches {text : List Char} {value : α} {source : List Char}
    (member : .item value source ∈ recogniser.stretches text) :
    ∃ here behind, here <:+ text ∧ recogniser.read here = some (value, behind)
      ∧ source = readPart here behind := by
  fun_induction recogniser.stretches text with
  | case1 => cases member
  | case2 character rest item behind found inductionHypothesis =>
    rcases List.mem_cons.mp member with same | later
    · cases same
      exact ⟨_, _, List.suffix_rfl, found, rfl⟩
    · obtain ⟨here, left, suffix, read, same⟩ := inductionHypothesis later
      exact ⟨here, left, suffix.trans (recogniser.advances found).suffix, read, same⟩
  | case3 character rest found inductionHypothesis =>
    rcases List.mem_cons.mp member with same | later
    · cases same
    · obtain ⟨here, left, suffix, read, same⟩ := inductionHypothesis later
      exact ⟨here, left, (suffix.trans (recogniser.plainFrom_suffix _ _)).trans
        (List.suffix_cons _ _), read, same⟩

end Recogniser

theorem length_readPart_le (text behind : List Char) :
    (readPart text behind).length ≤ text.length := by
  simp only [readPart, List.length_take]
  omega

end SceneMarkup.Text
