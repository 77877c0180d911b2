import SceneMarkup.Markup.Comment
import SceneMarkup.Markup.Tag
import SceneMarkup.Text.Stretch

/-!
Contract: the parts of a component body.

Owns:
- `Segment`, a comment, a placeholder or a slot;
- the recognition of slot elements, which stops at the next `<` and not at the end of the body;
- the recognisers with and without slots.

Does not own: what replaces a part.
-/

namespace SceneMarkup.Template

open SceneMarkup.Text SceneMarkup.Markup

/-- A part of a body that is not plain text. -/
inductive Segment where
  | comment
  /-- An expression in braces, without the braces. -/
  | placeholder (inner : List Char)
  /-- A slot with its name, if it has one, and the content it shows when nothing fills it. -/
  | slot (name : Option String) (fallback : List Char)
  /-- A slot tag that has no end. -/
  | malformed
deriving DecidableEq, Repr

/-- Whether a text begins with the word `slot` in letters of either case. -/
def startsSlotWord : List Char → Bool
  | s :: l :: o :: t :: _ =>
    s.toLower == 's' && l.toLower == 'l' && o.toLower == 'o' && t.toLower == 't'
  | _ => false

/-- Whether a text begins like the opening tag of a slot. -/
def startsSlotTag : List Char → Bool
  | '<' :: rest =>
    startsSlotWord rest
      && (rest.drop 4).head?.all fun next => isBlank next || next == '/' || next == '>'
  | _ => false

/-- The text behind the `>` that ends a tag, given the open quote or the number of open braces.
Between quotes and braces every character counts as part of a value; elsewhere a `<` shows that the
tag has no end. -/
def behindTagEnd? : (quote : Option Char) → (braces : Nat) → List Char → Option (List Char)
  | _, _, [] => none
  | some quote, braces, character :: rest =>
    behindTagEnd? (if character = quote then none else some quote) braces rest
  | none, braces + 1, character :: rest =>
    if character = '\x7b' then behindTagEnd? none (braces + 2) rest
    else if character = '\x7d' then behindTagEnd? none braces rest
    else behindTagEnd? none (braces + 1) rest
  | none, 0, character :: rest =>
    if character = '"' ∨ character = '\'' then behindTagEnd? (some character) 0 rest
    else if character = '\x7b' then behindTagEnd? none 1 rest
    else if character = '<' then none
    else if character = '>' then some rest
    else behindTagEnd? none 0 rest

theorem suffix_of_behindTagEnd? {quote : Option Char} {braces : Nat} {text behind : List Char}
    (ended : behindTagEnd? quote braces text = some behind) : behind <:+ text := by
  fun_induction behindTagEnd? quote braces text with
  | case1 => cases ended
  | case8 => cases ended
  | case9 =>
    cases ended
    exact List.suffix_cons _ _
  | _ =>
    rename_i inductionHypothesis
    exact (inductionHypothesis ended).trans (List.suffix_cons _ _)

/-- The slot tag at the beginning of a text, and the text behind it. -/
def slotTag? (text : List Char) : Option (OpeningTag × List Char) :=
  match text with
  | [] => none
  | _ :: rest =>
    match behindTagEnd? none 0 rest with
    | none => none
    | some behind => (openingTag? (readPart rest behind)).map fun (tag, _) => (tag, behind)

theorem properSuffix_of_slotTag? {text behind : List Char} {tag : OpeningTag}
    (read : slotTag? text = some (tag, behind)) : ProperSuffix behind text := by
  unfold slotTag? at read
  split at read
  · cases read
  · split at read
    · cases read
    · rename_i ended
      obtain ⟨_, _, same⟩ := Option.map_eq_some_iff.mp read
      cases same
      exact properSuffix_cons _ (suffix_of_behindTagEnd? ended)

/-- Whether an element opens at the beginning of a text that only a closing slot tag ends. -/
def opensSlot (text : List Char) : Bool :=
  startsSlotTag text && (slotTag? text).any fun read => !read.1.selfClosing

/-- The text behind the closing slot tag that begins a text. -/
def closingSlot? (text : List Char) : Option (List Char) :=
  match text with
  | '<' :: '/' :: rest =>
    if startsSlotWord rest then
      match trimStart (rest.drop 4) with
      | '>' :: behind => some behind
      | _ => none
    else none
  | _ => none

theorem properSuffix_of_closingSlot? {text behind : List Char}
    (closed : closingSlot? text = some behind) : ProperSuffix behind text := by
  unfold closingSlot? at closed
  split at closed
  · rename_i rest
    split at closed
    · split at closed
      · rename_i trimmedEnd
        cases closed
        have left : trimStart (rest.drop 4) <:+ rest.drop 4 := List.dropWhile_suffix isBlank
        rw [trimmedEnd] at left
        exact properSuffix_cons _ ((((List.suffix_cons _ _).trans left).trans
          (List.drop_suffix 4 rest)).trans (List.suffix_cons _ _))
      · cases closed
    · cases closed
  · cases closed

/-- The closing tag that ends a slot with `depth` more slots open inside it: the text from that tag
on, and the text behind it. -/
def slotClose? (depth : Nat) (text : List Char) : Option (List Char × List Char) :=
  match text with
  | [] => none
  | character :: rest =>
    match _closed : closingSlot? (character :: rest) with
    | some behind =>
      match depth with
      | 0 => some (character :: rest, behind)
      | depth + 1 => slotClose? depth behind
    | none => slotClose? (if opensSlot (character :: rest) then depth + 1 else depth) rest
termination_by text.length
decreasing_by
  · exact (properSuffix_of_closingSlot? _closed).length_lt
  · simp

/-- The closing tag and what is behind it are ends of the text. -/
theorem suffix_of_slotClose? {depth : Nat} {text close behind : List Char}
    (closed : slotClose? depth text = some (close, behind)) :
    close <:+ text ∧ behind <:+ text := by
  fun_induction slotClose? depth text with
  | case1 => cases closed
  | case2 character rest behind found =>
    cases closed
    exact ⟨List.suffix_rfl, (properSuffix_of_closingSlot? found).suffix⟩
  | case3 character rest behind found depth inductionHypothesis =>
    have inside := (properSuffix_of_closingSlot? found).suffix
    exact ⟨(inductionHypothesis closed).1.trans inside, (inductionHypothesis closed).2.trans inside⟩
  | case4 depth character rest found inductionHypothesis =>
    exact ⟨(inductionHypothesis closed).1.trans (List.suffix_cons _ _),
      (inductionHypothesis closed).2.trans (List.suffix_cons _ _)⟩

/-- The text behind the first `>`; nothing is left when there is none. -/
def behindFirstEnd (text : List Char) : List Char := (text.dropWhile (· ≠ '>')).drop 1

/-- The slot whose tag begins a text, and the text behind it. A slot without a closing tag has no
content. -/
def slotSegment (text : List Char) : Segment × List Char :=
  match slotTag? text with
  | none => (.malformed, behindFirstEnd text)
  | some (tag, behind) =>
    let name := tag.attributes.nonEmpty? "name"
    if tag.selfClosing then (.slot name [], behind)
    else
      match slotClose? 0 behind with
      | some (close, after) => (.slot name (readPart behind close), after)
      | none => (.slot name [], behind)

/-- The part at the beginning of a body, and the text behind it. Slots count where `slots` says
so. -/
def segment? (slots : Bool) (text : List Char) : Option (Segment × List Char) :=
  match behindComment? text with
  | some behind => some (.comment, behind)
  | none =>
    match text with
    | [] => none
    | character :: rest =>
      if character = '\x7b' then
        (bracedText? 0 rest).map fun (inner, behind) => (.placeholder inner, behind)
      else if slots && startsSlotTag text then some (slotSegment text)
      else none

theorem properSuffix_behindFirstEnd (character : Char) (rest : List Char) :
    ProperSuffix (behindFirstEnd (character :: rest)) (character :: rest) := by
  unfold behindFirstEnd
  have dropped : (character :: rest).dropWhile (fun letter => decide (letter ≠ '>')) <:+
      character :: rest := List.dropWhile_suffix _
  refine ⟨(List.drop_suffix 1 _).trans dropped, ?_⟩
  have := dropped.length_le
  simp only [List.length_drop, List.length_cons] at *
  omega

theorem properSuffix_slotSegment (character : Char) (rest : List Char) :
    ProperSuffix (slotSegment (character :: rest)).2 (character :: rest) := by
  unfold slotSegment
  split
  · exact properSuffix_behindFirstEnd character rest
  · rename_i read
    have tagged := properSuffix_of_slotTag? read
    simp only
    split
    · exact tagged
    · split
      · rename_i closed
        exact tagged.suffix_trans (suffix_of_slotClose? closed).2
      · exact tagged

theorem properSuffix_of_segment? {slots : Bool} {text behind : List Char} {segment : Segment}
    (read : segment? slots text = some (segment, behind)) : ProperSuffix behind text := by
  unfold segment? at read
  split at read
  · rename_i commented
    cases read
    exact properSuffix_of_behindComment? commented
  · split at read
    · cases read
    · split at read
      · obtain ⟨_, searched, same⟩ := Option.map_eq_some_iff.mp read
        cases same
        exact properSuffix_cons _ (properSuffix_of_bracedText? searched).suffix
      · split at read
        · have left : (slotSegment _).2 = behind := congrArg Prod.snd (Option.some.inj read)
          rw [← left]
          exact properSuffix_slotSegment _ _
        · cases read

/-- The content of a slot is shorter than the slot. -/
theorem length_fallback_lt {text behind fallback : List Char} {name : Option String}
    (read : segment? true text = some (.slot name fallback, behind)) :
    fallback.length < text.length := by
  have nonempty : 0 < text.length :=
    Nat.lt_of_le_of_lt (Nat.zero_le _) (properSuffix_of_segment? read).length_lt
  unfold segment? at read
  split at read
  · cases read
  · split at read
    · cases read
    · split at read
      · obtain ⟨_, _, same⟩ := Option.map_eq_some_iff.mp read
        cases same
      · split at read
        · have same := congrArg Prod.fst (Option.some.inj read)
          unfold slotSegment at same
          split at same
          · cases same
          · rename_i tagged
            have shorter := (properSuffix_of_slotTag? tagged).length_lt
            simp only at same
            split at same
            · cases same
              exact nonempty
            · split at same
              · cases same
                exact Nat.lt_of_le_of_lt (length_readPart_le _ _) shorter
              · cases same
                exact nonempty
        · cases read

def bodySegments : Recogniser Segment := ⟨segment? true, properSuffix_of_segment?⟩

/-- A slot among the segments of a body has less content than the body. -/
theorem length_fallback_lt_of_mem {body fallback source : List Char} {name : Option String}
    (member : .item (.slot name fallback) source ∈ bodySegments.stretches body) :
    fallback.length < body.length := by
  obtain ⟨here, behind, suffix, read, _⟩ := bodySegments.exists_read_of_mem_stretches member
  exact Nat.lt_of_lt_of_le (length_fallback_lt read) suffix.length_le

/-- The recogniser of comments and placeholders, to which slots are plain text. -/
def placeholderSegments : Recogniser Segment := ⟨segment? false, properSuffix_of_segment?⟩

end SceneMarkup.Template
