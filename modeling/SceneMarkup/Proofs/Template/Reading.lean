import SceneMarkup.Proofs.Template.WrittenBody
import SceneMarkup.Proofs.Text.Rewriting

/-!
Contract: the scans of a component body meet exactly the parts that are written.

Owns:
- the reading of one written part at the beginning of a text;
- plain text, which neither scan reads;
- the search for a closing slot tag, which passes over every written body.

Does not own: what replaces the parts.
-/

namespace SceneMarkup.Template

open SceneMarkup.Text SceneMarkup.Markup

/-! ### Comments and placeholders -/

/-- A comment ends with its own terminator. -/
theorem behindComment?_text (remark : BodyComment) (behind : List Char) :
    behindComment? (remark.text ++ behind) = some behind := by
  have whole : remark.text ++ behind = (remark.form.opener ++ ' ' :: (remark.inner ++ [' '])) ++
      (remark.form.terminator ++ behind) := by
    simp [BodyComment.text]
  have opened : CommentForm.of? (remark.text ++ behind) = some remark.form := by
    rw [whole]
    have known := remark.known
    simp only [List.mem_cons, List.not_mem_nil, or_false] at known
    rcases known with same | same <;> rw [same] <;> rfl
  have unspaced : ' ' ∉ remark.form.terminator ∧ remark.form.terminator ≠ [] ∧
      ¬ remark.form.terminator <:+: remark.form.opener ∧
        ¬ remark.form.terminator <:+: remark.form.terminator.dropLast := by
    have known := remark.known
    simp only [List.mem_cons, List.not_mem_nil, or_false] at known
    rcases known with same | same <;> rw [same] <;> decide
  obtain ⟨spaceless, nonempty, notInOpener, notInEnd⟩ := unspaced
  -- The two spaces keep the terminator from beginning in the opener or in the inner text.
  have first : ¬ remark.form.terminator <:+:
      (remark.form.opener ++ ' ' :: (remark.inner ++ [' '])) ++
        remark.form.terminator.dropLast := by
    intro occurs
    rw [List.append_assoc, List.cons_append, List.append_assoc] at occurs
    rcases infix_of_infix_append_cons spaceless occurs with inOpener | later
    · exact notInOpener inOpener
    · rcases infix_of_infix_append_cons spaceless later with inside | inEnd
      · exact remark.unterminated inside
      · exact notInEnd inEnd
  rw [behindComment?, opened, Option.map_some, CommentForm.behindTerminator, whole,
    cutAt?_eq_some nonempty first]

theorem segment?_comment (slots : Bool) (remark : BodyComment) (behind : List Char) :
    segment? slots (remark.text ++ behind) = some (.comment, behind) := by
  unfold segment?
  rw [behindComment?_text]

/-- Braces around text without braces are cut there. -/
theorem bracedText?_of_unbraced {inner : List Char} (opening : '\x7b' ∉ inner)
    (closing : '\x7d' ∉ inner) (behind : List Char) :
    bracedText? 0 (inner ++ '\x7d' :: behind) = some (inner, behind) := by
  induction inner with
  | nil => rfl
  | cons character inner inductionHypothesis =>
    rw [List.mem_cons, not_or] at opening closing
    rw [List.cons_append, bracedText?, inductionHypothesis opening.2 closing.2]
    · rfl
    · exact Ne.symm opening.1
    · intro _ same
      exact closing.1 same.symm
    · intro _ _ same
      exact closing.1 same.symm

/-- Braces around text without braces are a placeholder, unless they begin a comment. -/
theorem segment?_braced (slots : Bool) {inner : List Char}
    (unbraced : '\x7b' ∉ inner ∧ '\x7d' ∉ inner) (uncommented : ¬ ['/', '*'] <+: inner)
    (behind : List Char) :
    segment? slots ('\x7b' :: (inner ++ '\x7d' :: behind)) = some (.placeholder inner, behind) := by
  have quiet : ¬ ['/', '*'] <+: inner ++ '\x7d' :: behind := by
    intro occurs
    refine uncommented (prefix_of_prefix_append ?_ occurs)
    intro character same
    cases same
    decide
  rw [segment?, behindComment?, commentForm_of_brace quiet, Option.map_none]
  dsimp only
  rw [if_pos rfl, bracedText?_of_unbraced unbraced.1 unbraced.2, Option.map_some]

theorem segment?_placeholder (slots : Bool) (hole : BodyPlaceholder) (behind : List Char) :
    segment? slots (hole.text ++ behind) = some (.placeholder hole.inner, behind) := by
  have whole : hole.text ++ behind = '\x7b' :: (hole.inner ++ '\x7d' :: behind) := by
    simp [BodyPlaceholder.text]
  rw [whole, segment?_braced slots hole.unbraced hole.uncommented]

/-! ### Plain text -/

/-- No part begins at a character that begins no comment, no placeholder and no slot. -/
theorem segment?_eq_none {slots : Bool} {character : Char} {rest : List Char}
    (unbraced : character ≠ '\x7b') (quiet : rest.head? ≠ some '!')
    (unslotted : (slots && startsSlotTag (character :: rest)) = false) :
    segment? slots (character :: rest) = none := by
  unfold segment?
  rw [behindComment?, commentForm_of_inert unbraced quiet, Option.map_none]
  dsimp only
  rw [if_neg unbraced, unslotted, if_neg Bool.false_ne_true]

/-- Behind text without an exclamation mark comes none if none begins what follows. -/
theorem quiet_append {text behind : List Char} (quietText : '!' ∉ text)
    (quiet : behind.head? ≠ some '!') : (text ++ behind).head? ≠ some '!' := by
  cases text with
  | nil => exact quiet
  | cons first rest =>
    intro same
    cases same
    exact quietText (List.mem_cons_self ..)

theorem Inert.tail {character : Char} {rest : List Char} (inert : Inert (character :: rest)) :
    Inert rest :=
  ⟨fun member => inert.1 (List.mem_cons_of_mem _ member),
    fun member => inert.2 (List.mem_cons_of_mem _ member)⟩

theorem Inert.unbraced {character : Char} {rest : List Char} (inert : Inert (character :: rest)) :
    character ≠ '\x7b' := by
  rintro rfl
  exact inert.1 (List.mem_cons_self ..)

theorem unread_of_inert {text behind : List Char} (inert : Inert text)
    (quiet : behind.head? ≠ some '!') : placeholderSegments.Unread behind text := by
  induction text with
  | nil => exact trivial
  | cons character rest inductionHypothesis =>
    have quietRest := quiet_append inert.tail.2 quiet
    exact ⟨segment?_eq_none inert.unbraced quietRest rfl, inductionHypothesis inert.tail⟩

/-- What follows plain text in a body: nothing, or a character that no slot word contains. -/
def Breaks (behind : List Char) : Prop :=
  ∀ character, behind.head? = some character →
    character = ' ' ∨ character = '<' ∨ character = '\x7b'

theorem Breaks.quiet {behind : List Char} (breaks : Breaks behind) : behind.head? ≠ some '!' := by
  intro same
  rcases breaks _ same with impossible | impossible | impossible <;> revert impossible <;> decide

/-- A pattern of small letters and slashes does not reach behind plain text, in any case. -/
theorem lowered_prefix_of_breaks {pattern text behind : List Char}
    (letters : ∀ character ∈ pattern, character ∈ ['s', 'l', 'o', 't', '/'])
    (breaks : Breaks behind) (occurs : pattern <+: (text ++ behind).map Char.toLower) :
    pattern <+: text.map Char.toLower := by
  rw [List.map_append] at occurs
  refine prefix_of_prefix_append ?_ occurs
  intro character begins member
  rw [List.head?_map] at begins
  obtain ⟨first, same, rfl⟩ := Option.map_eq_some_iff.mp begins
  have letter := letters _ member
  rcases breaks first same with rfl | rfl | rfl <;> revert letter <;> decide

theorem Slotless.tail {character : Char} {rest : List Char}
    (slotless : Slotless (character :: rest)) : Slotless rest :=
  ⟨fun occurs => slotless.1 (List.infix_cons occurs),
    fun occurs => slotless.2 (List.infix_cons occurs)⟩

theorem lowered_of_startsSlotWord {text : List Char} (starts : startsSlotWord text = true) :
    ['s', 'l', 'o', 't'] <+: text.map Char.toLower := by
  unfold startsSlotWord at starts
  split at starts
  · simp only [Bool.and_eq_true, beq_iff_eq] at starts
    obtain ⟨⟨⟨s, l⟩, o⟩, t⟩ := starts
    simp [s, l, o, t]
  · cases starts

theorem startsSlotTag_of_slotless {character : Char} {rest behind : List Char}
    (slotless : Slotless (character :: rest)) (breaks : Breaks behind) :
    startsSlotTag (character :: (rest ++ behind)) = false := by
  rw [Bool.eq_false_iff]
  intro starts
  unfold startsSlotTag at starts
  split at starts
  · rename_i same
    obtain ⟨rfl, rfl⟩ := List.cons.inj same
    have word := lowered_of_startsSlotWord (Bool.and_eq_true_iff.mp starts).1
    have inside := lowered_prefix_of_breaks (by simp) breaks word
    exact slotless.1 (List.cons_prefix_cons.mpr ⟨rfl, inside⟩).isInfix
  · cases starts

theorem closingSlot?_of_slotless {character : Char} {rest behind : List Char}
    (slotless : Slotless (character :: rest)) (breaks : Breaks behind) :
    closingSlot? (character :: (rest ++ behind)) = none := by
  unfold closingSlot?
  split
  · rename_i word same
    obtain ⟨rfl, tail⟩ := List.cons.inj same
    split
    · rename_i starts
      have lowered : ['/', 's', 'l', 'o', 't'] <+: (rest ++ behind).map Char.toLower := by
        rw [tail, List.map_cons]
        exact List.cons_prefix_cons.mpr ⟨rfl, lowered_of_startsSlotWord starts⟩
      have inside := lowered_prefix_of_breaks (by simp) breaks lowered
      exact absurd (List.cons_prefix_cons.mpr ⟨rfl, inside⟩).isInfix slotless.2
    · rfl
  · rfl

/-- Plain text means nothing to a scan with slots either. -/
theorem unread_of_slotless {text behind : List Char} (inert : Inert text)
    (slotless : Slotless text) (breaks : Breaks behind) : bodySegments.Unread behind text := by
  induction text with
  | nil => exact trivial
  | cons character rest inductionHypothesis =>
    have quietRest := quiet_append inert.tail.2 breaks.quiet
    have unslotted := startsSlotTag_of_slotless slotless breaks
    exact ⟨segment?_eq_none inert.unbraced quietRest unslotted,
      inductionHypothesis inert.tail slotless.tail⟩

/-! ### Slot tags -/

/-- Characters without a meaning for the end of a tag are passed over. -/
theorem behindTagEnd?_plain {text : List Char}
    (plain : ∀ character ∈ text, character ∉ ['"', '\'', '\x7b', '<', '>']) (behind : List Char) :
    behindTagEnd? none 0 (text ++ behind) = behindTagEnd? none 0 behind := by
  induction text with
  | nil => rfl
  | cons character rest inductionHypothesis =>
    have here := plain character (List.mem_cons_self ..)
    simp only [List.mem_cons, List.not_mem_nil, or_false, not_or] at here
    obtain ⟨double, single, brace, angle, stop⟩ := here
    rw [List.cons_append, behindTagEnd?, if_neg (not_or.mpr ⟨double, single⟩), if_neg brace,
      if_neg angle, if_neg stop]
    exact inductionHypothesis fun other member => plain other (List.mem_cons_of_mem _ member)

theorem behindTagEnd?_quoted {value : List Char} (unquoted : '"' ∉ value) (behind : List Char) :
    behindTagEnd? (some '"') 0 (value ++ '"' :: behind) = behindTagEnd? none 0 behind := by
  induction value with
  | nil => rfl
  | cons character value inductionHypothesis =>
    rw [List.mem_cons, not_or] at unquoted
    rw [List.cons_append, behindTagEnd?, if_neg (Ne.symm unquoted.1)]
    exact inductionHypothesis unquoted.2

theorem behindTagEnd?_ending (selfClosing : Bool) (behind : List Char) :
    behindTagEnd? none 0 (WrittenTag.ending selfClosing ++ behind) = some behind := by
  cases selfClosing <;> rfl

theorem slotTag_text_none (selfClosing : Bool) : (slotTag none).text selfClosing =
    ['<', 's', 'l', 'o', 't'] ++ WrittenTag.ending selfClosing := rfl

theorem slotTag_text_some (name : SlotName) (selfClosing : Bool) :
    (slotTag (some name)).text selfClosing =
      ['<', 's', 'l', 'o', 't', ' ', 'n', 'a', 'm', 'e', '='] ++
        '"' :: (name.letters ++ '"' :: WrittenTag.ending selfClosing) := by
  simp [slotTag, WrittenTag.text, WrittenTag.body, QuotedAttribute.text, QuotedAttribute.pair,
    SlotName.quoted]

/-- A slot tag begins with a `<` and a small letter. -/
theorem exists_cons_of_slotTag (name : Option SlotName) (selfClosing : Bool) :
    ∃ rest, (slotTag name).text selfClosing = '<' :: 's' :: rest := by
  cases name with
  | none => exact ⟨_, rfl⟩
  | some written => exact ⟨_, slotTag_text_some written selfClosing⟩

theorem behindTagEnd?_slotTag (name : Option SlotName) (selfClosing : Bool) (behind : List Char) :
    behindTagEnd? none 0 (((slotTag name).text selfClosing).tail ++ behind) = some behind := by
  cases name with
  | none =>
    rw [slotTag_text_none, List.cons_append, List.tail_cons, List.append_assoc,
      behindTagEnd?_plain (by simp), behindTagEnd?_ending]
  | some written =>
    have unquoted : '"' ∉ written.letters := written.quoted.unquoted
    rw [slotTag_text_some, List.cons_append, List.tail_cons, List.append_assoc,
      behindTagEnd?_plain (by simp), List.cons_append, List.append_assoc, List.cons_append]
    change behindTagEnd? (some '"') 0 _ = _
    rw [behindTagEnd?_quoted unquoted, behindTagEnd?_ending]

/-- A slot tag is read as it is written. -/
theorem slotTag?_text (name : Option SlotName) (selfClosing : Bool) (behind : List Char) :
    slotTag? ((slotTag name).text selfClosing ++ behind) =
      some ((slotTag name).tag selfClosing, behind) := by
  have read := openingTag?_text (slotTag name) selfClosing []
  rw [List.append_nil] at read
  unfold slotTag?
  rw [WrittenTag.text, List.cons_append]
  dsimp only
  rw [show behindTagEnd? none 0 ((slotTag name).name.toList ++ ((slotTag name).body ++
    WrittenTag.ending selfClosing) ++ behind) = some behind from
      behindTagEnd?_slotTag name selfClosing behind]
  dsimp only
  rw [readPart_of_append, read]
  rfl

theorem startsSlotTag_text (name : Option SlotName) (selfClosing : Bool) (behind : List Char) :
    startsSlotTag ((slotTag name).text selfClosing ++ behind) = true := by
  cases name with
  | none => cases selfClosing <;> rfl
  | some written =>
    rw [slotTag_text_some]
    rfl

theorem nonEmpty?_slotTag (name : Option SlotName) (selfClosing : Bool) :
    ((slotTag name).tag selfClosing).attributes.nonEmpty? "name" =
      name.map fun written => String.ofList written.letters := by
  cases name with
  | none => rfl
  | some written =>
    have nonempty : String.ofList written.letters ≠ "" := by
      intro empty
      apply written.nonempty
      rw [← @String.toList_ofList written.letters, empty]
      rfl
    have named : sameWord (String.ofList ['n', 'a', 'm', 'e']) "name" = true := by decide +kernel
    simp [slotTag, WrittenTag.tag, SlotName.quoted, QuotedAttribute.entry, Attributes.nonEmpty?,
      Attributes.value?, named, nonempty]

/-! ### Search for a closing slot tag -/

/-- A character at which no slot tag begins is passed over. -/
theorem slotClose?_cons {depth : Nat} {character : Char} {rest : List Char}
    (unclosed : closingSlot? (character :: rest) = none)
    (unopened : opensSlot (character :: rest) = false) :
    slotClose? depth (character :: rest) = slotClose? depth rest := by
  rw [slotClose?]
  split
  · rename_i behind closed
    rw [unclosed] at closed
    cases closed
  · rw [unopened, if_neg Bool.false_ne_true]

theorem slotClose?_untagged {text : List Char} (untagged : '<' ∉ text) (depth : Nat)
    (behind : List Char) : slotClose? depth (text ++ behind) = slotClose? depth behind := by
  induction text with
  | nil => rfl
  | cons character rest inductionHypothesis =>
    rw [List.mem_cons, not_or] at untagged
    have unstarted : startsSlotTag (character :: (rest ++ behind)) = false := by
      unfold startsSlotTag
      split
      · rename_i same
        exact absurd (List.cons.inj same).1.symm untagged.1
      · rfl
    have unclosed : closingSlot? (character :: (rest ++ behind)) = none := by
      unfold closingSlot?
      split
      · rename_i same
        exact absurd (List.cons.inj same).1.symm untagged.1
      · rfl
    rw [List.cons_append, slotClose?_cons unclosed (by rw [opensSlot, unstarted, Bool.false_and])]
    exact inductionHypothesis untagged.2

theorem slotClose?_slotless {text behind : List Char} (slotless : Slotless text)
    (breaks : Breaks behind) (depth : Nat) :
    slotClose? depth (text ++ behind) = slotClose? depth behind := by
  induction text with
  | nil => rfl
  | cons character rest inductionHypothesis =>
    rw [List.cons_append, slotClose?_cons (closingSlot?_of_slotless slotless breaks)
      (by rw [opensSlot, startsSlotTag_of_slotless slotless breaks, Bool.false_and])]
    exact inductionHypothesis slotless.tail

theorem breaks_cons {character : Char} (rest : List Char)
    (broken : character = ' ' ∨ character = '<' ∨ character = '\x7b') :
    Breaks (character :: rest) := by
  intro first same
  cases same
  exact broken

theorem breaks_comment (remark : BodyComment) (behind : List Char) :
    Breaks (remark.text ++ behind) := by
  have known := remark.known
  simp only [List.mem_cons, List.not_mem_nil, or_false] at known
  rw [BodyComment.text]
  rcases known with same | same <;> rw [same]
  · exact breaks_cons _ (.inr (.inl rfl))
  · exact breaks_cons _ (.inr (.inr rfl))

theorem breaks_placeholder (hole : BodyPlaceholder) (behind : List Char) :
    Breaks (hole.text ++ behind) := breaks_cons _ (.inr (.inr rfl))

theorem breaks_slotTag (name : Option SlotName) (selfClosing : Bool) (behind : List Char) :
    Breaks ((slotTag name).text selfClosing ++ behind) := breaks_cons _ (.inr (.inl rfl))

theorem breaks_slot (name : Option SlotName) (fallback behind : List Char) :
    Breaks (slotText name fallback ++ behind) := breaks_cons _ (.inr (.inl rfl))

theorem breaks_slotEnd (behind : List Char) : Breaks (slotEnd ++ behind) :=
  breaks_cons _ (.inr (.inl rfl))

theorem slotClose?_comment (remark : BodyComment) (depth : Nat) (behind : List Char) :
    slotClose? depth (remark.text ++ behind) = slotClose? depth behind := by
  have frame : Slotless remark.form.opener ∧ '<' ∉ ' ' :: remark.form.terminator := by
    have known := remark.known
    simp only [List.mem_cons, List.not_mem_nil, or_false] at known
    unfold Slotless
    rcases known with same | same <;> rw [same] <;> decide
  have space : '<' ∉ [' '] := by decide
  have opener := slotClose?_slotless frame.1
    (breaks_cons ((remark.inner ++ ' ' :: remark.form.terminator) ++ behind) (.inl rfl)) depth
  have first := slotClose?_untagged space depth
    (remark.inner ++ (' ' :: remark.form.terminator ++ behind))
  have inner := slotClose?_slotless remark.slotless
    (breaks_cons (remark.form.terminator ++ behind) (.inl rfl)) depth
  rw [BodyComment.text, List.append_assoc, List.cons_append, opener, List.append_assoc]
  exact first.trans (inner.trans (slotClose?_untagged frame.2 depth behind))

theorem slotClose?_placeholder (hole : BodyPlaceholder) (depth : Nat) (behind : List Char) :
    slotClose? depth (hole.text ++ behind) = slotClose? depth behind := by
  refine slotClose?_untagged ?_ depth behind
  simp [BodyPlaceholder.text, hole.untagged]

/-- Behind its first character a slot tag has no `<`. -/
theorem untagged_slotTag (name : Option SlotName) (selfClosing : Bool) :
    '<' ∉ ((slotTag name).text selfClosing).tail := by
  have ending : '<' ∉ WrittenTag.ending selfClosing := by cases selfClosing <;> decide
  cases name with
  | none =>
    rw [slotTag_text_none]
    simp [ending]
  | some written =>
    have letters : '<' ∉ written.letters := by
      intro angle
      have letter := List.all_eq_true.mp written.alphanumeric _ angle
      revert letter
      decide
    rw [slotTag_text_some]
    simp [ending, letters]

/-- An opening slot tag counts unless it closes itself. -/
theorem slotClose?_slotTag (name : Option SlotName) (selfClosing : Bool) (depth : Nat)
    (behind : List Char) :
    slotClose? depth ((slotTag name).text selfClosing ++ behind) =
      slotClose? (if selfClosing then depth else depth + 1) behind := by
  have opens : opensSlot ((slotTag name).text selfClosing ++ behind) = !selfClosing := by
    rw [opensSlot, startsSlotTag_text, slotTag?_text]
    rfl
  have unclosed : closingSlot? ((slotTag name).text selfClosing ++ behind) = none := by
    obtain ⟨rest, begins⟩ := exists_cons_of_slotTag name selfClosing
    rw [begins]
    rfl
  have whole : (slotTag name).text selfClosing ++ behind =
      '<' :: (((slotTag name).text selfClosing).tail ++ behind) := rfl
  rw [whole] at opens unclosed ⊢
  rw [slotClose?]
  split
  · rename_i after closed
    rw [unclosed] at closed
    cases closed
  · rw [opens]
    cases selfClosing <;> exact slotClose?_untagged (untagged_slotTag name _) _ behind

theorem slotClose?_slotEnd (depth : Nat) (behind : List Char) :
    slotClose? depth (slotEnd ++ behind) =
      match depth with
      | 0 => some (slotEnd ++ behind, behind)
      | depth + 1 => slotClose? depth behind := by
  have closed : closingSlot? (slotEnd ++ behind) = some behind := rfl
  rw [slotEnd, List.cons_append] at closed ⊢
  rw [slotClose?]
  split
  · rename_i after found
    rw [closed] at found
    cases found
    rfl
  · rename_i absent
    rw [closed] at absent
    cases absent

/-- A whole body is passed over: every slot in it is closed in it. -/
theorem slotClose?_body (body : WrittenBody) (depth : Nat) {behind : List Char}
    (breaks : Breaks behind) :
    slotClose? depth (body.text ++ behind) = slotClose? depth behind := by
  -- A fallback is passed over one level deeper than its slot, hence the general depth.
  induction body generalizing depth behind with
  | last text => exact slotClose?_slotless text.slotless breaks depth
  | comment before remark rest inductionHypothesis =>
    rw [WrittenBody.text, List.append_assoc, List.append_assoc,
      slotClose?_slotless before.slotless (breaks_comment remark _), slotClose?_comment,
      inductionHypothesis _ breaks]
  | placeholder before hole rest inductionHypothesis =>
    rw [WrittenBody.text, List.append_assoc, List.append_assoc,
      slotClose?_slotless before.slotless (breaks_placeholder hole _), slotClose?_placeholder,
      inductionHypothesis _ breaks]
  | emptySlot before name rest inductionHypothesis =>
    rw [WrittenBody.text, List.append_assoc, List.append_assoc,
      slotClose?_slotless before.slotless (breaks_slotTag name _ _), slotClose?_slotTag,
      if_pos rfl, inductionHypothesis _ breaks]
  | slot before name fallback rest fallbackHypothesis restHypothesis =>
    rw [WrittenBody.text, List.append_assoc, List.append_assoc,
      slotClose?_slotless before.slotless (breaks_slot name _ _), slotText, List.append_assoc,
      slotClose?_slotTag, if_neg Bool.false_ne_true, List.append_assoc,
      fallbackHypothesis _ (breaks_slotEnd _), slotClose?_slotEnd]
    exact restHypothesis _ breaks

/-! ### Slots -/

theorem segment?_slotTag (name : Option SlotName) (selfClosing : Bool) (behind : List Char) :
    segment? true ((slotTag name).text selfClosing ++ behind) =
      some (slotSegment ((slotTag name).text selfClosing ++ behind)) := by
  have starts := startsSlotTag_text name selfClosing behind
  obtain ⟨rest, begins⟩ := exists_cons_of_slotTag name selfClosing
  rw [begins, List.cons_append, List.cons_append] at starts ⊢
  have uncommented := commentForm_of_tag (show 's' ≠ '!' by decide) (rest ++ behind)
  unfold segment?
  rw [behindComment?, uncommented, Option.map_none]
  dsimp only
  rw [if_neg (by decide), starts, Bool.and_self, if_pos rfl]

theorem segment?_emptySlot (name : Option SlotName) (behind : List Char) :
    segment? true ((slotTag name).text true ++ behind) =
      some (.slot (name.map fun written => String.ofList written.letters) [], behind) := by
  rw [segment?_slotTag, slotSegment, slotTag?_text]
  dsimp only
  rw [nonEmpty?_slotTag, if_pos (show ((slotTag name).tag true).selfClosing = true from rfl)]

/-- A slot is read with its whole fallback. -/
theorem segment?_slot (name : Option SlotName) (fallback : WrittenBody) (behind : List Char) :
    segment? true (slotText name fallback.text ++ behind) =
      some (.slot (name.map fun written => String.ofList written.letters) fallback.text,
        behind) := by
  have closed : slotClose? 0 (fallback.text ++ (slotEnd ++ behind)) =
      some (slotEnd ++ behind, behind) := by
    rw [slotClose?_body fallback 0 (breaks_slotEnd behind), slotClose?_slotEnd]
  rw [slotText, List.append_assoc, List.append_assoc, segment?_slotTag, slotSegment, slotTag?_text]
  dsimp only
  rw [nonEmpty?_slotTag, if_neg (show ¬ ((slotTag name).tag false).selfClosing = true from
    Bool.false_ne_true), closed]
  dsimp only
  rw [readPart_of_append]

end SceneMarkup.Template
