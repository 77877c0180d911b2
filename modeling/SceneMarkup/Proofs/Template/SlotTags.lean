import SceneMarkup.Proofs.Markup.Comment
import SceneMarkup.Proofs.Markup.Locality
import SceneMarkup.Proofs.Markup.Names
import SceneMarkup.Template.Segment

/-!
Contract: slot tags as the two scanners see them.

Owns:
- the tags whose name is that of a slot, told by the first letters of a text;
- slot tags with paired quotes, which both scanners end at the same place;
- closing slot tags, which both scanners read;
- what can be told of the beginning of a slot tag or comment inside a text that a `>` ends.

Does not own: the order in which a body is scanned.
-/

namespace SceneMarkup.Template

open SceneMarkup.Text SceneMarkup.Markup

/-! ### The name of a slot -/

/-- Blanks end a tag name, also those that do not separate the parts of a tag. -/
theorem not_nameCharacter_of_isBlank {character : Char} (blank : isBlank character = true) :
    isNameCharacter character = false := by
  have listed : character.toNat ∈ List.range' 0x09 5 ++ List.range' 0x2000 11 ++
      [0x20, 0x85, 0xA0, 0x1680, 0x2028, 0x2029, 0x202F, 0x205F, 0x3000] := by
    simp only [isBlank, Bool.or_eq_true, Bool.and_eq_true, decide_eq_true_eq, beq_iff_eq] at blank
    simp only [List.mem_append, List.mem_range'_1, List.mem_cons, List.not_mem_nil, or_false]
    omega
  have none : ∀ code ∈ List.range' 0x09 5 ++ List.range' 0x2000 11 ++
      [0x20, 0x85, 0xA0, 0x1680, 0x2028, 0x2029, 0x202F, 0x205F, 0x3000],
      isNameCharacter (Char.ofNat code) = false := by
    decide +kernel
  rw [← Char.ofNat_toNat character]
  exact none _ listed

theorem sameWord_slot_iff {letters : List Char} :
    sameWord (String.ofList letters) "slot" = true ↔
      letters.map Char.toLower = ['s', 'l', 'o', 't'] := by
  have word : "slot".toList.map Char.toLower = ['s', 'l', 'o', 't'] := by decide
  rw [sameWord_iff, String.toList_ofList, word]

theorem startsSlotWord_iff {text : List Char} :
    startsSlotWord text = true ↔ (text.take 4).map Char.toLower = ['s', 'l', 'o', 't'] := by
  match text with
  | [] | [_] | [_, _] | [_, _, _] => simp [startsSlotWord]
  | s :: l :: o :: t :: rest => simp [startsSlotWord, and_assoc]

/-- A name that begins with the word and then ends is that of a slot. -/
theorem tagName_of_startsSlotWord {text : List Char} (starts : startsSlotWord text = true)
    (ended : ∀ character, (text.drop 4).head? = some character →
      isNameCharacter character = false) : tagName text = text.take 4 := by
  have letters : ∀ letter ∈ text.take 4, isNameCharacter letter = true := by
    intro letter member
    apply isNameCharacter_of_toLower
    have lowered := List.mem_map_of_mem (f := Char.toLower) member
    rw [startsSlotWord_iff.mp starts] at lowered
    revert lowered
    generalize letter.toLower = lower
    simp only [List.mem_cons, List.not_mem_nil, or_false]
    rintro (rfl | rfl | rfl | rfl) <;> decide
  have stopped : (text.drop 4).takeWhile isNameCharacter = [] := by
    cases behind : text.drop 4 with
    | nil => rfl
    | cons character rest =>
      rw [List.takeWhile_cons_of_neg]
      rw [ended character (by rw [behind]; rfl)]
      exact Bool.false_ne_true
  conv_lhs => rw [← List.take_append_drop 4 text]
  rw [tagName, List.takeWhile_append_of_pos letters, stopped, List.append_nil]

/-- The name of a slot is its first four letters. -/
theorem startsSlotWord_of_tagName {text : List Char}
    (named : sameWord (String.ofList (tagName text)) "slot" = true) :
    startsSlotWord text = true ∧ behindTagName text = text.drop 4 := by
  have lowered := sameWord_slot_iff.mp named
  have length : (tagName text).length = 4 := by
    simpa using congrArg List.length lowered
  have whole : tagName text ++ behindTagName text = text := List.takeWhile_append_dropWhile
  have front : text.take 4 = tagName text := by
    conv_lhs => rw [← whole]
    rw [← length, List.take_left]
  refine ⟨startsSlotWord_iff.mpr (by rw [front, lowered]), ?_⟩
  conv_rhs => rw [← whole]
  rw [← length, List.drop_left]

/-- A text that begins like a slot tag begins with a tag of that name. -/
theorem sameWord_of_startsSlotTag {rest : List Char}
    (starts : startsSlotTag ('<' :: rest) = true) :
    sameWord (String.ofList (tagName rest)) "slot" = true := by
  obtain ⟨word, next⟩ := Bool.and_eq_true_iff.mp starts
  have ended : ∀ character, (rest.drop 4).head? = some character →
      isNameCharacter character = false := by
    intro character head
    rw [head] at next
    simp only [Option.all_some, Bool.or_eq_true, beq_iff_eq] at next
    obtain (blank | rfl) | rfl := next
    · exact not_nameCharacter_of_isBlank blank
    · decide
    · decide
  rw [tagName_of_startsSlotWord word ended]
  exact sameWord_slot_iff.mpr (startsSlotWord_iff.mp word)

/-! ### Closing tags -/

/-- Separators are blank, so where they end at a `>` the blanks do too. -/
theorem trimStart_of_skipSeparators {text behind : List Char}
    (left : skipSeparators text = '>' :: behind) : trimStart text = '>' :: behind := by
  have whole : text.takeWhile isSeparator ++ '>' :: behind = text := by
    rw [← left]
    exact List.takeWhile_append_dropWhile
  have blank : ∀ character ∈ text.takeWhile isSeparator, isBlank character = true := by
    intro character member
    rcases separator_cases (List.mem_takeWhile_imp member) with rfl | rfl | rfl | rfl <;> decide
  rw [← whole, trimStart, List.dropWhile_append_of_pos blank]
  rfl

/-- What stands behind a tag name that blanks and a `>` follow is no part of the name. -/
theorem not_nameCharacter_of_trimStart {text behind : List Char}
    (left : trimStart text = '>' :: behind) {character : Char}
    (head : text.head? = some character) : isNameCharacter character = false := by
  cases text with
  | nil => cases head
  | cons first rest =>
    cases head
    by_cases blank : isBlank character = true
    · exact not_nameCharacter_of_isBlank blank
    · rw [trimStart, List.dropWhile_cons_of_neg blank] at left
      rw [(List.cons.inj left).1]
      decide

/-- Both scanners read the same closing slot tags. -/
theorem closingSlot?_of_closingTag? {rest behind : List Char} {name : String}
    (read : closingTag? rest = some (name, behind)) :
    closingSlot? ('<' :: '/' :: rest) = if sameWord name "slot" then some behind else none := by
  unfold closingTag? at read
  split at read
  · split at read
    · rename_i after closed
      cases read
      rw [closingSlot?]
      by_cases named : sameWord (String.ofList (tagName rest)) "slot" = true
      · obtain ⟨word, left⟩ := startsSlotWord_of_tagName named
        rw [left] at closed
        rw [if_pos word, if_pos named, trimStart_of_skipSeparators closed]
        rfl
      · rw [if_neg named]
        by_cases word : startsSlotWord rest = true
        · rw [if_pos word]
          split
          · rename_i others left
            have name := tagName_of_startsSlotWord word fun character head =>
              not_nameCharacter_of_trimStart left head
            rw [name, sameWord_slot_iff] at named
            exact absurd (startsSlotWord_iff.mp word) named
          · rfl
        · rw [if_neg word]
    · cases read
  · cases read

/-! ### Opening tags -/

/-- Quotes come in pairs, and neither `<` nor `>` stands outside them; the first argument is the
quote that is open. -/
def quotesPaired : Option Char → List Char → Bool
  | quote, [] => quote.isNone
  | some quote, character :: rest =>
    quotesPaired (if character = quote then none else some quote) rest
  | none, character :: rest =>
    if character = '"' ∨ character = '\'' then quotesPaired (some character) rest
    else character != '<' && character != '>' && quotesPaired none rest

theorem behindTagEnd?_of_quotesPaired {quote : Option Char} {text : List Char}
    (paired : quotesPaired quote text = true) (unbraced : '\x7b' ∉ text) (behind : List Char) :
    behindTagEnd? quote 0 (text ++ '>' :: behind) = some behind := by
  induction text generalizing quote with
  | nil =>
    cases quote with
    | none => rfl
    | some quote => cases paired
  | cons character rest inductionHypothesis =>
    rw [List.mem_cons, not_or] at unbraced
    rw [List.cons_append]
    cases quote with
    | some quote =>
      rw [behindTagEnd?]
      exact inductionHypothesis paired unbraced.2
    | none =>
      rw [quotesPaired] at paired
      rw [behindTagEnd?]
      by_cases isQuote : character = '"' ∨ character = '\''
      · rw [if_pos isQuote] at paired ⊢
        exact inductionHypothesis paired unbraced.2
      · rw [if_neg isQuote] at paired ⊢
        simp only [Bool.and_eq_true, bne_iff_ne] at paired
        rw [if_neg (Ne.symm unbraced.1), if_neg paired.1.1, if_neg paired.1.2]
        exact inductionHypothesis paired.2 unbraced.2

/-- An opening tag with paired quotes is read as the tag that it is. -/
theorem slotTag?_of_quotesPaired {inner behind : List Char} {tag : OpeningTag}
    (read : openingTag? (inner ++ '>' :: behind) = some (tag, behind))
    (paired : quotesPaired none inner = true) (unbraced : '\x7b' ∉ inner) :
    slotTag? ('<' :: (inner ++ '>' :: behind)) = some (tag, behind) := by
  have whole : inner ++ '>' :: behind = (inner ++ ['>']) ++ behind := by simp
  have alone : openingTag? (inner ++ ['>']) = some (tag, []) :=
    openingTag?_of_append (by rw [← whole]; exact read)
  rw [slotTag?]
  dsimp only
  rw [behindTagEnd?_of_quotesPaired paired unbraced]
  dsimp only
  rw [whole, readPart_of_append, alone]
  rfl

theorem behindTagEnd?_append {quote : Option Char} {braces : Nat} {text rest : List Char}
    (ended : behindTagEnd? quote braces text = some rest) (behind : List Char) :
    behindTagEnd? quote braces (text ++ behind) = some (rest ++ behind) := by
  fun_induction behindTagEnd? quote braces text with
  | case1 => cases ended
  | case8 => cases ended
  | case9 =>
    cases ended
    rfl
  | _ =>
    rename_i inductionHypothesis
    simp_all [behindTagEnd?]

/-- A slot tag is read alike in front of other text. -/
theorem slotTag?_append {text rest : List Char} {tag : OpeningTag}
    (read : slotTag? text = some (tag, rest)) (behind : List Char) :
    slotTag? (text ++ behind) = some (tag, rest ++ behind) := by
  unfold slotTag? at read
  split at read
  · cases read
  · rename_i inner
    split at read
    · cases read
    · rename_i after ended
      obtain ⟨part, rfl⟩ := suffix_of_behindTagEnd? ended
      rw [readPart_of_append] at read
      obtain ⟨⟨other, left⟩, opened, same⟩ := Option.map_eq_some_iff.mp read
      cases same
      rw [List.cons_append, slotTag?]
      dsimp only
      rw [behindTagEnd?_append ended]
      dsimp only
      rw [List.append_assoc, readPart_of_append, opened]
      rfl

/-! ### Texts that a `>` ends -/

/-- Nothing follows a text, or the text ends with a `>`. -/
def Sealed (behind text : List Char) : Prop := behind = [] ∨ text.getLast? = some '>'

theorem Sealed.tail {behind rest : List Char} {character : Char}
    (closed : Sealed behind (character :: rest)) (nonempty : rest ≠ []) : Sealed behind rest := by
  refine closed.imp id fun ended => ?_
  rw [List.getLast?_cons_of_ne_nil nonempty] at ended
  exact ended

/-- The word of a slot is followed by something if the text ends with a `>`. -/
theorem length_of_startsSlotWord {text : List Char} (starts : startsSlotWord text = true)
    (ended : text.getLast? = some '>') : 4 < text.length := by
  by_contra short
  have lowered := startsSlotWord_iff.mp starts
  rw [List.take_of_length_le (Nat.le_of_not_lt short)] at lowered
  have member := List.mem_map_of_mem (f := Char.toLower) (List.mem_of_getLast? ended)
  rw [lowered] at member
  revert member
  decide

theorem startsSlotWord_append {text : List Char} (ended : text.getLast? = some '>')
    (behind : List Char) : startsSlotWord (text ++ behind) = startsSlotWord text := by
  rw [Bool.eq_iff_iff, startsSlotWord_iff, startsSlotWord_iff]
  by_cases long : 4 ≤ text.length
  · rw [List.take_append_of_le_length long]
  · -- A `>` among the first four characters belongs to no slot word.
    have stop : ∀ others, ¬ (text ++ others).map Char.toLower = ['s', 'l', 'o', 't'] := by
      intro others same
      have member := List.mem_map_of_mem (f := Char.toLower)
        (List.mem_append_left others (List.mem_of_getLast? ended))
      rw [same] at member
      revert member
      decide
    rw [List.take_append, List.take_of_length_le (Nat.le_of_lt (Nat.lt_of_not_le long))]
    exact iff_of_false (stop _) (by simpa using stop [])

/-- Every slot tag begins with a `<`. -/
theorem startsSlotTag_of_ne {character : Char} (untagged : character ≠ '<') (rest : List Char) :
    startsSlotTag (character :: rest) = false := by
  unfold startsSlotTag
  split
  · rename_i same
    exact absurd (List.cons.inj same).1 untagged
  · rfl

/-- Whether a slot tag begins does not depend on what follows the end of the text. -/
theorem startsSlotTag_append {behind text : List Char} (closed : Sealed behind text) :
    startsSlotTag (text ++ behind) = startsSlotTag text := by
  rcases closed with rfl | ended
  · rw [List.append_nil]
  · cases text with
    | nil => cases ended
    | cons first rest =>
      by_cases opens : first = '<'
      · subst opens
        have nonempty : rest ≠ [] := by
          rintro rfl
          revert ended
          decide
        have endedRest : rest.getLast? = some '>' := by
          rw [← ended, List.getLast?_cons_of_ne_nil nonempty]
        rw [List.cons_append, startsSlotTag, startsSlotTag, startsSlotWord_append endedRest]
        cases word : startsSlotWord rest with
        | false => rfl
        | true =>
          have long := length_of_startsSlotWord word endedRest
          have left : rest.drop 4 ≠ [] := by
            rw [ne_eq, List.drop_eq_nil_iff]
            omega
          rw [List.drop_append_of_le_length (Nat.le_of_lt long),
            List.head?_append_of_ne_nil _ left]
      · rw [List.cons_append, startsSlotTag_of_ne opens, startsSlotTag_of_ne opens]

theorem closingSlot?_eq_some_iff {text behind : List Char} :
    closingSlot? text = some behind ↔ ∃ rest, text = '<' :: '/' :: rest ∧
      startsSlotWord rest = true ∧ trimStart (rest.drop 4) = '>' :: behind := by
  constructor
  · intro closed
    unfold closingSlot? at closed
    split at closed
    · split at closed
      · rename_i word
        split at closed
        · rename_i left
          cases closed
          exact ⟨_, rfl, word, left⟩
        · cases closed
      · cases closed
    · cases closed
  · rintro ⟨rest, rfl, word, left⟩
    rw [closingSlot?, if_pos word, left]
    rfl

/-- No closing slot tag begins in a text that a `>` ends if none does without what follows. -/
theorem closingSlot?_append_eq_none {behind text : List Char} (closed : Sealed behind text)
    (unread : closingSlot? text = none) : closingSlot? (text ++ behind) = none := by
  rcases closed with rfl | ended
  · rw [List.append_nil]
    exact unread
  · rw [Option.eq_none_iff_forall_ne_some]
    intro left read
    obtain ⟨rest, same, word, trimmedEnd⟩ := closingSlot?_eq_some_iff.mp read
    match text with
    | [] => cases ended
    | [_] =>
      cases same
      revert ended
      decide
    | [_, _] =>
      cases same
      revert ended
      decide
    | first :: second :: character :: part =>
      cases same
      rw [List.getLast?_cons_cons, List.getLast?_cons_cons] at ended
      change startsSlotWord ((character :: part) ++ behind) = true at word
      change trimStart (((character :: part) ++ behind).drop 4) = _ at trimmedEnd
      rw [startsSlotWord_append ended] at word
      have long := length_of_startsSlotWord word ended
      rw [List.drop_append_of_le_length (Nat.le_of_lt long), trimStart, List.dropWhile_append]
        at trimmedEnd
      -- The `>` at the end of the text is not blank.
      have stop : ((character :: part).drop 4).dropWhile isBlank ≠ [] := by
        intro blank
        have last : ((character :: part).drop 4).getLast? = some '>' := by
          rw [List.getLast?_drop, if_neg (by omega), ended]
        have member := List.mem_of_getLast? last
        have isBlank := List.dropWhile_eq_nil_iff.mp blank '>' member
        revert isBlank
        decide
      rw [if_neg (by rwa [List.isEmpty_iff])] at trimmedEnd
      obtain ⟨next, others, left⟩ := List.exists_cons_of_ne_nil stop
      rw [left] at trimmedEnd
      cases trimmedEnd
      have found := closingSlot?_eq_some_iff.mpr ⟨_, rfl, word, left⟩
      rw [unread] at found
      cases found

theorem commentForm_append_eq_none {behind text : List Char} (closed : Sealed behind text)
    (unopened : CommentForm.of? text = none) : CommentForm.of? (text ++ behind) = none := by
  rcases closed with rfl | ended
  · rw [List.append_nil]
    exact unopened
  · cases opened : CommentForm.of? (text ++ behind) with
    | none => rfl
    | some form =>
      obtain ⟨known, begins⟩ := opener_prefix_of_commentForm opened
      have inside : form.opener <+: text := by
        rcases List.prefix_or_prefix_of_prefix begins (List.prefix_append text behind) with
          inside | beyond
        · exact inside
        · have member := beyond.subset (List.mem_of_getLast? ended)
          simp only [List.mem_cons, List.not_mem_nil, or_false] at known
          rcases known with rfl | rfl <;> exact absurd member (by decide)
      have found := commentForm_of_isPrefix (List.prefix_append text behind) opened inside
      rw [unopened] at found
      cases found

/-! ### Slot tags among the marks -/

section Marks

variable {text behind : List Char} {mark : Mark}

/-- The word of a slot begins a name. -/
theorem startsName_of_startsSlotWord (starts : startsSlotWord text = true) :
    startsName text = true := by
  have lowered := startsSlotWord_iff.mp starts
  cases text with
  | nil => cases lowered
  | cons letter rest =>
    rw [List.take_succ_cons, List.map_cons] at lowered
    refine isNameCharacter_of_toLower ?_
    rw [(List.cons.inj lowered).1]
    decide

theorem exists_of_startsSlotTag (starts : startsSlotTag text = true) :
    ∃ rest, text = '<' :: rest ∧ startsName rest = true := by
  unfold startsSlotTag at starts
  split at starts
  · rename_i rest
    exact ⟨rest, rfl, startsName_of_startsSlotWord (Bool.and_eq_true_iff.mp starts).1⟩
  · cases starts

/-- What begins a name is neither the exclamation mark of a comment nor the slash of a closing
tag. -/
theorem exists_cons_of_startsName (started : startsName text = true) :
    ∃ letter rest, text = letter :: rest ∧ letter ≠ '!' ∧ letter ≠ '/' := by
  cases text with
  | nil => cases started
  | cons letter rest =>
    have named : isNameCharacter letter = true := started
    refine ⟨letter, rest, rfl, ?_, ?_⟩
    · rintro rfl
      revert named
      decide
    · rintro rfl
      revert named
      decide

theorem name_of_openingTag? {tag : OpeningTag} (read : openingTag? text = some (tag, behind)) :
    tag.name = String.ofList (tagName text) := by
  unfold openingTag? at read
  split at read
  · obtain ⟨_, _, same⟩ := Option.map_eq_some_iff.mp read
    cases same
    rfl
  · cases read

/-- Only an opening tag of that name begins like a slot tag. -/
theorem exists_opening_of_startsSlotTag (read : mark? .strict text = some (mark, behind))
    (ended : mark ≠ .unterminated) (starts : startsSlotTag text = true) :
    ∃ tag, mark = .opening tag ∧ sameWord tag.name "slot" = true := by
  obtain ⟨rest, rfl, started⟩ := exists_of_startsSlotTag starts
  obtain ⟨letter, others, rfl, notRemark, notSlash⟩ := exists_cons_of_startsName started
  have uncommented := behindComment?_of_tag notRemark others
  cases markRead_of_mark? read with
  | comment commented =>
    rw [uncommented] at commented
    cases commented
  | closing => exact absurd rfl notSlash
  | @opening _ _ tag _ _ opened =>
    refine ⟨tag, rfl, ?_⟩
    rw [name_of_openingTag? opened]
    exact sameWord_of_startsSlotTag starts
  | brokenClosing => exact absurd rfl ended
  | brokenOpening => exact absurd rfl ended

/-- Where the strict scan reads nothing, no slot tag begins. -/
theorem startsSlotTag_of_unread (unread : mark? .strict text = none) :
    startsSlotTag text = false := by
  rw [Bool.eq_false_iff]
  intro starts
  obtain ⟨rest, rfl, started⟩ := exists_of_startsSlotTag starts
  have found := isSome_mark?_of_opening started
  rw [unread] at found
  cases found

/-- The closing tags of that name are those that are read as closing slot tags. -/
theorem closingSlot?_of_mark? (read : mark? .strict text = some (mark, behind))
    (ended : mark ≠ .unterminated) :
    closingSlot? text =
      match mark with
      | .closing name => if sameWord name "slot" then some behind else none
      | _ => none := by
  have unclosed (other : ∀ rest, text ≠ '<' :: '/' :: rest) : closingSlot? text = none := by
    rw [Option.eq_none_iff_forall_ne_some]
    intro left closed
    obtain ⟨rest, same, _⟩ := closingSlot?_eq_some_iff.mp closed
    exact other rest same
  cases markRead_of_mark? read with
  | comment commented =>
    refine unclosed ?_
    rintro rest rfl
    rw [behindComment?_of_tag (by decide)] at commented
    cases commented
  | closing _ _ closed => exact closingSlot?_of_closingTag? closed
  | opening _ started _ =>
    refine unclosed ?_
    rintro rest same
    obtain ⟨letter, others, rfl, _, notSlash⟩ := exists_cons_of_startsName started
    cases same
    exact notSlash rfl
  | brokenClosing => exact absurd rfl ended
  | brokenOpening => exact absurd rfl ended

theorem closingSlot?_of_unread (unread : mark? .strict text = none) : closingSlot? text = none := by
  rw [Option.eq_none_iff_forall_ne_some]
  intro left closed
  obtain ⟨rest, rfl, word, _⟩ := closingSlot?_eq_some_iff.mp closed
  have found := isSome_mark?_of_closing (startsName_of_startsSlotWord word)
  rw [unread] at found
  cases found

end Marks

end SceneMarkup.Template
