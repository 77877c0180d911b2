import SceneMarkup.Proofs.Markup.WrittenTag
import SceneMarkup.Proofs.Text.Splitting

/-!
Contract: how tags and comments are written.

Owns:
- the first and last characters of a tag that was read;
- `IsComment`, the exact stretch that a comment takes up;
- `Mark.Writes`, what a mark says about the part of the text it was read from.

Does not own: where in a source the tags and comments stand.
-/

namespace SceneMarkup.Markup

open SceneMarkup.Text

/-! ### Tags -/

/-- The body of a tag ends with `/>` or with `>`, as the tag closes itself or not. -/
theorem append_ending_of_tagBody? {text behind : List Char} {attributes : Attributes}
    {selfClosing : Bool} (read : tagBody? text = some (attributes, selfClosing, behind)) :
    ∃ inner, text = inner ++ (WrittenTag.ending selfClosing ++ behind) := by
  have skipped (text : List Char) :
      ∃ separators, text = separators ++ skipSeparators text :=
    ⟨_, (List.takeWhile_append_dropWhile (p := isSeparator)).symm⟩
  fun_induction tagBody? text generalizing attributes with
  | case1 => cases read
  | case2 text rest started =>
    cases read
    obtain ⟨separators, same⟩ := skipped text
    exact ⟨separators, by rw [started] at same; exact same⟩
  | case3 text rest started =>
    cases read
    obtain ⟨separators, same⟩ := skipped text
    exact ⟨separators, by rw [started] at same; exact same⟩
  | case4 text character rest _ _ started inductionHypothesis =>
    obtain ⟨⟨inside, closes, after⟩, searched, same⟩ := Option.map_eq_some_iff.mp read
    cases same
    obtain ⟨separators, whole⟩ := skipped text
    obtain ⟨inner, same⟩ := inductionHypothesis searched
    obtain ⟨start, taken⟩ :=
      (properSuffix_attributeStep (List.cons_ne_nil character rest)).suffix
    refine ⟨separators ++ (start ++ inner), ?_⟩
    rw [whole, started, ← taken, same]
    simp

/-- The body of a tag ends with the `>` in front of the text behind it. -/
theorem append_of_tagBody? {text behind : List Char} {attributes : Attributes}
    {selfClosing : Bool} (read : tagBody? text = some (attributes, selfClosing, behind)) :
    ∃ inner, text = inner ++ '>' :: behind := by
  obtain ⟨inner, rfl⟩ := append_ending_of_tagBody? read
  cases selfClosing with
  | false => exact ⟨inner, rfl⟩
  | true => exact ⟨inner ++ ['/'], by simp [WrittenTag.ending]⟩

/-- An opening tag is its name, something, and a `>`. -/
theorem append_of_openingTag? {text behind : List Char} {tag : OpeningTag}
    (read : openingTag? text = some (tag, behind)) :
    ∃ inner, text = tag.name.toList ++ (inner ++ '>' :: behind) := by
  unfold openingTag? at read
  split at read
  · obtain ⟨⟨attributes, closes, after⟩, searched, same⟩ := Option.map_eq_some_iff.mp read
    cases same
    obtain ⟨inner, same⟩ := append_of_tagBody? searched
    refine ⟨inner, ?_⟩
    rw [← same, String.toList_ofList, tagName, behindTagName, List.takeWhile_append_dropWhile]
  · cases read

theorem append_of_closingTag? {text behind : List Char} {name : String}
    (read : closingTag? text = some (name, behind)) :
    ∃ inner, text = name.toList ++ (inner ++ '>' :: behind) := by
  unfold closingTag? at read
  split at read
  · split at read
    · rename_i rest closed
      cases read
      refine ⟨(behindTagName text).takeWhile isSeparator, ?_⟩
      rw [← closed, skipSeparators, List.takeWhile_append_dropWhile, String.toList_ofList, tagName,
        behindTagName, List.takeWhile_append_dropWhile]
    · cases read
  · cases read

/-! ### Comments -/

/-- A comment of a form in front of the rest of its source. It ends with the first terminator, which
may share characters with the opener, and only the end of the source ends a comment without one. -/
structure CommentForm.Writes (form : CommentForm) (comment behind : List Char) : Prop where
  opened : form.opener <+: comment
  ended : (form.terminator <:+ comment ∧ ¬ form.terminator <:+: comment.dropLast) ∨
    (¬ form.terminator <:+: comment ∧ behind = [])

/-- A whole comment in front of the rest of its source. -/
def IsComment (comment behind : List Char) : Prop :=
  ∃ form ∈ [CommentForm.angled, CommentForm.braced], form.Writes comment behind

/-- No terminator stands within the opener of its form. -/
theorem not_terminator_infix_opener {form : CommentForm}
    (known : form ∈ [CommentForm.angled, CommentForm.braced]) :
    ¬ form.terminator <:+: form.opener := by
  simp only [List.mem_cons, List.not_mem_nil, or_false] at known
  rcases known with rfl | rfl <;> decide

theorem opener_prefix_of_terminated {form : CommentForm} {comment behind : List Char}
    (known : form ∈ [CommentForm.angled, CommentForm.braced])
    (opened : form.opener <+: comment ++ behind) (ended : form.terminator <:+ comment) :
    form.opener <+: comment := by
  rcases List.prefix_or_prefix_of_prefix opened (List.prefix_append comment behind) with
    inside | beyond
  · exact inside
  · exact absurd (ended.isInfix.trans beyond.isInfix) (not_terminator_infix_opener known)

theorem isComment_of_behindComment? {text behind : List Char}
    (read : behindComment? text = some behind) : IsComment (readPart text behind) behind := by
  obtain ⟨form, opened, left⟩ := Option.map_eq_some_iff.mp read
  have known := List.mem_of_find?_eq_some opened
  have begins : form.opener <+: text := by
    unfold CommentForm.of? at opened
    have holds := List.find?_some opened
    exact List.isPrefixOf_iff_prefix.mp holds
  refine ⟨form, known, ?_⟩
  unfold CommentForm.behindTerminator at left
  split at left
  · rename_i before after found
    subst left
    have parts := eq_append_of_cutAt? found
    rw [← List.append_assoc] at parts
    rw [parts, readPart_of_append]
    have ended : form.terminator <:+ before ++ form.terminator := List.suffix_append _ _
    have first := not_infix_of_cutAt? found (terminator_ne_nil opened)
    rw [← List.dropLast_append_of_ne_nil (terminator_ne_nil opened)] at first
    exact ⟨opener_prefix_of_terminated known (parts ▸ begins) ended, Or.inl ⟨ended, first⟩⟩
  · rename_i absent
    subst left
    have whole : readPart text [] = text := by simp [readPart]
    rw [whole]
    exact ⟨begins, Or.inr ⟨not_infix_of_cutAt?_eq_none absent, rfl⟩⟩

/-! ### Marks -/

/-- What begins a text, what is read of it, and the text behind. -/
inductive MarkRead (recovery : Recovery) : List Char → Mark → List Char → Prop where
  | comment {text behind : List Char} (read : behindComment? text = some behind) :
      MarkRead recovery text .comment behind
  | closing {rest behind : List Char} {name : String}
      (uncommented : behindComment? ('<' :: '/' :: rest) = none) (started : startsName rest = true)
      (read : closingTag? rest = some (name, behind)) :
      MarkRead recovery ('<' :: '/' :: rest) (.closing name) behind
  | opening {rest behind : List Char} {tag : OpeningTag}
      (uncommented : behindComment? ('<' :: rest) = none) (started : startsName rest = true)
      (read : openingTag? rest = some (tag, behind)) :
      MarkRead recovery ('<' :: rest) (.opening tag) behind
  | brokenClosing {rest : List Char}
      (uncommented : behindComment? ('<' :: '/' :: rest) = none) (started : startsName rest = true)
      (unread : closingTag? rest = none) (strict : recovery = .strict) :
      MarkRead recovery ('<' :: '/' :: rest) .unterminated []
  | brokenOpening {rest : List Char}
      (uncommented : behindComment? ('<' :: rest) = none) (started : startsName rest = true)
      (unread : openingTag? rest = none) (strict : recovery = .strict) :
      MarkRead recovery ('<' :: rest) .unterminated []

/-- Every reading is one of five. -/
theorem markRead_of_mark? {recovery : Recovery} {text behind : List Char} {mark : Mark}
    (read : mark? recovery text = some (mark, behind)) : MarkRead recovery text mark behind := by
  unfold mark? at read
  split at read
  · rename_i commented
    cases read
    exact .comment commented
  · rename_i uncommented
    split at read
    · rename_i rest
      split at read
      · rename_i started
        split at read
        · rename_i closed
          cases read
          exact .closing uncommented started closed
        · rename_i unread
          cases recovery with
          | strict =>
            cases read
            exact .brokenClosing uncommented started unread rfl
          | lenient => cases read
      · cases read
    · rename_i rest _
      split at read
      · rename_i started
        split at read
        · rename_i opened
          cases read
          exact .opening uncommented started opened
        · rename_i unread
          cases recovery with
          | strict =>
            cases read
            exact .brokenOpening uncommented started unread rfl
          | lenient => cases read
      · cases read
    · cases read

/-- Each of the five is read. -/
theorem MarkRead.mark?_eq {recovery : Recovery} {text behind : List Char} {mark : Mark}
    (found : MarkRead recovery text mark behind) : mark? recovery text = some (mark, behind) := by
  -- A name does not begin with the slash of a closing tag.
  have unslashed {rest : List Char} (started : startsName rest = true) :
      ∀ others, rest = '/' :: others → False := by
    rintro others rfl
    revert started
    simp [startsName, isNameCharacter, show isAlphanumeric '/' = false by decide]
  cases found with
  | comment read => simp only [mark?, read]
  | closing uncommented started read => rw [mark?, uncommented, started, read]; rfl
  | opening uncommented started read =>
    rw [mark?, uncommented, started, read]
    · rfl
    · exact unslashed started
  | brokenClosing uncommented started unread strict =>
    rw [mark?, uncommented, started, unread, strict]
    rfl
  | brokenOpening uncommented started unread strict =>
    rw [mark?, uncommented, started, unread, strict]
    · rfl
    · exact unslashed started

/-- A tag with an end and a comment do not depend on how tags without an end are treated. -/
theorem MarkRead.recovering {recovery : Recovery} {text behind : List Char} {mark : Mark}
    (found : MarkRead recovery text mark behind) (ended : mark ≠ .unterminated)
    (other : Recovery) : MarkRead other text mark behind := by
  cases found with
  | comment read => exact .comment read
  | closing uncommented started read => exact .closing uncommented started read
  | opening uncommented started read => exact .opening uncommented started read
  | brokenClosing => exact absurd rfl ended
  | brokenOpening => exact absurd rfl ended

/-- Marks are read off comments and tags and never off plain text. -/
theorem ne_text_of_mark? {recovery : Recovery} {text behind : List Char} {mark : Mark}
    (read : mark? recovery text = some (mark, behind)) : mark ≠ .text := by
  cases markRead_of_mark? read <;> exact Mark.noConfusion

theorem ne_unterminated_of_mark? {text behind : List Char} {mark : Mark}
    (read : mark? .lenient text = some (mark, behind)) : mark ≠ .unterminated := by
  cases markRead_of_mark? read with
  | brokenClosing _ _ _ strict => cases strict
  | brokenOpening _ _ _ strict => cases strict
  | _ => exact Mark.noConfusion

/-- What a mark says about its source and the text behind it. -/
def Mark.Writes : Mark → (source behind : List Char) → Prop
  | .opening tag, source, _ => ∃ inner, source = '<' :: (tag.name.toList ++ (inner ++ ['>']))
  | .closing name, source, _ => ∃ inner, source = '<' :: '/' :: (name.toList ++ (inner ++ ['>']))
  | .text, source, _ => source ≠ []
  | .comment, source, behind => IsComment source behind
  | .unterminated, _, behind => behind = []

theorem ne_nil_of_writes {mark : Mark} {source behind : List Char}
    (written : mark.Writes source behind) (isToken : mark ≠ .comment ∧ mark ≠ .unterminated) :
    source ≠ [] := by
  cases mark with
  | opening tag =>
    obtain ⟨inner, rfl⟩ := written
    exact List.cons_ne_nil _ _
  | closing name =>
    obtain ⟨inner, rfl⟩ := written
    exact List.cons_ne_nil _ _
  | text => exact written
  | comment => exact absurd rfl isToken.1
  | unterminated => exact absurd rfl isToken.2

/-- What is read is written as its mark says. -/
theorem writes_of_mark? {recovery : Recovery} {text behind : List Char} {mark : Mark}
    (read : mark? recovery text = some (mark, behind)) :
    mark.Writes (readPart text behind) behind := by
  cases markRead_of_mark? read with
  | comment commented => exact isComment_of_behindComment? commented
  | @closing rest _ name _ _ closed =>
    obtain ⟨inner, same⟩ := append_of_closingTag? closed
    refine ⟨inner, ?_⟩
    rw [← readPart_of_append ('<' :: '/' :: (name.toList ++ (inner ++ ['>']))) behind, same]
    simp
  | @opening rest _ tag _ _ opened =>
    obtain ⟨inner, same⟩ := append_of_openingTag? opened
    refine ⟨inner, ?_⟩
    rw [← readPart_of_append ('<' :: (tag.name.toList ++ (inner ++ ['>']))) behind, same]
    simp
  | brokenClosing => rfl
  | brokenOpening => rfl

end SceneMarkup.Markup
