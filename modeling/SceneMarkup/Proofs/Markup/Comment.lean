import SceneMarkup.Markup.Comment

/-!
Contract: texts in which no comment begins.

Owns:
- the characters and the tag starts at which no comment begins;
- the removal of comments from a text that begins with any of these.

Does not own: the stretch that a comment takes up.
-/

namespace SceneMarkup.Markup

open SceneMarkup.Text

/-- A comment begins with a brace, or with an exclamation mark behind its first character. -/
theorem commentForm_of_inert {character : Char} {rest : List Char} (unbraced : character ≠ '\x7b')
    (quiet : rest.head? ≠ some '!') : CommentForm.of? (character :: rest) = none := by
  have angled : CommentForm.angled.opener.isPrefixOf (character :: rest) = false := by
    cases rest with
    | nil => simp [CommentForm.angled, List.isPrefixOf]
    | cons next rest =>
      have other : next ≠ '!' := by simpa using quiet
      simp [CommentForm.angled, List.isPrefixOf, Ne.symm other]
  have braced : CommentForm.braced.opener.isPrefixOf (character :: rest) = false := by
    simp [CommentForm.braced, List.isPrefixOf, Ne.symm unbraced]
  rw [CommentForm.of?, List.find?_cons, angled, List.find?_cons, braced]
  rfl

theorem commentForm_of_tag {character : Char} (other : character ≠ '!') (rest : List Char) :
    CommentForm.of? ('<' :: character :: rest) = none :=
  commentForm_of_inert (by decide) (by simpa using other)

/-- No comment begins at a character other than the two with which openers begin. -/
theorem commentForm_of_plain {character : Char} (untagged : character ≠ '<')
    (unbraced : character ≠ '\x7b') (rest : List Char) :
    CommentForm.of? (character :: rest) = none := by
  have angled : CommentForm.angled.opener.isPrefixOf (character :: rest) = false := by
    simp [CommentForm.angled, List.isPrefixOf, Ne.symm untagged]
  have braced : CommentForm.braced.opener.isPrefixOf (character :: rest) = false := by
    simp [CommentForm.braced, List.isPrefixOf, Ne.symm unbraced]
  rw [CommentForm.of?, List.find?_cons, angled, List.find?_cons, braced]
  rfl

/-- A brace begins a comment only in front of a slash and a star. -/
theorem commentForm_of_brace {rest : List Char} (other : ¬ ['/', '*'] <+: rest) :
    CommentForm.of? ('\x7b' :: rest) = none := by
  have angled : CommentForm.angled.opener.isPrefixOf ('\x7b' :: rest) = false := rfl
  have braced : CommentForm.braced.opener.isPrefixOf ('\x7b' :: rest) = false := by
    rw [Bool.eq_false_iff]
    intro opened
    exact other (List.cons_prefix_cons.mp (List.isPrefixOf_iff_prefix.mp opened)).2
  rw [CommentForm.of?, List.find?_cons, angled, List.find?_cons, braced]
  rfl

theorem behindComment?_of_tag {character : Char} (other : character ≠ '!') (rest : List Char) :
    behindComment? ('<' :: character :: rest) = none := by
  rw [behindComment?, commentForm_of_tag other, Option.map_none]

/-- A character at which no comment begins stays. -/
theorem withoutComments_cons {character : Char} {rest : List Char}
    (uncommented : CommentForm.of? (character :: rest) = none) :
    withoutComments (character :: rest) = character :: withoutComments rest := by
  rw [withoutComments]
  split
  · rename_i form opened
    rw [uncommented] at opened
    cases opened
  · rfl

/-- A comment is dropped up to the first terminator behind the whole opener. -/
theorem withoutComments_of_opened (form : CommentForm) {character : Char} {rest : List Char}
    (opened : CommentForm.of? (character :: rest) = some form) :
    withoutComments (character :: rest) =
      withoutComments (form.behindTerminator (rest.drop (form.opener.length - 1))) := by
  rw [withoutComments]
  split
  · rename_i other found
    rw [opened] at found
    cases found
    rfl
  · rename_i absent
    rw [opened] at absent
    cases absent

theorem withoutComments_append {plain : List Char} (untagged : '<' ∉ plain)
    (unbraced : '\x7b' ∉ plain) (rest : List Char) :
    withoutComments (plain ++ rest) = plain ++ withoutComments rest := by
  induction plain with
  | nil => rfl
  | cons character plain inductionHypothesis =>
    rw [List.mem_cons, not_or] at untagged unbraced
    have uncommented := commentForm_of_plain (Ne.symm untagged.1) (Ne.symm unbraced.1)
      (plain ++ rest)
    rw [List.cons_append, withoutComments_cons uncommented,
      inductionHypothesis untagged.2 unbraced.2]
    rfl

end SceneMarkup.Markup
