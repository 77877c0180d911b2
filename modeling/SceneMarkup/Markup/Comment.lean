import SceneMarkup.Text.Search

/-!
Contract: comments in markup.

Owns:
- the two forms of comments;
- the reader of a comment at the beginning of a text;
- the removal of comments from the text of an element.

Does not own: comments that the scene literal format might have; it has none.
-/

namespace SceneMarkup.Markup

open SceneMarkup.Text

/-- The characters a comment begins with and those it ends with. -/
structure CommentForm where
  opener : List Char
  terminator : List Char
deriving DecidableEq, Repr

namespace CommentForm

def angled : CommentForm := ⟨['<', '!', '-', '-'], ['-', '-', '>']⟩

def braced : CommentForm := ⟨['\x7b', '/', '*'], ['*', '/', '\x7d']⟩

/-- The form of the comment that begins a text. -/
def of? (text : List Char) : Option CommentForm :=
  [angled, braced].find? fun form => form.opener.isPrefixOf text

/-- The text behind the first terminator; nothing is left when there is none. -/
def behindTerminator (form : CommentForm) (text : List Char) : List Char :=
  match cutAt? form.terminator text with
  | some (_, behind) => behind
  | none => []

end CommentForm

/-- The text behind the comment that begins a text. The terminator is looked for from the opener
on, so that the two may share characters; a comment without one takes up all the text. -/
def behindComment? (text : List Char) : Option (List Char) :=
  (CommentForm.of? text).map fun form => form.behindTerminator text

theorem ne_nil_of_commentForm {text : List Char} {form : CommentForm}
    (opened : CommentForm.of? text = some form) : text ≠ [] := by
  rintro rfl
  revert opened
  decide +revert

theorem terminator_ne_nil {text : List Char} {form : CommentForm}
    (opened : CommentForm.of? text = some form) : form.terminator ≠ [] := by
  have member := List.mem_of_find?_eq_some opened
  simp only [List.mem_cons, List.not_mem_nil, or_false] at member
  rcases member with rfl | rfl <;> decide

theorem behindTerminator_suffix {form : CommentForm} (nonempty : form.terminator ≠ [])
    (text : List Char) : form.behindTerminator text <:+ text := by
  unfold CommentForm.behindTerminator
  split
  · rename_i found
    exact (properSuffix_of_cutAt? found nonempty).suffix
  · exact List.nil_suffix

theorem properSuffix_of_behindComment? {text behind : List Char}
    (commented : behindComment? text = some behind) : ProperSuffix behind text := by
  obtain ⟨form, opened, rfl⟩ := Option.map_eq_some_iff.mp commented
  unfold CommentForm.behindTerminator
  split
  · rename_i found
    exact properSuffix_of_cutAt? found (terminator_ne_nil opened)
  · exact ⟨List.nil_suffix, by simpa using List.length_pos_iff.mpr (ne_nil_of_commentForm opened)⟩

/-- The text of an element without its comments. Here a terminator counts only behind the whole
opener. -/
def withoutComments (text : List Char) : List Char :=
  match text with
  | [] => []
  | character :: rest =>
    match _opened : CommentForm.of? (character :: rest) with
    | some form => withoutComments (form.behindTerminator (rest.drop (form.opener.length - 1)))
    | none => character :: withoutComments rest
termination_by text.length
decreasing_by
  · have left := (behindTerminator_suffix (terminator_ne_nil _opened)
      (rest.drop (form.opener.length - 1))).length_le
    simp only [List.length_drop] at left
    simp only [List.length_cons]
    omega
  · simp

end SceneMarkup.Markup
