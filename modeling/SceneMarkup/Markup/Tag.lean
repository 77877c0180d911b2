import SceneMarkup.Markup.AttributeText

/-!
Contract: one tag at the beginning of a text.

Owns:
- the reader of closing tags;
- the reader of opening tags with their attributes and the mark of an element without content;
- the bounds that make both readers advance.

Does not own: what a text without a tag at its beginning is.
-/

namespace SceneMarkup.Markup

open SceneMarkup.Text

/-- What an opening tag says. -/
structure OpeningTag where
  name : String
  attributes : Attributes
  /-- Whether the tag ends with a slash, which makes it an element without content. -/
  selfClosing : Bool
deriving DecidableEq, Repr

def tagName (text : List Char) : List Char := text.takeWhile isNameCharacter

def behindTagName (text : List Char) : List Char := text.dropWhile isNameCharacter

/-- Whether a text begins with a tag name. -/
def startsName (text : List Char) : Bool := text.head?.any isNameCharacter

theorem behindTagName_suffix (text : List Char) : behindTagName text <:+ text :=
  List.dropWhile_suffix isNameCharacter

/-- The attributes up to the end of a tag, whether the tag closes itself, and the text behind it.
A text without a `>` that ends the tag has none of these. -/
def tagBody? (text : List Char) : Option (Attributes × Bool × List Char) :=
  match _started : skipSeparators text with
  | [] => none
  | '>' :: rest => some ([], false, rest)
  | '/' :: '>' :: rest => some ([], true, rest)
  | character :: rest =>
    (tagBody? (attributeStep (character :: rest)).2).map fun (attributes, selfClosing, behind) =>
      ((attributeStep (character :: rest)).1.toList ++ attributes, selfClosing, behind)
termination_by text.length
decreasing_by
  have skipped := skipSeparators_suffix text
  rw [_started] at skipped
  exact ((properSuffix_attributeStep (List.cons_ne_nil _ _)).trans_suffix skipped).length_lt

/-- The opening tag whose name begins a text, and the text behind the tag. -/
def openingTag? (text : List Char) : Option (OpeningTag × List Char) :=
  if startsName text then
    (tagBody? (behindTagName text)).map fun (attributes, selfClosing, rest) =>
      (⟨String.ofList (tagName text), attributes, selfClosing⟩, rest)
  else none

/-- The name of the closing tag whose name begins a text, and the text behind the tag. -/
def closingTag? (text : List Char) : Option (String × List Char) :=
  if startsName text then
    match skipSeparators (behindTagName text) with
    | '>' :: rest => some (String.ofList (tagName text), rest)
    | _ => none
  else none

theorem properSuffix_of_tagBody? {text behind : List Char} {attributes : Attributes}
    {selfClosing : Bool} (read : tagBody? text = some (attributes, selfClosing, behind)) :
    ProperSuffix behind text := by
  fun_induction tagBody? text generalizing attributes with
  | case1 => cases read
  | case2 text rest started =>
    cases read
    have skipped := skipSeparators_suffix text
    rw [started] at skipped
    exact (properSuffix_cons _ List.suffix_rfl).trans_suffix skipped
  | case3 text rest started =>
    cases read
    have skipped := skipSeparators_suffix text
    rw [started] at skipped
    exact (properSuffix_cons _ (List.suffix_cons _ _)).trans_suffix skipped
  | case4 text character rest _ _ started inductionHypothesis =>
    obtain ⟨body, searched, same⟩ := Option.map_eq_some_iff.mp read
    cases same
    have skipped := skipSeparators_suffix text
    rw [started] at skipped
    exact ((inductionHypothesis searched).trans_suffix
      (properSuffix_attributeStep (List.cons_ne_nil _ _)).suffix).trans_suffix skipped

theorem properSuffix_of_openingTag? {text behind : List Char} {tag : OpeningTag}
    (read : openingTag? text = some (tag, behind)) : ProperSuffix behind text := by
  unfold openingTag? at read
  split at read
  · obtain ⟨body, searched, same⟩ := Option.map_eq_some_iff.mp read
    cases same
    exact (properSuffix_of_tagBody? searched).trans_suffix (behindTagName_suffix text)
  · cases read

theorem properSuffix_of_closingTag? {text behind : List Char} {name : String}
    (read : closingTag? text = some (name, behind)) : ProperSuffix behind text := by
  unfold closingTag? at read
  split at read
  · split at read
    · rename_i rest closed
      cases read
      have skipped := skipSeparators_suffix (behindTagName text)
      rw [closed] at skipped
      exact (properSuffix_cons _ List.suffix_rfl).trans_suffix
        (skipped.trans (behindTagName_suffix text))
    · cases read
  · cases read

end SceneMarkup.Markup
