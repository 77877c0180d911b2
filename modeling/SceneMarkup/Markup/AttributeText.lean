import SceneMarkup.Attribute.Basic
import SceneMarkup.Markup.Names
import SceneMarkup.Text.Blank
import SceneMarkup.Text.Search

/-!
Contract: attributes in the text of a tag.

Owns:
- the five written forms: `name`, `name="v"`, `name='v'`, `name={v}` and `name=v`;
- `attributesIn`, every attribute of a text, in which characters that begin no attribute are
  passed over one by one;
- the bounds that make every reader advance.

Does not own: the end of a tag, which `Markup.Tag` looks for.
-/

namespace SceneMarkup.Markup

open SceneMarkup.Text

/-- The text up to the brace that closes `depth` open braces and one more, and the text behind
it. -/
def bracedText? : (depth : Nat) → List Char → Option (List Char × List Char)
  | _, [] => none
  | depth, '{' :: rest =>
    (bracedText? (depth + 1) rest).map fun (inner, behind) => ('{' :: inner, behind)
  | 0, '}' :: rest => some ([], rest)
  | depth + 1, '}' :: rest =>
    (bracedText? depth rest).map fun (inner, behind) => ('}' :: inner, behind)
  | depth, character :: rest =>
    (bracedText? depth rest).map fun (inner, behind) => (character :: inner, behind)

/-- Whether a character belongs to a value without quotes or braces. -/
def isBareCharacter (character : Char) : Bool := !(isBlank character || character == '>')

/-- A value without quotes or braces: the characters up to a blank or a `>`. A slash right before
the `>` belongs to the end of the tag and not to the value. -/
def bareValue? (text : List Char) : Option (List Char × List Char) :=
  let value := text.takeWhile isBareCharacter
  let behind := text.dropWhile isBareCharacter
  if value = [] then none
  else if value.getLast? = some '/' ∧ behind.head? = some '>' then
    some (value.dropLast, '/' :: behind)
  else some (value, behind)

/-- The value at the beginning of a text and the text behind it. The first character decides the
form; a quote or brace that is not closed makes no value. -/
def value? (text : List Char) : Option (List Char × List Char) :=
  match text with
  | '"' :: rest => cutAt? ['"'] rest
  | '\'' :: rest => cutAt? ['\''] rest
  | '{' :: rest => bracedText? 0 rest
  | _ => bareValue? text

/-- The attribute at the beginning of a text and the text behind it. A name that no `=` follows
has the value `true`. -/
def attribute? (text : List Char) : Option (Attribute × List Char) :=
  let name := text.takeWhile isAttributeNameCharacter
  let behind := text.dropWhile isAttributeNameCharacter
  if name = [] then none
  else
    match skipSeparators behind with
    | '=' :: rest =>
      (value? (skipSeparators rest)).map fun (value, rest) =>
        (⟨String.ofList name, String.ofList value⟩, rest)
    | _ => some (⟨String.ofList name, "true"⟩, behind)

/-- One step through the text of a tag: an attribute and the text behind it, or no attribute and
the text without its first character. -/
def attributeStep (text : List Char) : Option Attribute × List Char :=
  match attribute? text with
  | some (found, rest) => (some found, rest)
  | none => (none, text.drop 1)

theorem properSuffix_of_bracedText? {depth : Nat} {text inner behind : List Char}
    (found : bracedText? depth text = some (inner, behind)) : ProperSuffix behind text := by
  fun_induction bracedText? depth text generalizing inner with
  | case1 => cases found
  | case2 depth rest inductionHypothesis =>
    obtain ⟨cut, searched, same⟩ := Option.map_eq_some_iff.mp found
    cases same
    exact properSuffix_cons _ (inductionHypothesis searched).suffix
  | case3 rest =>
    cases found
    exact properSuffix_cons _ List.suffix_rfl
  | case4 depth rest inductionHypothesis =>
    obtain ⟨cut, searched, same⟩ := Option.map_eq_some_iff.mp found
    cases same
    exact properSuffix_cons _ (inductionHypothesis searched).suffix
  | case5 depth character rest _ _ _ inductionHypothesis =>
    obtain ⟨cut, searched, same⟩ := Option.map_eq_some_iff.mp found
    cases same
    exact properSuffix_cons _ (inductionHypothesis searched).suffix

theorem suffix_of_bareValue? {text value behind : List Char}
    (found : bareValue? text = some (value, behind)) : behind <:+ text := by
  unfold bareValue? at found
  simp only at found
  split at found
  · cases found
  · split at found
    · rename_i givenBack
      cases found
      obtain ⟨start, same⟩ := List.getLast?_eq_some_iff.mp givenBack.1
      refine ⟨start, ?_⟩
      have parts := List.takeWhile_append_dropWhile (p := isBareCharacter) (l := text)
      rw [same, List.append_assoc] at parts
      exact parts
    · cases found
      exact List.dropWhile_suffix isBareCharacter

theorem suffix_of_value? {text value behind : List Char}
    (found : value? text = some (value, behind)) : behind <:+ text := by
  unfold value? at found
  split at found
  · exact (properSuffix_of_cutAt? found (by simp)).suffix.trans (List.suffix_cons _ _)
  · exact (properSuffix_of_cutAt? found (by simp)).suffix.trans (List.suffix_cons _ _)
  · exact (properSuffix_of_bracedText? found).suffix.trans (List.suffix_cons _ _)
  · exact suffix_of_bareValue? found

theorem properSuffix_of_attribute? {text behind : List Char} {found : Attribute}
    (read : attribute? text = some (found, behind)) : ProperSuffix behind text := by
  unfold attribute? at read
  simp only at read
  split at read
  · cases read
  · rename_i nonempty
    have named := properSuffix_dropWhile nonempty
    split at read
    · rename_i rest equals
      obtain ⟨cut, searched, same⟩ := Option.map_eq_some_iff.mp read
      cases same
      have separated := skipSeparators_suffix (text.dropWhile isAttributeNameCharacter)
      rw [equals] at separated
      have valued := (suffix_of_value? searched).trans (skipSeparators_suffix rest)
      exact named.suffix_trans ((valued.trans (List.suffix_cons _ _)).trans separated)
    · cases read
      exact named

/-- A step advances through every text that is not empty. -/
theorem properSuffix_attributeStep {text : List Char} (nonempty : text ≠ []) :
    ProperSuffix (attributeStep text).2 text := by
  unfold attributeStep
  split
  · rename_i read
    exact properSuffix_of_attribute? read
  · cases text with
    | nil => exact absurd rfl nonempty
    | cons character rest => exact properSuffix_cons _ List.suffix_rfl

/-- Every attribute of a text, in order. -/
def attributesIn (text : List Char) : Attributes :=
  if skipSeparators text = [] then []
  else
    (attributeStep (skipSeparators text)).1.toList
      ++ attributesIn (attributeStep (skipSeparators text)).2
termination_by text.length
decreasing_by
  exact ((properSuffix_attributeStep ‹_›).trans_suffix (skipSeparators_suffix text)).length_lt

end SceneMarkup.Markup
