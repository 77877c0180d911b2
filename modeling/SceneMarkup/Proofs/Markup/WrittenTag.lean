import SceneMarkup.Markup.Piece
import SceneMarkup.Proofs.Markup.Comment
import SceneMarkup.Proofs.Markup.Names
import SceneMarkup.Proofs.Text.Occurrence

/-!
Contract: tags as an author writes them, and what the tag readers make of them.

Owns:
- `QuotedAttribute`, an attribute in double quotes;
- `WrittenTag` and `WrittenEnd`, the opening and the closing tag of a built-in element, in any case;
- the theorems that both are read as they are written.

Does not own: the other written forms of attributes, and unknown tags.
-/

namespace SceneMarkup.Markup

open SceneMarkup.Text

/-! ### Written forms -/

/-- An attribute in double quotes, with the separators in front of it. -/
structure QuotedAttribute where
  gap : List Char
  name : List Char
  value : List Char
  separated : gap ≠ [] ∧ gap.all isSeparator = true
  named : name ≠ [] ∧ name.all isAttributeNameCharacter = true
  unquoted : '"' ∉ value

namespace QuotedAttribute

/-- One space separates an attribute from what stands before it. -/
theorem separated_space : [' '] ≠ [] ∧ [' '].all isSeparator = true := ⟨List.cons_ne_nil _ _, rfl⟩

/-- The characters behind the separators. -/
def pair (written : QuotedAttribute) : List Char :=
  written.name ++ '=' :: '"' :: (written.value ++ ['"'])

def text (written : QuotedAttribute) : List Char := written.gap ++ written.pair

def entry (written : QuotedAttribute) : Attribute :=
  ⟨String.ofList written.name, String.ofList written.value⟩

end QuotedAttribute

/-- What stands between the first and the last character of the opening tag of a built-in
element. -/
structure WrittenTag where
  name : String
  kind : Kind
  attributes : List QuotedAttribute
  trailing : List Char
  builtIn : Kind.ofTag? name = some kind
  separated : trailing.all isSeparator = true

namespace WrittenTag

/-- The characters behind the name. -/
def body (written : WrittenTag) : List Char :=
  written.attributes.flatMap QuotedAttribute.text ++ written.trailing

/-- The characters that close a tag. -/
def ending (selfClosing : Bool) : List Char := if selfClosing then ['/', '>'] else ['>']

def text (written : WrittenTag) (selfClosing : Bool) : List Char :=
  '<' :: (written.name.toList ++ (written.body ++ ending selfClosing))

/-- The tag that is written. -/
def tag (written : WrittenTag) (selfClosing : Bool) : OpeningTag :=
  ⟨written.name, written.attributes.map QuotedAttribute.entry, selfClosing⟩

end WrittenTag

/-- The closing tag of a built-in element, in which letters may have another case. -/
structure WrittenEnd (opened : WrittenTag) where
  name : String
  trailing : List Char
  sameName : sameWord name opened.name = true
  separated : trailing.all isSeparator = true

namespace WrittenEnd

variable {opened : WrittenTag}

def text (written : WrittenEnd opened) : List Char :=
  '<' :: '/' :: (written.name.toList ++ (written.trailing ++ ['>']))

/-- A closing tag names the same kind as its opening tag. -/
theorem builtIn (written : WrittenEnd opened) : Kind.ofTag? written.name = some opened.kind := by
  have same : written.name.toLower = opened.name.toLower := beq_iff_eq.mp written.sameName
  rw [Kind.ofTag?, same]
  exact opened.builtIn

end WrittenEnd

/-! ### Attributes -/

theorem attribute?_pair (written : QuotedAttribute) (behind : List Char) :
    attribute? (written.pair ++ behind) = some (written.entry, behind) := by
  have letters := List.all_eq_true.mp written.named.2
  have whole : written.pair ++ behind =
      written.name ++ '=' :: ('"' :: (written.value ++ '"' :: behind)) := by
    simp [QuotedAttribute.pair]
  have equals : isAttributeNameCharacter '=' = false := by decide
  rw [whole, attribute?, takeWhile_append_cons letters equals, dropWhile_append_cons letters equals,
    if_neg written.named.1, skipSeparators_cons (by decide)]
  change (value? (skipSeparators ('"' :: (written.value ++ '"' :: behind)))).map _ = _
  rw [skipSeparators_cons (by decide), value?, cutAt?_singleton written.unquoted]
  rfl

/-! ### Opening tags -/

/-- The body of a tag depends on what stands behind the separators. -/
theorem tagBody?_eq (text : List Char) :
    tagBody? text =
      match skipSeparators text with
      | [] => none
      | '>' :: rest => some ([], false, rest)
      | '/' :: '>' :: rest => some ([], true, rest)
      | character :: rest =>
        (tagBody? (attributeStep (character :: rest)).2).map
          fun (attributes, selfClosing, behind) =>
            ((attributeStep (character :: rest)).1.toList ++ attributes, selfClosing, behind) := by
  rw [tagBody?]
  split <;> simp_all

/-- An attribute in the body of a tag comes in front of the others. -/
theorem tagBody?_of_attribute? {gap others behind : List Char} {first : Char} {found : Attribute}
    (separated : gap.all isSeparator = true) (named : isAttributeNameCharacter first = true)
    (read : attribute? (first :: others) = some (found, behind)) :
    tagBody? (gap ++ first :: others) =
      (tagBody? behind).map fun (attributes, selfClosing, rest) =>
        (found :: attributes, selfClosing, rest) := by
  obtain ⟨notSeparator, notEnd, notSlash⟩ := of_attributeNameCharacter named
  -- The first character of the name rules out the two ends of a tag.
  rw [tagBody?_eq, skipSeparators_append separated, skipSeparators_cons notSeparator]
  split
  · rename_i impossible
    cases impossible
  · rename_i impossible
    cases impossible
    exact absurd rfl notEnd
  · rename_i impossible
    cases impossible
    exact absurd rfl notSlash
  · rename_i character rest _ _ split
    cases split
    rw [attributeStep, read]
    rfl

theorem tagBody?_attribute (written : QuotedAttribute) (behind : List Char) :
    tagBody? (written.text ++ behind) =
      (tagBody? behind).map fun (attributes, selfClosing, rest) =>
        (written.entry :: attributes, selfClosing, rest) := by
  obtain ⟨first, letters, same⟩ := List.exists_cons_of_ne_nil written.named.1
  have named : isAttributeNameCharacter first = true :=
    List.all_eq_true.mp written.named.2 first (by rw [same]; exact List.mem_cons_self ..)
  have begins : ∃ rest, written.pair ++ behind = first :: rest := by
    rw [QuotedAttribute.pair, same]
    exact ⟨_, rfl⟩
  obtain ⟨rest, begins⟩ := begins
  have read := attribute?_pair written behind
  rw [begins] at read
  rw [QuotedAttribute.text, List.append_assoc, begins,
    tagBody?_of_attribute? written.separated.2 named read]

theorem tagBody?_attributes (written : List QuotedAttribute) (behind : List Char) :
    tagBody? (written.flatMap QuotedAttribute.text ++ behind) =
      (tagBody? behind).map fun (attributes, selfClosing, rest) =>
        (written.map QuotedAttribute.entry ++ attributes, selfClosing, rest) := by
  induction written with
  | nil => simp
  | cons first others inductionHypothesis =>
    rw [List.flatMap_cons, List.append_assoc, tagBody?_attribute, inductionHypothesis,
      Option.map_map]
    rfl

theorem tagBody?_ending {trailing : List Char} (separated : trailing.all isSeparator = true)
    (selfClosing : Bool) (behind : List Char) :
    tagBody? (trailing ++ (WrittenTag.ending selfClosing ++ behind)) =
      some ([], selfClosing, behind) := by
  rw [tagBody?_eq, skipSeparators_append separated]
  cases selfClosing with
  | false =>
    rw [WrittenTag.ending, if_neg Bool.false_ne_true, List.cons_append,
      skipSeparators_cons (by decide)]
    rfl
  | true =>
    rw [WrittenTag.ending, if_pos rfl, List.cons_append, skipSeparators_cons (by decide)]
    rfl

/-- Separators in front of a character that belongs to no name do not begin a name either. -/
theorem exists_cons_of_separators {separators : List Char}
    (all : separators.all isSeparator = true) {character : Char}
    (other : isNameCharacter character = false) (rest : List Char) :
    ∃ first others, isNameCharacter first = false ∧
      separators ++ character :: rest = first :: others := by
  cases separators with
  | nil => exact ⟨character, rest, other, rfl⟩
  | cons first others =>
    exact ⟨first, _, not_nameCharacter_of_separator (List.all_eq_true.mp all first
      (List.mem_cons_self ..)), rfl⟩

/-- The body of a tag does not begin with a name character. -/
theorem exists_cons_of_body (written : WrittenTag) (selfClosing : Bool) (behind : List Char) :
    ∃ first others, isNameCharacter first = false ∧
      written.body ++ (WrittenTag.ending selfClosing ++ behind) = first :: others := by
  have ending : ∃ character rest, isNameCharacter character = false ∧
      WrittenTag.ending selfClosing ++ behind = character :: rest := by
    cases selfClosing with
    | false => exact ⟨'>', behind, by decide, rfl⟩
    | true => exact ⟨'/', '>' :: behind, by decide, rfl⟩
  obtain ⟨character, rest, other, same⟩ := ending
  rw [WrittenTag.body, same, List.append_assoc]
  cases written.attributes with
  | nil => exact exists_cons_of_separators written.separated other rest
  | cons first others =>
    obtain ⟨separator, more, gap⟩ := List.exists_cons_of_ne_nil first.separated.1
    have separators := List.all_eq_true.mp first.separated.2
    rw [gap] at separators
    rw [List.flatMap_cons, QuotedAttribute.text, gap]
    exact ⟨separator, _, not_nameCharacter_of_separator (separators _ (List.mem_cons_self ..)), rfl⟩

/-- A name in front of another character, as the tag readers see it. -/
theorem tagName_append_cons {name : List Char} (nonempty : name ≠ [])
    (letters : ∀ letter ∈ name, isNameCharacter letter = true) {character : Char}
    (other : isNameCharacter character = false) (rest : List Char) :
    startsName (name ++ character :: rest) = true ∧
      tagName (name ++ character :: rest) = name ∧
      behindTagName (name ++ character :: rest) = character :: rest := by
  refine ⟨?_, takeWhile_append_cons letters other rest, dropWhile_append_cons letters other rest⟩
  obtain ⟨first, others, same⟩ := List.exists_cons_of_ne_nil nonempty
  rw [same, startsName, List.cons_append, List.head?_cons, Option.any_some]
  exact letters first (by rw [same]; exact List.mem_cons_self ..)

theorem tagName_builtIn {name : String} {kind : Kind} (builtIn : Kind.ofTag? name = some kind)
    {character : Char} (other : isNameCharacter character = false) (rest : List Char) :
    startsName (name.toList ++ character :: rest) = true ∧
      String.ofList (tagName (name.toList ++ character :: rest)) = name ∧
      behindTagName (name.toList ++ character :: rest) = character :: rest := by
  obtain ⟨nonempty, letters⟩ := nameCharacters_of_ofTag? builtIn
  obtain ⟨started, same, behind⟩ := tagName_append_cons nonempty letters other rest
  exact ⟨started, by rw [same, String.ofList_toList], behind⟩

/-- A name character begins neither a comment nor the end of a tag. -/
theorem ne_of_nameCharacter {character : Char} (named : isNameCharacter character = true) :
    character ≠ '!' ∧ character ≠ '/' ∧ character ≠ '>' := by
  refine ⟨?_, ?_, ?_⟩ <;> rintro rfl <;> revert named <;> decide

/-- The first character of a built-in tag's name is a name character, so that neither a comment nor
a closing tag begins with the `<` in front of it. -/
theorem exists_cons_of_builtIn {name : String} {kind : Kind}
    (builtIn : Kind.ofTag? name = some kind) (rest : List Char) :
    ∃ first others, isNameCharacter first = true ∧ first ≠ '!' ∧ first ≠ '/' ∧
      name.toList ++ rest = first :: others := by
  obtain ⟨nonempty, letters⟩ := nameCharacters_of_ofTag? builtIn
  obtain ⟨first, others, same⟩ := List.exists_cons_of_ne_nil nonempty
  rw [same] at letters ⊢
  have named := letters first (List.mem_cons_self ..)
  obtain ⟨notRemark, notSlash, -⟩ := ne_of_nameCharacter named
  exact ⟨first, others ++ rest, named, notRemark, notSlash, rfl⟩

/-- An opening tag is read as it is written. -/
theorem openingTag?_text (written : WrittenTag) (selfClosing : Bool) (behind : List Char) :
    openingTag? (written.name.toList ++
        (written.body ++ (WrittenTag.ending selfClosing ++ behind))) =
      some (written.tag selfClosing, behind) := by
  obtain ⟨character, rest, other, same⟩ := exists_cons_of_body written selfClosing behind
  obtain ⟨started, name, body⟩ := tagName_builtIn written.builtIn other rest
  rw [same, openingTag?, if_pos started, name, body, ← same, WrittenTag.body, List.append_assoc,
    tagBody?_attributes, tagBody?_ending written.separated]
  simp [WrittenTag.tag]

theorem closingTag?_text {opened : WrittenTag} (written : WrittenEnd opened) (behind : List Char) :
    closingTag? (written.name.toList ++ (written.trailing ++ '>' :: behind)) =
      some (written.name, behind) := by
  have skipped : skipSeparators (written.trailing ++ '>' :: behind) = '>' :: behind := by
    rw [skipSeparators_append written.separated, skipSeparators_cons (by decide)]
  have begins : ∃ character rest, isNameCharacter character = false ∧
      written.trailing ++ '>' :: behind = character :: rest :=
    exists_cons_of_separators written.separated (by decide) behind
  obtain ⟨character, rest, other, same⟩ := begins
  obtain ⟨started, name, body⟩ := tagName_builtIn written.builtIn other rest
  rw [same] at skipped ⊢
  rw [closingTag?, if_pos started, name, body, skipped]
  rfl

/-! ### Marks -/

/-- An opening tag behind a `<` is a mark. -/
theorem mark?_of_openingTag? {recovery : Recovery} {first : Char} {others behind : List Char}
    {tag : OpeningTag} (named : isNameCharacter first = true)
    (read : openingTag? (first :: others) = some (tag, behind)) :
    mark? recovery ('<' :: first :: others) = some (.opening tag, behind) := by
  obtain ⟨notRemark, notSlash, -⟩ := ne_of_nameCharacter named
  have started : startsName (first :: others) = true := named
  rw [mark?, behindComment?_of_tag notRemark, started, read]
  · rfl
  · rintro rest same
    cases same
    exact notSlash rfl

/-- The mark of an opening tag. -/
theorem mark?_text (recovery : Recovery) (written : WrittenTag) (selfClosing : Bool)
    (behind : List Char) :
    mark? recovery (written.text selfClosing ++ behind) =
      some (.opening (written.tag selfClosing), behind) := by
  have whole : written.text selfClosing ++ behind = '<' :: (written.name.toList ++
      (written.body ++ (WrittenTag.ending selfClosing ++ behind))) := by
    simp [WrittenTag.text]
  have read := openingTag?_text written selfClosing behind
  obtain ⟨first, others, named, -, -, begins⟩ := exists_cons_of_builtIn written.builtIn
    (written.body ++ (WrittenTag.ending selfClosing ++ behind))
  rw [begins] at read whole
  rw [whole, mark?_of_openingTag? named read]

theorem mark?_end (recovery : Recovery) {opened : WrittenTag} (written : WrittenEnd opened)
    (behind : List Char) :
    mark? recovery (written.text ++ behind) = some (.closing written.name, behind) := by
  have whole : written.text ++ behind =
      '<' :: '/' :: (written.name.toList ++ (written.trailing ++ '>' :: behind)) := by
    simp [WrittenEnd.text]
  have read := closingTag?_text written behind
  obtain ⟨first, others, named, _, _, begins⟩ := exists_cons_of_builtIn written.builtIn
    (written.trailing ++ '>' :: behind)
  rw [begins] at read whole
  have started : startsName (first :: others) = true := named
  rw [whole, mark?, behindComment?_of_tag (by decide), started, read]
  rfl

end SceneMarkup.Markup
