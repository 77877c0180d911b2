import SceneMarkup.Proofs.Markup.Scanning
import SceneMarkup.Proofs.Markup.ValueForms
import SceneMarkup.Proofs.Template.Ceilings
import SceneMarkup.Proofs.Template.Rendering
import SceneMarkup.Proofs.Template.SlotTags

/-!
Contract: a component body that is a single tag, and the tag that an include makes of it.

Owns:
- `TemplateTag`, a tag whose attribute values are placeholders, with quotes or without;
- its text with something in place of each placeholder, which the scans of a body produce;
- `Readable`, the values that a tag gives back when they stand in its text;
- the theorem about the expansion of an include of such a body.

Does not own: bodies with content, and the values of placeholders.
-/

namespace SceneMarkup.Template

open SceneMarkup.Text SceneMarkup.Markup

/-! ### Statement -/

/-- What stands around a value in a tag. -/
inductive Quoting where
  | double
  | single
  | bare
deriving DecidableEq, Repr

def Quoting.quote : Quoting → List Char
  | double => ['"']
  | single => ['\'']
  | bare => []

/-- An attribute of which the value is one placeholder, with the separators in front of it. -/
structure TemplateAttribute where
  gap : List Char
  name : List Char
  quoting : Quoting
  /-- What stands between the braces. -/
  inner : List Char
  separated : gap ≠ [] ∧ gap.all isSeparator = true
  named : name ≠ [] ∧ name.all isAttributeNameCharacter = true
  unbraced : '\x7b' ∉ inner ∧ '\x7d' ∉ inner
  uncommented : ¬ ['/', '*'] <+: inner
  /-- The placeholder does not stand for the main content. -/
  unaliased : contentNames.any (sameWord · (String.ofList (trim inner))) = false

/-- A tag that closes itself, of any name but those of slots and includes. -/
structure TemplateTag where
  name : List Char
  attributes : List TemplateAttribute
  trailing : List Char
  named : name ≠ [] ∧ name.all isNameCharacter = true
  separated : trailing.all isSeparator = true
  unslotted : sameWord (String.ofList name) "slot" = false
  unincluded : sameWord (String.ofList name) "include" = false

/-- The characters of an attribute in front of its value. -/
def TemplateAttribute.front (written : TemplateAttribute) : List Char :=
  written.gap ++ (written.name ++ '=' :: written.quoting.quote)

/-- Text without quotes, braces and angle brackets. -/
def Plain (value : List Char) : Prop :=
  ∀ character ∈ value, character ∉ ['"', '\'', '\x7b', '\x7d', '<', '>']

instance (value : List Char) : Decidable (Plain value) :=
  value.decidableBAll _

section Text

variable (shown : List Char → List Char)

namespace TemplateAttribute

/-- An attribute with something else in place of its placeholder. -/
def textWith (written : TemplateAttribute) : List Char :=
  written.front ++ (shown written.inner ++ written.quoting.quote)

def entryWith (written : TemplateAttribute) : Attribute :=
  ⟨String.ofList written.name, String.ofList (shown written.inner)⟩

end TemplateAttribute

namespace TemplateTag

def textWith (written : TemplateTag) : List Char :=
  '<' :: (written.name ++ (written.attributes.flatMap (TemplateAttribute.textWith shown) ++
    (written.trailing ++ ['/', '>'])))

def tagWith (written : TemplateTag) : OpeningTag :=
  ⟨String.ofList written.name, written.attributes.map (TemplateAttribute.entryWith shown), true⟩

end TemplateTag

/-- What may be shown in the attributes of a tag: plain text. Without quotes around it, it has no
blanks either, and is not empty, except in the last attribute. -/
structure Readable (attributes : List TemplateAttribute) : Prop where
  plain : ∀ written ∈ attributes, Plain (shown written.inner)
  unblank : ∀ written ∈ attributes, written.quoting = .bare →
    ∀ character ∈ shown written.inner, isBlank character = false
  nonempty : ∀ written ∈ attributes.dropLast, written.quoting = .bare → shown written.inner ≠ []

end Text

/-- An expression with its braces. -/
def braced (inner : List Char) : List Char := '\x7b' :: (inner ++ ['\x7d'])

/-- The characters of the body. -/
def TemplateTag.text (written : TemplateTag) : List Char := written.textWith braced

/-! ### Scans of the body -/

/-- The recogniser of the parts of a body, with slots or without. -/
def segments (slots : Bool) : Recogniser Segment := ⟨segment? slots, properSuffix_of_segment?⟩

section Scan

variable {slots : Bool}

/-- No part begins at a character with which neither a tag nor a placeholder begins. -/
theorem segments_unread {plain : List Char} (untagged : '<' ∉ plain) (unbraced : '\x7b' ∉ plain)
    (behind : List Char) : (segments slots).Unread behind plain := by
  induction plain with
  | nil => exact trivial
  | cons character plain inductionHypothesis =>
    rw [List.mem_cons, not_or] at untagged unbraced
    refine ⟨?_, inductionHypothesis untagged.2 unbraced.2⟩
    show segment? slots (character :: (plain ++ behind)) = none
    unfold segment?
    rw [behindComment?, commentForm_of_plain (Ne.symm untagged.1) (Ne.symm unbraced.1),
      Option.map_none]
    dsimp only
    rw [if_neg (Ne.symm unbraced.1), startsSlotTag_of_ne (Ne.symm untagged.1), Bool.and_false,
      if_neg Bool.false_ne_true]

/-- No part begins at the `<` of a tag that is not one of a slot. -/
theorem segment?_of_tag {name : List Char} (nonempty : name ≠ [])
    (letters : ∀ letter ∈ name, isNameCharacter letter = true)
    (unslotted : sameWord (String.ofList name) "slot" = false) {character : Char}
    (other : isNameCharacter character = false) (rest : List Char) :
    segment? slots ('<' :: (name ++ character :: rest)) = none := by
  obtain ⟨-, named, -⟩ := tagName_append_cons nonempty letters other rest
  have unstarted : startsSlotTag ('<' :: (name ++ character :: rest)) = false := by
    rw [Bool.eq_false_iff]
    intro starts
    have slotted := sameWord_of_startsSlotTag starts
    rw [named, unslotted] at slotted
    cases slotted
  obtain ⟨first, others, rfl⟩ := List.exists_cons_of_ne_nil nonempty
  obtain ⟨notRemark, -, -⟩ := ne_of_nameCharacter (letters first List.mem_cons_self)
  unfold segment?
  rw [List.cons_append, behindComment?_of_tag notRemark]
  dsimp only
  rw [← List.cons_append, unstarted, Bool.and_false, if_neg (by decide), if_neg Bool.false_ne_true]

variable (replace : Segment → List Char → List Char)

/-- What a rewriting of the parts of a body shows for a placeholder. -/
def replaced (inner : List Char) : List Char := replace (.placeholder inner) (braced inner)

theorem rewrite_braced {inner : List Char} (unbraced : '\x7b' ∉ inner ∧ '\x7d' ∉ inner)
    (uncommented : ¬ ['/', '*'] <+: inner) (behind : List Char) :
    (segments slots).rewrite replace (braced inner ++ behind) =
      replaced replace inner ++ (segments slots).rewrite replace behind := by
  have read := segment?_braced slots unbraced uncommented behind
  have whole : braced inner ++ behind = '\x7b' :: (inner ++ '\x7d' :: behind) := by simp [braced]
  rw [← whole] at read
  exact (segments slots).rewrite_of_read replace read

theorem rewrite_plain {plain : List Char} (untagged : '<' ∉ plain) (unbraced : '\x7b' ∉ plain)
    (behind : List Char) :
    (segments slots).rewrite replace (plain ++ behind) =
      plain ++ (segments slots).rewrite replace behind :=
  (segments slots).rewrite_of_unread replace (segments_unread untagged unbraced behind)

/-- A text of characters of one kind has no character of another. -/
theorem not_mem_of_all {kind : Char → Bool} {text : List Char} (all : text.all kind = true)
    {character : Char} (other : kind character = false) : character ∉ text := by
  intro member
  rw [List.all_eq_true.mp all character member] at other
  cases other

/-- The characters in front of a value, and the quote behind it, are plain. -/
theorem TemplateAttribute.plain_front (written : TemplateAttribute) {character : Char}
    (special : character = '<' ∨ character = '\x7b') :
    character ∉ written.front ∧ character ∉ written.quoting.quote := by
  have unquoted : character ∉ written.quoting.quote := by
    rcases special with rfl | rfl <;> cases written.quoting <;> decide
  have unseparated : character ∉ written.gap := by
    apply not_mem_of_all written.separated.2
    rcases special with rfl | rfl <;> decide
  have unnamed : character ∉ written.name := by
    apply not_mem_of_all written.named.2
    rcases special with rfl | rfl <;> decide
  have unequal : character ≠ '=' := by rcases special with rfl | rfl <;> decide
  exact ⟨by simp [TemplateAttribute.front, unquoted, unseparated, unnamed, unequal], unquoted⟩

theorem rewrite_attribute (written : TemplateAttribute) (behind : List Char) :
    (segments slots).rewrite replace (written.textWith braced ++ behind) =
      written.textWith (replaced replace) ++ (segments slots).rewrite replace behind := by
  obtain ⟨untagged, untaggedQuote⟩ := written.plain_front (.inl rfl)
  obtain ⟨unbraced, unbracedQuote⟩ := written.plain_front (.inr rfl)
  rw [TemplateAttribute.textWith, TemplateAttribute.textWith, List.append_assoc,
    rewrite_plain replace untagged unbraced, List.append_assoc,
    rewrite_braced replace written.unbraced written.uncommented,
    rewrite_plain replace untaggedQuote unbracedQuote]
  simp

theorem rewrite_attributes (attributes : List TemplateAttribute) (behind : List Char) :
    (segments slots).rewrite replace
        (attributes.flatMap (TemplateAttribute.textWith braced) ++ behind) =
      attributes.flatMap (TemplateAttribute.textWith (replaced replace)) ++
        (segments slots).rewrite replace behind := by
  induction attributes with
  | nil => rfl
  | cons first others inductionHypothesis =>
    rw [List.flatMap_cons, List.flatMap_cons, List.append_assoc, rewrite_attribute,
      inductionHypothesis, List.append_assoc]

end Scan

/-- Attributes begin with a separator. -/
theorem exists_cons_of_attributes (shown : List Char → List Char) (first : TemplateAttribute)
    (others : List TemplateAttribute) (behind : List Char) :
    ∃ separator rest, isSeparator separator = true ∧
      (first :: others).flatMap (TemplateAttribute.textWith shown) ++ behind =
        separator :: rest := by
  obtain ⟨separator, more, gap⟩ := List.exists_cons_of_ne_nil first.separated.1
  have separators := List.all_eq_true.mp first.separated.2
  rw [gap] at separators
  rw [List.flatMap_cons, TemplateAttribute.textWith, TemplateAttribute.front, gap]
  exact ⟨separator, _, separators separator List.mem_cons_self, rfl⟩

/-- Behind the name of a tag stands a character of no name. -/
theorem TemplateTag.exists_cons_of_body (written : TemplateTag) (shown : List Char → List Char)
    (behind : List Char) :
    ∃ character rest, isNameCharacter character = false ∧
      written.attributes.flatMap (TemplateAttribute.textWith shown) ++
        (written.trailing ++ '/' :: behind) = character :: rest := by
  cases written.attributes with
  | nil => exact exists_cons_of_separators written.separated (by decide) behind
  | cons first others =>
    obtain ⟨separator, rest, separates, same⟩ := exists_cons_of_attributes shown first others _
    exact ⟨separator, rest, not_nameCharacter_of_separator separates, same⟩

/-- Rewriting the body shows something in place of each placeholder and changes nothing else. -/
theorem rewrite_text (slots : Bool) (replace : Segment → List Char → List Char)
    (written : TemplateTag) :
    (segments slots).rewrite replace written.text = written.textWith (replaced replace) := by
  have letters := List.all_eq_true.mp written.named.2
  obtain ⟨character, rest, other, same⟩ := written.exists_cons_of_body braced ['>']
  have opening : (segments slots).Unread (written.name ++ character :: rest) ['<'] :=
    ⟨segment?_of_tag written.named.1 letters written.unslotted other rest, trivial⟩
  have untagged : '<' ∉ written.name := not_mem_of_all written.named.2 (by decide)
  have unbraced : '\x7b' ∉ written.name := not_mem_of_all written.named.2 (by decide)
  have unending : '<' ∉ written.trailing ++ ['/', '>'] ∧ '\x7b' ∉ written.trailing ++ ['/', '>'] := by
    simp [not_mem_of_all written.separated (show isSeparator '<' = false by decide),
      not_mem_of_all written.separated (show isSeparator '\x7b' = false by decide)]
  have ending := @rewrite_plain slots replace _ unending.1 unending.2 []
  rw [Recogniser.rewrite_nil, List.append_nil] at ending
  have whole := (segments slots).rewrite_of_unread replace opening
  rw [← same, rewrite_plain replace untagged unbraced, rewrite_attributes, ending] at whole
  exact whole

/-- Filling slots leaves the body as it is. -/
theorem fillSlots_tag (attributes : Attributes) (content : SlotContent) (written : TemplateTag) :
    fillSlots attributes content written.text = written.text := by
  have kept : ∀ hole ∈ written.attributes,
      hole.textWith (replaced (fillPart attributes content)) = hole.textWith braced := by
    intro hole _
    have unfilled : contentFor? attributes content hole.inner = none := by
      unfold contentFor?
      dsimp only
      rw [hole.unaliased, if_neg Bool.false_ne_true]
    have same : replaced (fillPart attributes content) hole.inner = braced hole.inner := by
      rw [replaced, fillPart, unfilled, Option.getD_none]
    rw [TemplateAttribute.textWith, TemplateAttribute.textWith, same]
  have rewritten := rewrite_text true (fillPart attributes content) written
  rw [fillSlots_eq]
  refine rewritten.trans ?_
  rw [TemplateTag.text, TemplateTag.textWith, TemplateTag.textWith, List.flatMap_def,
    List.map_congr_left kept, ← List.flatMap_def]

theorem instantiate_tag (attributes : Attributes) (content : SlotContent) (written : TemplateTag) :
    instantiate written.text attributes content =
      written.textWith (placeholderValue attributes) := by
  rw [instantiate, fillSlots_tag, evaluatePlaceholders_eq]
  exact rewrite_text false (evaluatePart attributes) written

/-! ### Reading of the result -/

section Reading

variable {quoting : Quoting} {value left : List Char}

/-- A value without quotes that is not empty begins where the separators end. -/
theorem value?_of_unblank (plain : Plain value)
    (unblank : ∀ character ∈ value, isBlank character = false) (nonempty : value ≠ []) :
    value? (skipSeparators (value ++ left)) = bareValue? (value ++ left) := by
  obtain ⟨first, rest, rfl⟩ := List.exists_cons_of_ne_nil nonempty
  have visible : isSeparator first = false := by
    rw [Bool.eq_false_iff]
    intro separator
    have blank := isBlank_of_isSeparator separator
    rw [unblank first List.mem_cons_self] at blank
    cases blank
  rw [List.cons_append, skipSeparators_cons visible]
  apply value?_of_bare
  intro character begins
  obtain rfl : first = character := Option.some.inj begins
  have other := plain first List.mem_cons_self
  simp only [List.mem_cons, not_or] at other
  exact ⟨other.1, other.2.1, other.2.2.1⟩

theorem isBareCharacter_of_plain (plain : Plain value)
    (unblank : ∀ character ∈ value, isBlank character = false) :
    ∀ character ∈ value, isBareCharacter character = true := by
  intro character member
  have other := plain character member
  simp only [List.mem_cons, not_or] at other
  simp [isBareCharacter, unblank character member, other.2.2.2.2.2.1]

/-- The value of an attribute is read back in front of other attributes, and in front of the end of
the tag, where a value without quotes may be empty. -/
theorem exists_value?_quoted (plain : Plain value)
    (unblank : quoting = .bare → ∀ character ∈ value, isBlank character = false)
    (followed :
      ((quoting = .bare → value ≠ []) ∧
        ∃ character rest, isSeparator character = true ∧ left = character :: rest) ∨
      ∃ trailing behind, trailing.all isSeparator = true ∧ left = trailing ++ '/' :: '>' :: behind) :
    ∃ others, value? (skipSeparators (quoting.quote ++ (value ++ (quoting.quote ++ left)))) =
      some (value, others) ∧ tagBody? others = tagBody? left := by
  cases quoting with
  | double =>
    refine ⟨left, ?_, rfl⟩
    have unquoted : '"' ∉ value := fun member => plain _ member (by decide)
    exact (congrArg value? (skipSeparators_cons (by decide) _)).trans (value?_double unquoted left)
  | single =>
    refine ⟨left, ?_, rfl⟩
    have unquoted : '\'' ∉ value := fun member => plain _ member (by decide)
    exact (congrArg value? (skipSeparators_cons (by decide) _)).trans (value?_single unquoted left)
  | bare =>
    have visible := unblank rfl
    have bare := isBareCharacter_of_plain plain visible
    -- A blank ends the value, and so does the slash that ends the tag.
    have beforeBlank (nonempty : value ≠ []) {character : Char} {rest : List Char}
        (separator : isSeparator character = true) :
        value? (skipSeparators (value ++ character :: rest)) =
          some (value, character :: rest) := by
      rw [value?_of_unblank plain visible nonempty,
        bareValue?_of_blank nonempty bare (isBlank_of_isSeparator separator)]
    rcases followed with ⟨nonempty, character, rest, separator, rfl⟩ |
      ⟨trailing, behind, separated, rfl⟩
    · exact ⟨_, beforeBlank (nonempty rfl) separator, rfl⟩
    · by_cases empty : value = []
      · subst empty
        refine ⟨'/' :: '>' :: behind, ?_, ?_⟩
        · show value? (skipSeparators (trailing ++ '/' :: '>' :: behind)) = _
          rw [skipSeparators_append separated, skipSeparators_cons (by decide),
            value?_of_bare (by simp)]
          have read := bareValue?_of_slash bare behind
          exact read
        · exact (tagBody?_ending (show List.all [] isSeparator = true from rfl) true behind).trans
            (tagBody?_ending separated true behind).symm
      · refine ⟨_, ?_, rfl⟩
        cases trailing with
        | nil =>
          exact (value?_of_unblank plain visible empty).trans (bareValue?_of_slash bare behind)
        | cons separator others =>
          exact beforeBlank empty (List.all_eq_true.mp separated _ List.mem_cons_self)

end Reading

variable {shown : List Char → List Char}

theorem Readable.tail {first : TemplateAttribute} {others : List TemplateAttribute}
    (readable : Readable shown (first :: others)) : Readable shown others where
  plain written member := readable.plain written (List.mem_cons_of_mem _ member)
  unblank written member := readable.unblank written (List.mem_cons_of_mem _ member)
  nonempty written member := by
    apply readable.nonempty
    cases others with
    | nil => cases member
    | cons second others => exact List.mem_cons_of_mem _ member

/-- An attribute in front of others, or of the end of the tag, is read back. -/
theorem tagBody?_first {first : TemplateAttribute} {others : List TemplateAttribute}
    (readable : Readable shown (first :: others)) {trailing : List Char}
    (separated : trailing.all isSeparator = true) (behind : List Char) :
    let left := others.flatMap (TemplateAttribute.textWith shown) ++ (trailing ++ '/' :: '>' :: behind)
    tagBody? (first.textWith shown ++ left) =
      (tagBody? left).map fun (attributes, selfClosing, rest) =>
        (first.entryWith shown :: attributes, selfClosing, rest) := by
  intro left
  have followed : ((first.quoting = .bare → shown first.inner ≠ []) ∧
        ∃ character rest, isSeparator character = true ∧ left = character :: rest) ∨
      ∃ trailing behind, trailing.all isSeparator = true ∧
        left = trailing ++ '/' :: '>' :: behind := by
    cases others with
    | nil => exact .inr ⟨trailing, behind, separated, rfl⟩
    | cons second others =>
      exact .inl ⟨readable.nonempty first List.mem_cons_self,
        exists_cons_of_attributes shown second others _⟩
  obtain ⟨further, valued, same⟩ := exists_value?_quoted
    (readable.plain first List.mem_cons_self) (readable.unblank first List.mem_cons_self) followed
  have letters := List.all_eq_true.mp first.named.2
  have read := attribute?_of_value? first.named.1 letters valued
  obtain ⟨letter, more, name⟩ := List.exists_cons_of_ne_nil first.named.1
  have named := letters letter (by rw [name]; exact List.mem_cons_self)
  rw [← same]
  have whole : first.textWith shown ++ left = first.gap ++ (first.name ++ '=' ::
      (first.quoting.quote ++ (shown first.inner ++ (first.quoting.quote ++ left)))) := by
    simp [TemplateAttribute.textWith, TemplateAttribute.front]
  rw [whole]
  rw [name, List.cons_append] at read ⊢
  rw [tagBody?_of_attribute? first.separated.2 named read, TemplateAttribute.entryWith, name]

/-- The attributes of a tag are read back one after the other. -/
theorem tagBody?_shown {attributes : List TemplateAttribute} (readable : Readable shown attributes)
    {trailing : List Char} (separated : trailing.all isSeparator = true) (behind : List Char) :
    tagBody? (attributes.flatMap (TemplateAttribute.textWith shown) ++
        (trailing ++ '/' :: '>' :: behind)) =
      some (attributes.map (TemplateAttribute.entryWith shown), true, behind) := by
  induction attributes with
  | nil => exact tagBody?_ending separated true behind
  | cons first others inductionHypothesis =>
    rw [List.flatMap_cons, List.append_assoc, tagBody?_first readable separated,
      inductionHypothesis readable.tail]
    rfl

/-- The tag is read as it is shown. -/
theorem mark?_shown {recovery : Recovery} {written : TemplateTag}
    (readable : Readable shown written.attributes) :
    mark? recovery (written.textWith shown) = some (.opening (written.tagWith shown), []) := by
  have letters := List.all_eq_true.mp written.named.2
  obtain ⟨character, rest, other, same⟩ := written.exists_cons_of_body shown ['>']
  obtain ⟨started, name, body⟩ := tagName_append_cons written.named.1 letters other rest
  have read := tagBody?_shown readable written.separated []
  have opened : openingTag? (written.name ++ character :: rest) =
      some (written.tagWith shown, []) := by
    rw [openingTag?, if_pos started, name, body, ← same, read]
    rfl
  obtain ⟨first, others, begins⟩ := List.exists_cons_of_ne_nil written.named.1
  have named := letters first (by rw [begins]; exact List.mem_cons_self)
  rw [TemplateTag.textWith, same]
  rw [begins, List.cons_append] at opened ⊢
  exact mark?_of_openingTag? named opened

/-! ### Expansion -/

theorem closeOf?_nil (tag : OpeningTag) : closeOf? tag [] = none := by
  unfold closeOf?
  split <;> rfl

/-- A pass over a single include tag replaces it. -/
theorem pass_of_single {library : TemplateLibrary} {source : List Char} {found : OpeningTag}
    (single : lenientPieces source = [⟨.opening found, source, 0⟩])
    (included : sameWord found.name "include" = true) (budget : Nat) :
    pass library (budget + 1) source =
      (Include.replacement library ⟨source, found.attributes, []⟩, 1) := by
  have parts : passParts (budget + 1) (lenientPieces source) =
      [.replaced ⟨source, found.attributes, []⟩] := by
    rw [single, passParts]
    dsimp only
    rw [if_pos included, closeOf?_nil, passParts]
  simp [pass, parts, PassPart.text, PassPart.isReplaced]

/-- Expanding a single include tag puts its replacement in its place, if no further include comes
with it. -/
theorem expand_of_single {library : TemplateLibrary} {source : String} {found : OpeningTag}
    (single : lenientPieces source.toList = [⟨.opening found, source.toList, 0⟩])
    (included : sameWord found.name "include" = true)
    (settled : ¬ HasInclude (Include.replacement library ⟨source.toList, found.attributes, []⟩)) :
    expand library source =
      String.ofList (Include.replacement library ⟨source.toList, found.attributes, []⟩) := by
  have later := expandFrom_of_not_hasInclude library 8 (show 1 < maximalReplacements by decide) settled
  have run : expansion library source.toList =
      ⟨Include.replacement library ⟨source.toList, found.attributes, []⟩, [1, 0]⟩ := by
    show expandFrom library 10 0 source.toList = _
    rw [expandFrom, show maximalReplacements - 0 = 99 + 1 from rfl, pass_of_single single included]
    simp only
    rw [Nat.zero_add, later]
    rfl
  rw [expand, run]

theorem not_hasInclude_shown {shown : List Char → List Char} {written : TemplateTag}
    (readable : Readable shown written.attributes) : ¬ HasInclude (written.textWith shown) := by
  rintro ⟨piece, member, included⟩
  rw [lenientPieces, pieces_of_mark? (mark?_shown readable), List.mem_singleton] at member
  subst member
  have other := written.unincluded
  rw [isInclude_opening rfl, TemplateTag.tagWith, other] at included
  cases included

/-- Expanding an include of a body that is a single tag makes that tag, with the value of each
placeholder in place of it. -/
theorem expand_keeps_attributes {library : TemplateLibrary} {source : String}
    {found : OpeningTag} {written : TemplateTag}
    (single : lenientPieces source.toList = [⟨.opening found, source.toList, 0⟩])
    (included : sameWord found.name "include" = true)
    (named : bodyOf library found.attributes = .ok (String.ofList written.text))
    (readable : Readable (placeholderValue found.attributes) written.attributes) :
    tokenize (expand library source) =
      .ok [⟨.opening (written.tagWith (placeholderValue found.attributes)),
        written.textWith (placeholderValue found.attributes), 0⟩] := by
  have replaced : Include.replacement library ⟨source.toList, found.attributes, []⟩ =
      written.textWith (placeholderValue found.attributes) := by
    rw [Include.replacement, named]
    dsimp only
    rw [String.toList_ofList, instantiate_tag]
  have settled := not_hasInclude_shown readable
  rw [← replaced] at settled
  rw [expand_of_single single included settled, replaced,
    tokenize_of_mark? (mark?_shown readable) Mark.noConfusion]
  rfl

theorem bodyOf_of_find? (name : String) {library : TemplateLibrary} {attributes : Attributes}
    {body : String}
    (named : attributes.nonEmpty? "component" = some name)
    (found : library.find? name = some body) : bodyOf library attributes = .ok body := by
  rw [bodyOf, named]
  dsimp only
  rw [found]

/-! ### Quotes around an empty value and around a space -/

/-- Attributes of an include that gives no `a`. -/
def sampleAttributes : Attributes := [⟨"component", "B"⟩, ⟨"b", "5"⟩, ⟨"c", "Hello World"⟩]

theorem placeholderValue_sample :
    placeholderValue sampleAttributes ['a'] = [] ∧ placeholderValue sampleAttributes ['b'] = ['5'] ∧
      placeholderValue sampleAttributes ['c'] = "Hello World".toList := by
  rw [placeholderValue_of_name "a" (by decide +kernel),
    placeholderValue_of_name "b" (by decide +kernel),
    placeholderValue_of_name "c" (by decide +kernel)]
  decide +kernel

/-- An attribute behind one space, with a placeholder that names one attribute of the include. -/
def sampleAttribute (name : List Char) (quoting : Quoting) (inner : List Char)
    (named : name ≠ [] ∧ name.all isAttributeNameCharacter = true)
    (letters : inner ∈ [['a'], ['b'], ['c']]) : TemplateAttribute where
  gap := [' ']
  name := name
  quoting := quoting
  inner := inner
  separated := QuotedAttribute.separated_space
  named := named
  unbraced := by revert inner; decide
  uncommented := by revert inner; decide
  unaliased := by revert inner; decide +kernel

theorem named_box :
    ("box".toList ≠ [] ∧ "box".toList.all isNameCharacter = true) ∧
      sameWord (String.ofList "box".toList) "slot" = false ∧
      sameWord (String.ofList "box".toList) "include" = false := by
  decide +kernel

def sampleTag (attributes : List TemplateAttribute) : TemplateTag where
  name := "box".toList
  attributes := attributes
  trailing := []
  named := named_box.1
  separated := List.all_nil
  unslotted := named_box.2.1
  unincluded := named_box.2.2

/-- Quotes of both kinds, and none around a number. -/
def quotedTag : TemplateTag := sampleTag [
  sampleAttribute ['x'] .double ['a'] (by decide) (by decide),
  sampleAttribute ['y'] .bare ['b'] (by decide) (by decide),
  sampleAttribute ['t'] .single ['c'] (by decide) (by decide)]

/-- No quotes at all. -/
def bareTag : TemplateTag := sampleTag [
  sampleAttribute ['t'] .bare ['c'] (by decide) (by decide),
  sampleAttribute ['x'] .bare ['a'] (by decide) (by decide),
  sampleAttribute ['y'] .bare ['b'] (by decide) (by decide)]

theorem expand_keeps_attributes_of_quoted :
    tokenize (expand (.ofList [("B", "<box x=\"\x7ba\x7d\" y=\x7bb\x7d t='\x7bc\x7d'/>")])
        "<include component='B' b=5 c='Hello World'/>") =
      .ok [⟨.opening ⟨"box", [⟨"x", ""⟩, ⟨"y", "5"⟩, ⟨"t", "Hello World"⟩], true⟩,
        "<box x=\"\" y=5 t='Hello World'/>".toList, 0⟩] := by
  obtain ⟨a, b, c⟩ := placeholderValue_sample
  have readable : Readable (placeholderValue sampleAttributes) quotedTag.attributes := by
    constructor
    case plain =>
      simp only [quotedTag, sampleTag, sampleAttribute, List.forall_mem_cons, a, b, c]
      decide
    case unblank =>
      simp only [quotedTag, sampleTag, sampleAttribute, List.forall_mem_cons, List.not_mem_nil,
        reduceCtorEq, false_implies, implies_true, and_true, true_and, forall_const, b]
      decide
    case nonempty =>
      simp only [quotedTag, sampleTag, sampleAttribute, List.dropLast, List.forall_mem_cons, a, b]
      decide
  have expanded := @expand_keeps_attributes
    (.ofList [("B", "<box x=\"\x7ba\x7d\" y=\x7bb\x7d t='\x7bc\x7d'/>")])
    "<include component='B' b=5 c='Hello World'/>" ⟨"include", sampleAttributes, true⟩ quotedTag
    (by decide +kernel) (by decide +kernel)
    (bodyOf_of_find? "B" (by decide +kernel) (by decide +kernel)) readable
  refine expanded.trans ?_
  simp only [quotedTag, sampleTag, sampleAttribute, TemplateTag.tagWith, TemplateTag.textWith,
    TemplateAttribute.entryWith, TemplateAttribute.textWith, List.map, List.flatMap_cons,
    List.flatMap_nil, a, b, c]
  rfl

/-- Without quotes, a value with a space is split, and an empty one takes the next attribute. -/
theorem expand_splits_bare_values :
    (∀ hole ∈ bareTag.attributes, Plain (placeholderValue sampleAttributes hole.inner)) ∧
      (bareTag.tagWith (placeholderValue sampleAttributes)).attributes =
        [⟨"t", "Hello World"⟩, ⟨"x", ""⟩, ⟨"y", "5"⟩] ∧
      tokenize (expand (.ofList [("B", String.ofList bareTag.text)])
          "<include component='B' b=5 c='Hello World'/>") =
        .ok [⟨.opening ⟨"box", [⟨"t", "Hello"⟩, ⟨"World", "true"⟩, ⟨"x", "y=5"⟩], true⟩,
          "<box t=Hello World x= y=5/>".toList, 0⟩] := by
  obtain ⟨a, b, c⟩ := placeholderValue_sample
  refine ⟨?_, ?_, ?_⟩
  · simp only [bareTag, sampleTag, sampleAttribute, List.forall_mem_cons, a, b, c]
    decide
  · simp only [bareTag, sampleTag, sampleAttribute, TemplateTag.tagWith, List.map,
      TemplateAttribute.entryWith, a, b, c]
    decide
  · have shown : bareTag.textWith (placeholderValue sampleAttributes) =
        "<box t=Hello World x= y=5/>".toList := by
      simp only [bareTag, sampleTag, sampleAttribute, TemplateTag.textWith,
        TemplateAttribute.textWith, List.flatMap_cons, List.flatMap_nil, a, b, c]
      rfl
    have named : bodyOf (.ofList [("B", String.ofList bareTag.text)]) sampleAttributes =
        .ok (String.ofList bareTag.text) :=
      bodyOf_of_find? "B" (by decide +kernel) (by decide +kernel)
    have replaced : Include.replacement (.ofList [("B", String.ofList bareTag.text)])
        ⟨"<include component='B' b=5 c='Hello World'/>".toList, sampleAttributes, []⟩ =
          "<box t=Hello World x= y=5/>".toList := by
      rw [Include.replacement, named]
      dsimp only
      rw [String.toList_ofList, instantiate_tag, shown]
    have settled : ¬ HasInclude "<box t=Hello World x= y=5/>".toList := by
      unfold HasInclude
      decide +kernel
    rw [← replaced] at settled
    have expanded := @expand_of_single (.ofList [("B", String.ofList bareTag.text)])
      "<include component='B' b=5 c='Hello World'/>" ⟨"include", sampleAttributes, true⟩
      (by decide +kernel) (by decide +kernel) settled
    have read : mark? .strict "<box t=Hello World x= y=5/>".toList = some (.opening
        ⟨"box", [⟨"t", "Hello"⟩, ⟨"World", "true"⟩, ⟨"x", "y=5"⟩], true⟩, []) := by
      decide +kernel
    rw [expanded, replaced, tokenize_of_mark? read Mark.noConfusion]
    rfl

end SceneMarkup.Template
