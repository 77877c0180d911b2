import SceneMarkup.Proofs.Markup.Scanning
import SceneMarkup.Proofs.Markup.ValueForms

/-!
Contract: opening tags in every form in which they may be written.

Owns:
- `SpelledTag`, a tag whose attributes have their values between quotes of either kind, in braces,
  without either, or not at all;
- values in braces, which end at the brace that balances the first one;
- the texts at which every form of an attribute ends;
- the theorem that such a tag is one token, which says what is written.

Does not own: what stands around a tag, and sections in which something else stands than attributes.
-/

namespace SceneMarkup.Markup

open SceneMarkup.Text

/-! ### Written forms -/

/-- A text whose braces balance: no beginning of it closes more than it opens, and all of it closes
as many as it opens. -/
structure BracesBalance (text : List Char) : Prop where
  forward : ∀ front, front <+: text → front.count '\x7d' ≤ front.count '\x7b'
  even : text.count '\x7d' = text.count '\x7b'

/-- The beginnings of a text are told by their lengths. -/
theorem bracesBalance_iff {text : List Char} : BracesBalance text ↔
    (∀ count < text.length + 1, (text.take count).count '\x7d' ≤ (text.take count).count '\x7b') ∧
      text.count '\x7d' = text.count '\x7b' := by
  constructor
  · rintro ⟨forward, even⟩
    exact ⟨fun count _ => forward _ (List.take_prefix count text), even⟩
  · rintro ⟨forward, even⟩
    refine ⟨fun front within => ?_, even⟩
    rw [List.prefix_iff_eq_take.mp within]
    exact forward _ (Nat.lt_succ_of_le within.length_le)

instance (text : List Char) : Decidable (BracesBalance text) :=
  decidable_of_iff _ bracesBalance_iff.symm

/-- A text that can stand for itself as a value. -/
structure StandsBare (text : List Char) : Prop where
  nonempty : text ≠ []
  unquoted : ∀ first, text.head? = some first → first ≠ '"' ∧ first ≠ '\'' ∧ first ≠ '\x7b'
  unblank : ∀ character ∈ text, isBlank character = false ∧ character ≠ '>'
  unslashed : text.getLast? ≠ some '/'

theorem standsBare_iff {text : List Char} : StandsBare text ↔
    text ≠ [] ∧
      (text.head?.all fun first => first != '"' && first != '\'' && first != '\x7b') = true ∧
      (text.all fun character => !isBlank character && character != '>') = true ∧
      text.getLast? ≠ some '/' := by
  simp only [Option.all_eq_true, List.all_eq_true, Bool.and_eq_true, Bool.not_eq_true', bne_iff_ne,
    and_assoc]
  constructor
  · rintro ⟨nonempty, unquoted, unblank, unslashed⟩
    exact ⟨nonempty, unquoted, unblank, unslashed⟩
  · rintro ⟨nonempty, unquoted, unblank, unslashed⟩
    exact ⟨nonempty, unquoted, unblank, unslashed⟩

instance (text : List Char) : Decidable (StandsBare text) := decidable_of_iff _ standsBare_iff.symm

/-- A value in the form in which it is written. -/
inductive SpelledValue where
  | double (value : List Char) (unquoted : '"' ∉ value)
  | single (value : List Char) (unquoted : '\'' ∉ value)
  | braced (value : List Char) (balanced : BracesBalance value)
  | bare (value : List Char) (stands : StandsBare value)

namespace SpelledValue

def value : SpelledValue → List Char
  | double value _ | single value _ | braced value _ | bare value _ => value

def text : SpelledValue → List Char
  | double value _ => '"' :: (value ++ ['"'])
  | single value _ => '\'' :: (value ++ ['\''])
  | braced value _ => '\x7b' :: (value ++ ['\x7d'])
  | bare value _ => value

end SpelledValue

/-- An equals sign and a value, with separators on either side of the sign. -/
structure SpelledAssignment where
  before : List Char
  behind : List Char
  value : SpelledValue
  separated : before.all isSeparator = true ∧ behind.all isSeparator = true

def SpelledAssignment.text (written : SpelledAssignment) : List Char :=
  written.before ++ '=' :: (written.behind ++ written.value.text)

/-- An attribute with the separators in front of it. A name to which nothing is assigned stands
alone. -/
structure SpelledAttribute where
  gap : List Char
  name : List Char
  assigned : Option SpelledAssignment
  separated : gap ≠ [] ∧ gap.all isSeparator = true
  named : name ≠ [] ∧ name.all isAttributeNameCharacter = true

namespace SpelledAttribute

/-- The characters behind the separators. -/
def pair (written : SpelledAttribute) : List Char :=
  written.name ++ (written.assigned.map SpelledAssignment.text).getD []

def text (written : SpelledAttribute) : List Char := written.gap ++ written.pair

/-- The attribute that is written; the value of a name that stands alone is true. -/
def entry (written : SpelledAttribute) : Attribute where
  name := String.ofList written.name
  value := (written.assigned.map fun assigned => String.ofList assigned.value.value).getD "true"

end SpelledAttribute

/-- An opening tag of any name. -/
structure SpelledTag where
  name : List Char
  attributes : List SpelledAttribute
  trailing : List Char
  selfClosing : Bool
  named : name ≠ [] ∧ name.all isNameCharacter = true
  separated : trailing.all isSeparator = true

namespace SpelledTag

/-- The characters behind the name, in front of some text. -/
def body (written : SpelledTag) (rest : List Char) : List Char :=
  written.attributes.flatMap SpelledAttribute.text ++
    (written.trailing ++ (WrittenTag.ending written.selfClosing ++ rest))

def text (written : SpelledTag) : List Char := '<' :: (written.name ++ written.body [])

/-- The tag that is written. -/
def tag (written : SpelledTag) : OpeningTag :=
  ⟨String.ofList written.name, written.attributes.map SpelledAttribute.entry, written.selfClosing⟩

end SpelledTag

/-! ### Ends of attributes -/

/-- What stands behind an attribute: separators without an equals sign behind them, or the end of
the tag. -/
inductive EndsAttribute : List Char → Prop where
  | separated {separator : Char} {rest : List Char} (separates : isSeparator separator = true)
      (unassigned : (skipSeparators rest).head? ≠ some '=') : EndsAttribute (separator :: rest)
  | ended (selfClosing : Bool) (rest : List Char) :
      EndsAttribute (WrittenTag.ending selfClosing ++ rest)

namespace EndsAttribute

variable {left : List Char}

/-- Names end there. -/
theorem exists_cons (ends : EndsAttribute left) :
    ∃ first rest, isAttributeNameCharacter first = false ∧ left = first :: rest := by
  cases ends with
  | separated separates =>
    exact ⟨_, _, not_attributeNameCharacter_of_separator separates, rfl⟩
  | ended selfClosing rest =>
    cases selfClosing with
    | false => exact ⟨'>', rest, by decide, rfl⟩
    | true => exact ⟨'/', '>' :: rest, by decide, rfl⟩

/-- No value is assigned behind it. -/
theorem unassigned (ends : EndsAttribute left) : (skipSeparators left).head? ≠ some '=' := by
  cases ends with
  | @separated separator rest separates unassigned =>
    have same : skipSeparators (separator :: rest) = skipSeparators rest :=
      List.dropWhile_cons_of_pos separates
    rwa [same]
  | ended selfClosing rest =>
    cases selfClosing with
    | false =>
      rw [WrittenTag.ending, if_neg Bool.false_ne_true, List.cons_append,
        skipSeparators_cons (by decide)]
      simp
    | true =>
      rw [WrittenTag.ending, if_pos rfl, List.cons_append, skipSeparators_cons (by decide)]
      simp

end EndsAttribute

/-! ### Values -/

/-- A text that closes `depth` braces more than it opens is read up to the brace behind it. -/
theorem bracedText?_of_count {depth : Nat} {text : List Char}
    (forward : ∀ front, front <+: text → front.count '\x7d' ≤ front.count '\x7b' + depth)
    (even : text.count '\x7d' = text.count '\x7b' + depth) (behind : List Char) :
    bracedText? depth (text ++ '\x7d' :: behind) = some (text, behind) := by
  induction text generalizing depth with
  | nil =>
    obtain rfl : depth = 0 := by simpa using even.symm
    rfl
  | cons character rest inductionHypothesis =>
    have later (front : List Char) (within : front <+: rest) :=
      forward (character :: front) (List.cons_prefix_cons.mpr ⟨rfl, within⟩)
    simp only [List.count_cons, beq_iff_eq] at later even
    by_cases opens : character = '\x7b'
    · subst opens
      have read := @inductionHypothesis (depth + 1)
        (fun front within => by simpa [Nat.add_assoc, Nat.add_comm 1] using later front within)
        (by simpa [Nat.add_assoc, Nat.add_comm 1] using even)
      rw [List.cons_append, bracedText?, read]
      rfl
    · by_cases closes : character = '\x7d'
      · subst closes
        -- The brace itself is a beginning of the text, so that one of `depth` is open.
        obtain ⟨outer, rfl⟩ : ∃ outer, depth = outer + 1 := by
          have here := later [] List.nil_prefix
          exact Nat.exists_eq_succ_of_ne_zero (by rintro rfl; simp at here)
        have read := @inductionHypothesis outer
          (fun front within => by have bound := later front within; simp at bound; omega)
          (by simp at even; omega)
        rw [List.cons_append, bracedText?, read]
        rfl
      · have read := inductionHypothesis
          (fun front within => by simpa [opens, closes] using later front within)
          (by simpa [opens, closes] using even)
        rw [List.cons_append, bracedText?, read]
        · rfl
        · exact opens
        · rintro rfl
          exact closes
        · rintro outer rfl
          exact closes

/-- A value without quotes ends in front of the end of a tag, unless its last character is a
slash. -/
theorem bareValue?_of_end {value : List Char} (nonempty : value ≠ [])
    (bare : ∀ character ∈ value, isBareCharacter character = true)
    (unslashed : value.getLast? ≠ some '/') (behind : List Char) :
    bareValue? (value ++ '>' :: behind) = some (value, '>' :: behind) := by
  have stops : isBareCharacter '>' = false := by decide
  rw [bareValue?, takeWhile_append_cons bare stops, dropWhile_append_cons bare stops]
  simp [nonempty, unslashed]

namespace SpelledValue

/-- A value does not begin with a separator. -/
theorem exists_cons (written : SpelledValue) :
    ∃ first rest, isSeparator first = false ∧ written.text = first :: rest := by
  cases written with
  | double value => exact ⟨_, _, by decide, rfl⟩
  | single value => exact ⟨_, _, by decide, rfl⟩
  | braced value => exact ⟨_, _, by decide, rfl⟩
  | bare value stands =>
    obtain ⟨first, rest, rfl⟩ := List.exists_cons_of_ne_nil stands.nonempty
    refine ⟨first, rest, ?_, rfl⟩
    rw [Bool.eq_false_iff]
    intro separator
    have visible := (stands.unblank first List.mem_cons_self).1
    rw [isBlank_of_isSeparator separator] at visible
    cases visible

/-- A value is read as it is written. -/
theorem value?_text (written : SpelledValue) {left : List Char} (ends : EndsAttribute left) :
    value? (written.text ++ left) = some (written.value, left) := by
  cases written with
  | double value unquoted =>
    have read := value?_double unquoted left
    rwa [List.append_cons, ← List.cons_append] at read
  | single value unquoted =>
    have read := value?_single unquoted left
    rwa [List.append_cons, ← List.cons_append] at read
  | braced value balanced =>
    have read := @bracedText?_of_count 0 value balanced.forward balanced.even left
    rw [List.append_cons] at read
    exact read
  | bare value stands =>
    have bare : ∀ character ∈ value, isBareCharacter character = true := by
      intro character member
      simp [isBareCharacter, stands.unblank character member]
    have started : ∀ first, (value ++ left).head? = some first →
        first ≠ '"' ∧ first ≠ '\'' ∧ first ≠ '\x7b' := by
      intro first begins
      obtain ⟨letter, rest, rfl⟩ := List.exists_cons_of_ne_nil stands.nonempty
      exact stands.unquoted first begins
    show value? (value ++ left) = some (value, left)
    rw [value?_of_bare started]
    cases ends with
    | separated separates =>
      exact bareValue?_of_blank stands.nonempty bare (isBlank_of_isSeparator separates) _
    | ended selfClosing rest =>
      cases selfClosing with
      | false => exact bareValue?_of_end stands.nonempty bare stands.unslashed rest
      | true => exact bareValue?_of_slash bare rest

end SpelledValue

/-! ### Attributes -/

namespace SpelledAttribute

theorem attribute?_pair (written : SpelledAttribute) {left : List Char}
    (ends : EndsAttribute left) :
    attribute? (written.pair ++ left) = some (written.entry, left) := by
  have letters := List.all_eq_true.mp written.named.2
  cases assigned : written.assigned with
  | none =>
    obtain ⟨first, rest, other, rfl⟩ := ends.exists_cons
    have alone : written.pair = written.name := by simp [pair, assigned]
    have value : written.entry = ⟨String.ofList written.name, "true"⟩ := by simp [entry, assigned]
    rw [alone, value, attribute?, takeWhile_append_cons letters other,
      dropWhile_append_cons letters other, if_neg written.named.1]
    split
    · rename_i equals
      exact absurd (congrArg List.head? equals) ends.unassigned
    · rfl
  | some made =>
    have whole : written.pair ++ left = written.name ++
        (made.before ++ '=' :: (made.behind ++ (made.value.text ++ left))) := by
      simp [pair, assigned, SpelledAssignment.text]
    have value : written.entry =
        ⟨String.ofList written.name, String.ofList made.value.value⟩ := by
      simp [entry, assigned]
    obtain ⟨first, rest, visible, begins⟩ := made.value.exists_cons
    have skipped : skipSeparators (made.behind ++ (made.value.text ++ left)) =
        made.value.text ++ left := by
      rw [skipSeparators_append made.separated.2, begins, List.cons_append,
        skipSeparators_cons visible]
    have read := made.value.value?_text ends
    rw [← skipped] at read
    rw [whole, value, attribute?_of_assigned written.named.1 letters made.separated.1 read]

/-- A name stands at the beginning of an attribute. -/
theorem exists_cons_of_pair (written : SpelledAttribute) (rest : List Char) :
    ∃ letter others, isAttributeNameCharacter letter = true ∧
      written.pair ++ rest = letter :: others := by
  have letters := List.all_eq_true.mp written.named.2
  obtain ⟨letter, more, name⟩ := List.exists_cons_of_ne_nil written.named.1
  rw [name] at letters
  have begins : written.pair ++ rest = letter :: (more ++
      (written.assigned.map SpelledAssignment.text).getD [] ++ rest) := by
    rw [pair, name]
    rfl
  exact ⟨letter, _, letters letter List.mem_cons_self, begins⟩

/-- An attribute ends in front of another one. -/
theorem endsAttribute_text (written : SpelledAttribute) (rest : List Char) :
    EndsAttribute (written.text ++ rest) := by
  obtain ⟨separator, more, gap⟩ := List.exists_cons_of_ne_nil written.separated.1
  have separators := List.all_eq_true.mp written.separated.2
  rw [gap] at separators
  obtain ⟨letter, others, named, begins⟩ := written.exists_cons_of_pair rest
  have further : more.all isSeparator = true :=
    List.all_eq_true.mpr fun other member => separators other (List.mem_cons_of_mem _ member)
  have skipped : skipSeparators (more ++ (written.pair ++ rest)) = letter :: others := by
    rw [skipSeparators_append further, begins,
      skipSeparators_cons (of_attributeNameCharacter named).1]
  have whole : written.text ++ rest = separator :: (more ++ (written.pair ++ rest)) := by
    rw [text, gap, List.append_assoc]
    rfl
  rw [whole]
  apply EndsAttribute.separated (separators separator List.mem_cons_self)
  rw [skipped]
  intro equals
  cases equals
  revert named
  decide

end SpelledAttribute

/-! ### Tags -/

/-- An attribute ends in front of separators and the end of the tag. -/
theorem endsAttribute_ending {trailing : List Char} (separated : trailing.all isSeparator = true)
    (selfClosing : Bool) (rest : List Char) :
    EndsAttribute (trailing ++ (WrittenTag.ending selfClosing ++ rest)) := by
  cases trailing with
  | nil => exact .ended selfClosing rest
  | cons separator more =>
    rw [List.all_cons, Bool.and_eq_true] at separated
    apply EndsAttribute.separated separated.1
    have skipped : skipSeparators (List.append more (WrittenTag.ending selfClosing ++ rest)) =
        skipSeparators (WrittenTag.ending selfClosing ++ rest) :=
      skipSeparators_append separated.2 _
    rw [skipped]
    exact (EndsAttribute.ended selfClosing rest).unassigned

/-- The attributes of a tag are read one after the other. -/
theorem tagBody?_spelled (attributes : List SpelledAttribute) {trailing : List Char}
    (separated : trailing.all isSeparator = true) (selfClosing : Bool) (rest : List Char) :
    tagBody? (attributes.flatMap SpelledAttribute.text ++
        (trailing ++ (WrittenTag.ending selfClosing ++ rest))) =
      some (attributes.map SpelledAttribute.entry, selfClosing, rest) := by
  induction attributes with
  | nil => exact tagBody?_ending separated selfClosing rest
  | cons first others inductionHypothesis =>
    have ends : EndsAttribute (others.flatMap SpelledAttribute.text ++
        (trailing ++ (WrittenTag.ending selfClosing ++ rest))) := by
      cases others with
      | nil => exact endsAttribute_ending separated selfClosing rest
      | cons second others =>
        rw [List.flatMap_cons, List.append_assoc]
        exact second.endsAttribute_text _
    have read := first.attribute?_pair ends
    obtain ⟨letter, characters, named, begins⟩ := first.exists_cons_of_pair
      (others.flatMap SpelledAttribute.text ++ (trailing ++ (WrittenTag.ending selfClosing ++ rest)))
    rw [begins] at read
    rw [List.flatMap_cons, List.append_assoc, SpelledAttribute.text, List.append_assoc, begins,
      tagBody?_of_attribute? first.separated.2 named read, inductionHypothesis]
    rfl

namespace SpelledTag

/-- Behind the name of a tag stands a character of no name. -/
theorem exists_cons_of_body (written : SpelledTag) (rest : List Char) :
    ∃ first others, isNameCharacter first = false ∧ written.body rest = first :: others := by
  have ends : EndsAttribute (written.body rest) := by
    rw [body]
    cases written.attributes with
    | nil => exact endsAttribute_ending written.separated written.selfClosing rest
    | cons first others =>
      rw [List.flatMap_cons, List.append_assoc]
      exact first.endsAttribute_text _
  obtain ⟨first, others, other, begins⟩ := ends.exists_cons
  refine ⟨first, others, ?_, begins⟩
  rw [Bool.eq_false_iff]
  intro named
  rw [isAttributeNameCharacter, named] at other
  cases other

/-- A tag is read as it is written, whatever stands behind it. -/
theorem mark?_spelled (recovery : Recovery) (written : SpelledTag) (rest : List Char) :
    mark? recovery ('<' :: (written.name ++ written.body rest)) =
      some (.opening written.tag, rest) := by
  have letters := List.all_eq_true.mp written.named.2
  obtain ⟨first, others, other, begins⟩ := written.exists_cons_of_body rest
  obtain ⟨started, name, behind⟩ := tagName_append_cons written.named.1 letters other others
  have read : openingTag? (written.name ++ written.body rest) = some (written.tag, rest) := by
    rw [begins, openingTag?, if_pos started, name, behind, ← begins, body,
      tagBody?_spelled written.attributes written.separated]
    rfl
  obtain ⟨letter, more, same⟩ := List.exists_cons_of_ne_nil written.named.1
  have named := letters letter (by rw [same]; exact List.mem_cons_self)
  rw [same, List.cons_append] at read ⊢
  exact mark?_of_openingTag? named read

/-- A tag in any of its written forms is one token from its first character to its last, and says
exactly what is written: the name, the attributes with their values in order, and whether it closes
itself. -/
theorem tokenize_spelled (written : SpelledTag) :
    tokenize (String.ofList written.text) = .ok [⟨.opening written.tag, written.text, 0⟩] := by
  have read := mark?_spelled .strict written []
  exact tokenize_of_mark? read Mark.noConfusion

/-- A tag with values in all five forms, and ends of tags and beginnings of comments in them. -/
def allForms : SpelledTag where
  name := "é_1".toList
  attributes := [
    ⟨[' '], ['a'], some ⟨[], [], .double "/>".toList (by decide), by decide⟩, by decide, by decide⟩,
    ⟨[' '], "b-2".toList, some ⟨[' '], ['\t'], .single "<!--".toList (by decide), by decide⟩,
      by decide, by decide⟩,
    ⟨[' '], "c:".toList, some ⟨[], [' '], .braced "\x7b*/\x7d>".toList (by decide), by decide⟩,
      by decide, by decide⟩,
    ⟨[' '], "d.e".toList, some ⟨[], [], .bare "x='/y".toList (by decide), by decide⟩,
      by decide, by decide⟩,
    ⟨['\n'], ['f'], none, by decide, by decide⟩]
  trailing := []
  selfClosing := true
  named := by decide +kernel
  separated := List.all_nil

theorem tokenize_spelled_allForms :
    tokenize "<é_1 a=\"/>\" b-2 =\t'<!--' c:= \x7b\x7b*/\x7d>\x7d d.e=x='/y\nf/>" =
      .ok [⟨.opening ⟨"é_1", [⟨"a", "/>"⟩, ⟨"b-2", "<!--"⟩, ⟨"c:", "\x7b*/\x7d>"⟩,
          ⟨"d.e", "x='/y"⟩, ⟨"f", "true"⟩], true⟩,
        "<é_1 a=\"/>\" b-2 =\t'<!--' c:= \x7b\x7b*/\x7d>\x7d d.e=x='/y\nf/>".toList, 0⟩] := by
  have whole : String.ofList allForms.text =
      "<é_1 a=\"/>\" b-2 =\t'<!--' c:= \x7b\x7b*/\x7d>\x7d d.e=x='/y\nf/>" := by
    decide +kernel
  have read := tokenize_spelled allForms
  rw [whole] at read
  exact read

end SpelledTag

end SceneMarkup.Markup
