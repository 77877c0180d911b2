import Mathlib.Data.List.DropRight
import SceneMarkup.Proofs.Markup.Locality
import SceneMarkup.Proofs.Markup.ValueForms

/-!
Contract: the attributes of a tag, read from the text between its name and its end.

Owns:
- the section of a tag, which is that text alone, and the name at its end whose value is missing;
- steps through a section in front of the end of its tag and without that end;
- the theorem that the section gives the attributes of the tag, but for such a name in a tag that
  closes itself.

Does not own: where the end of a tag is.
-/

namespace SceneMarkup.Markup

open SceneMarkup.Text

/-! ### Statement -/

/-- The name that begins a text of which the rest is an equals sign. -/
def unvaluedName? (text : List Char) : Option String :=
  let name := text.takeWhile isAttributeNameCharacter
  if name = [] then none
  else
    match skipSeparators (text.dropWhile isAttributeNameCharacter) with
    | '=' :: rest => if skipSeparators rest = [] then some (String.ofList name) else none
    | _ => none

/-- The name at the end of a section whose value is missing behind its equals sign. The section is
read attribute by attribute, so that an equals sign inside a value does not count. -/
def danglingName? (text : List Char) : Option String :=
  if skipSeparators text = [] then none
  else (unvaluedName? (skipSeparators text)).or
    (danglingName? (attributeStep (skipSeparators text)).2)
termination_by text.length
decreasing_by
  exact ((properSuffix_attributeStep ‹_›).trans_suffix (skipSeparators_suffix text)).length_lt

/-- The attributes that a tag has beyond those of its section: in front of `/>`, the name without a
value has the empty one that is left of the slash. -/
def danglingAttributes (selfClosing : Bool) (inside : List Char) : Attributes :=
  if selfClosing then (danglingName? inside).toList.map fun name => ⟨name, ""⟩ else []

/-- The section of a tag gives its attributes. -/
structure ReadsAlone (tag : OpeningTag) (inside : List Char) : Prop where
  attributes : tag.attributes = attributesIn inside ++ danglingAttributes tag.selfClosing inside
  agrees : attributesIn inside = tag.attributes ↔ danglingAttributes tag.selfClosing inside = []
  /-- A name without a value stands at the end of the section. -/
  dangling : ∀ name, danglingName? inside = some name → ∃ front gap trailing,
    inside = front ++ (name.toList ++ (gap ++ '=' :: trailing)) ∧
      gap.all isSeparator = true ∧ trailing.all isSeparator = true

/-! ### Runs in front of the end of a tag -/

section Runs

variable {test : Char → Bool} {stop : Char}

theorem takeWhile_append_stop (stops : test stop = false) (text rest : List Char) :
    (text ++ stop :: rest).takeWhile test = text.takeWhile test := by
  induction text with
  | nil => simp [stops]
  | cons character others inductionHypothesis =>
    rw [List.cons_append, List.takeWhile_cons, List.takeWhile_cons, inductionHypothesis]

theorem dropWhile_append_stop (stops : test stop = false) (text rest : List Char) :
    (text ++ stop :: rest).dropWhile test = text.dropWhile test ++ stop :: rest := by
  induction text with
  | nil => simp [stops]
  | cons character others inductionHypothesis =>
    rw [List.cons_append, List.dropWhile_cons, List.dropWhile_cons, inductionHypothesis]
    split <;> rfl

end Runs

/-- The end of a tag, of which no character belongs to a name or stands in front of a value. -/
theorem exists_ending (selfClosing : Bool) :
    ∃ stop rest, WrittenTag.ending selfClosing = stop :: rest ∧
      isAttributeNameCharacter stop = false ∧ isSeparator stop = false ∧ stop ≠ '=' := by
  cases selfClosing with
  | false => exact ⟨'>', [], rfl, by decide, by decide, by decide⟩
  | true => exact ⟨'/', ['>'], rfl, by decide, by decide, by decide⟩

section Endings

variable (selfClosing : Bool) (text : List Char)

theorem takeWhile_name_ending :
    (text ++ WrittenTag.ending selfClosing).takeWhile isAttributeNameCharacter =
      text.takeWhile isAttributeNameCharacter := by
  obtain ⟨stop, rest, same, unnamed, _⟩ := exists_ending selfClosing
  rw [same, takeWhile_append_stop unnamed]

theorem dropWhile_name_ending :
    (text ++ WrittenTag.ending selfClosing).dropWhile isAttributeNameCharacter =
      text.dropWhile isAttributeNameCharacter ++ WrittenTag.ending selfClosing := by
  obtain ⟨stop, rest, same, unnamed, _⟩ := exists_ending selfClosing
  rw [same, dropWhile_append_stop unnamed]

theorem skipSeparators_ending :
    skipSeparators (text ++ WrittenTag.ending selfClosing) =
      skipSeparators text ++ WrittenTag.ending selfClosing := by
  obtain ⟨stop, rest, same, _, other, _⟩ := exists_ending selfClosing
  rw [same, skipSeparators, skipSeparators, dropWhile_append_stop other]

variable {selfClosing text}

/-- An equals sign in front of the end of a tag is not part of that end. -/
theorem exists_of_equals_ending {rest : List Char}
    (equals : text ++ WrittenTag.ending selfClosing = '=' :: rest) :
    ∃ part, text = '=' :: part ∧ rest = part ++ WrittenTag.ending selfClosing := by
  cases text with
  | nil =>
    obtain ⟨stop, others, same, _, _, different⟩ := exists_ending selfClosing
    rw [List.nil_append, same] at equals
    exact absurd (List.cons.inj equals).1 different
  | cons character part =>
    obtain ⟨rfl, rfl⟩ := List.cons.inj equals
    exact ⟨part, rfl, rfl⟩

end Endings

/-! ### Values and attributes -/

section Steps

variable {selfClosing : Bool} {text kept : List Char}

/-- The slash of `/>` does not count as kept in front of `>`. -/
def KeptOf (selfClosing : Bool) (kept : List Char) : Prop := selfClosing = false → kept ≠ ['/']

/-- Behind a value that reaches to the end of the section, the slash that is given back belongs to
the end of the tag. -/
theorem bareValue?_of_bare {value : List Char} (nonempty : text ≠ [])
    (bare : ∀ character ∈ text, isBareCharacter character = true)
    (inFront : KeptOf selfClosing kept)
    (found : bareValue? (text ++ WrittenTag.ending selfClosing) =
      some (value, kept ++ WrittenTag.ending selfClosing)) :
    value = text ∧ kept = [] := by
  cases selfClosing with
  | false =>
    have run : (text ++ ['>']).takeWhile isBareCharacter = text :=
      takeWhile_append_cons bare (by decide) []
    have left : (text ++ ['>']).dropWhile isBareCharacter = ['>'] :=
      dropWhile_append_cons bare (by decide) []
    rw [WrittenTag.ending, if_neg Bool.false_ne_true, bareValue?, run, left, if_neg nonempty]
      at found
    split at found
    · obtain ⟨_, same⟩ := Prod.mk.inj (Option.some.inj found)
      have slash : ['/'] ++ ['>'] = kept ++ ['>'] := same
      exact absurd ((List.append_left_inj ['>']).mp slash).symm (inFront rfl)
    · obtain ⟨rfl, same⟩ := Prod.mk.inj (Option.some.inj found)
      exact ⟨rfl, List.self_eq_append_left.mp same⟩
  | true =>
    have bareSlash : ∀ character ∈ text ++ ['/'], isBareCharacter character = true := by
      intro character member
      rcases List.mem_append.mp member with inText | last
      · exact bare character inText
      · rw [List.mem_singleton.mp last]
        decide
    have run : (text ++ ['/', '>']).takeWhile isBareCharacter = text ++ ['/'] := by
      rw [List.append_cons]
      exact takeWhile_append_cons bareSlash (by decide) []
    have left : (text ++ ['/', '>']).dropWhile isBareCharacter = ['>'] := by
      rw [List.append_cons]
      exact dropWhile_append_cons bareSlash (by decide) []
    rw [WrittenTag.ending, if_pos rfl, bareValue?, run, left] at found
    simp only [List.append_eq_nil_iff, List.cons_ne_nil, and_false, if_false, List.getLast?_concat,
      List.head?_cons, and_self, if_true, List.dropLast_concat] at found
    obtain ⟨rfl, same⟩ := Prod.mk.inj (Option.some.inj found)
    exact ⟨rfl, List.self_eq_append_left.mp same⟩

theorem bareValue?_of_ending {value : List Char} (nonempty : text ≠ [])
    (inFront : KeptOf selfClosing kept)
    (found : bareValue? (text ++ WrittenTag.ending selfClosing) =
      some (value, kept ++ WrittenTag.ending selfClosing)) :
    bareValue? text = some (value, kept) := by
  cases left : text.dropWhile isBareCharacter with
  | nil =>
    have bare : ∀ character ∈ text, isBareCharacter character = true :=
      List.dropWhile_eq_nil_iff.mp left
    have run : text.takeWhile isBareCharacter = text := List.takeWhile_eq_self_iff.mpr bare
    obtain ⟨rfl, rfl⟩ := bareValue?_of_bare nonempty bare inFront found
    rw [bareValue?, run, left, if_neg nonempty, if_neg (by simp)]
  | cons character rest =>
    have notAll : ¬ (text.takeWhile isBareCharacter).length = text.length := by
      have parts := congrArg List.length
        (List.takeWhile_append_dropWhile (p := isBareCharacter) (l := text))
      rw [left, List.length_append, List.length_cons] at parts
      omega
    have run : (text ++ WrittenTag.ending selfClosing).takeWhile isBareCharacter =
        text.takeWhile isBareCharacter := by
      rw [List.takeWhile_append, if_neg notAll]
    have leftOver : (text ++ WrittenTag.ending selfClosing).dropWhile isBareCharacter =
        (character :: rest) ++ WrittenTag.ending selfClosing := by
      rw [List.dropWhile_append, left]
      rfl
    rw [bareValue?, run, leftOver, List.head?_append_of_ne_nil _ (List.cons_ne_nil _ _)] at found
    rw [bareValue?, left]
    split at found
    · cases found
    · rename_i named
      rw [if_neg named]
      split at found
      · rename_i givenBack
        obtain ⟨rfl, same⟩ := Prod.mk.inj (Option.some.inj found)
        have slashed : ('/' :: character :: rest) ++ WrittenTag.ending selfClosing =
            kept ++ WrittenTag.ending selfClosing := same
        rw [if_pos givenBack, (List.append_left_inj _).mp slashed]
      · rename_i notGivenBack
        obtain ⟨rfl, same⟩ := Prod.mk.inj (Option.some.inj found)
        rw [if_neg notGivenBack, (List.append_left_inj _).mp same]

/-- A value of which the section has a part is read from the section alone. -/
theorem value?_of_ending {value : List Char} (nonempty : text ≠ [])
    (inFront : KeptOf selfClosing kept)
    (found : value? (text ++ WrittenTag.ending selfClosing) =
      some (value, kept ++ WrittenTag.ending selfClosing)) :
    value? text = some (value, kept) := by
  obtain ⟨character, rest, rfl⟩ := List.exists_cons_of_ne_nil nonempty
  rw [List.cons_append, value?_cons, ← List.cons_append] at found
  rw [value?_cons]
  by_cases double : character = '"'
  · rw [if_pos double] at found ⊢
    exact cutAt?_of_append (by decide) found
  rw [if_neg double] at found ⊢
  by_cases single : character = '\''
  · rw [if_pos single] at found ⊢
    exact cutAt?_of_append (by decide) found
  rw [if_neg single] at found ⊢
  by_cases brace : character = '\x7b'
  · rw [if_pos brace] at found ⊢
    exact bracedText?_of_append found
  · rw [if_neg brace] at found ⊢
    exact bareValue?_of_ending nonempty inFront found

/-- Where the section has nothing of a value, only `/>` leaves an empty one. -/
theorem value?_ending {value : List Char}
    (found : value? (WrittenTag.ending selfClosing) =
      some (value, kept ++ WrittenTag.ending selfClosing)) :
    selfClosing = true ∧ value = [] ∧ kept = [] := by
  cases selfClosing with
  | false =>
    have unread : value? (WrittenTag.ending false) = none := by decide
    rw [unread] at found
    cases found
  | true =>
    have read : value? (WrittenTag.ending true) = some ([], ['/', '>']) := by decide
    rw [read] at found
    obtain ⟨rfl, same⟩ := Prod.mk.inj (Option.some.inj found)
    exact ⟨rfl, rfl, List.self_eq_append_left.mp same⟩

/-- An attribute whose value is not missing is read from the section alone. -/
theorem attribute?_of_ending {found : Attribute}
    (valued : selfClosing = true → unvaluedName? text = none) (inFront : KeptOf selfClosing kept)
    (read : attribute? (text ++ WrittenTag.ending selfClosing) =
      some (found, kept ++ WrittenTag.ending selfClosing)) :
    attribute? text = some (found, kept) := by
  unfold attribute? at read ⊢
  unfold unvaluedName? at valued
  simp only [takeWhile_name_ending, dropWhile_name_ending, skipSeparators_ending] at read valued ⊢
  split at read
  · cases read
  · rename_i named
    rw [if_neg named] at valued ⊢
    split at read
    · rename_i rest equals
      obtain ⟨part, equalsText, rfl⟩ := exists_of_equals_ending equals
      obtain ⟨⟨value, left⟩, searched, same⟩ := Option.map_eq_some_iff.mp read
      obtain ⟨rfl, rfl⟩ := Prod.mk.inj same
      rw [skipSeparators_ending] at searched
      rw [equalsText] at valued ⊢
      by_cases missing : skipSeparators part = []
      · rw [missing, List.nil_append] at searched
        have impossible := valued (value?_ending searched).1
        simp [missing] at impossible
      · simp only [value?_of_ending missing inFront searched, Option.map_some]
    · rename_i notEquals
      obtain ⟨same, left⟩ := Prod.mk.inj (Option.some.inj read)
      split
      · rename_i rest equals
        rw [equals] at notEquals
        exact absurd rfl (notEquals _)
      · rw [same, (List.append_left_inj _).mp left]

/-- Where no attribute begins in front of the end of a tag, none begins without that end. -/
theorem attribute?_eq_none_of_ending
    (unread : attribute? (text ++ WrittenTag.ending selfClosing) = none) :
    attribute? text = none := by
  unfold attribute? at unread ⊢
  simp only [takeWhile_name_ending, dropWhile_name_ending, skipSeparators_ending] at unread ⊢
  split at unread
  · rename_i unnamed
    rw [if_pos unnamed]
  · rename_i named
    rw [if_neg named]
    split at unread
    · rename_i rest equals
      obtain ⟨part, equalsText, rfl⟩ := exists_of_equals_ending equals
      have begins :
          skipSeparators part <+: skipSeparators (part ++ WrittenTag.ending selfClosing) :=
        isPrefix_dropWhile (List.prefix_append _ _)
      have unvalued := value?_eq_none_of_isPrefix begins (Option.map_eq_none_iff.mp unread)
      rw [equalsText]
      simp only [unvalued, Option.map_none]
    · cases unread

theorem attributeStep_of_ending (nonempty : text ≠ [])
    (valued : selfClosing = true → unvaluedName? text = none) (inFront : KeptOf selfClosing kept)
    (left : (attributeStep (text ++ WrittenTag.ending selfClosing)).2 =
      kept ++ WrittenTag.ending selfClosing) :
    attributeStep text = ((attributeStep (text ++ WrittenTag.ending selfClosing)).1, kept) := by
  unfold attributeStep at left ⊢
  cases read : attribute? (text ++ WrittenTag.ending selfClosing) with
  | some step =>
    obtain ⟨found, behind⟩ := step
    rw [read] at left
    obtain rfl : behind = kept ++ WrittenTag.ending selfClosing := left
    rw [attribute?_of_ending valued inFront read]
  | none =>
    rw [read] at left
    obtain ⟨character, rest, rfl⟩ := List.exists_cons_of_ne_nil nonempty
    obtain rfl : rest = kept := (List.append_left_inj _).mp left
    rw [attribute?_eq_none_of_ending read]
    rfl

end Steps

/-! ### A name without a value -/

/-- The parts of a text that is a name and an equals sign. -/
theorem exists_of_unvaluedName? {text : List Char} {name : String}
    (unvalued : unvaluedName? text = some name) :
    ∃ gap trailing, text = name.toList ++ (gap ++ '=' :: trailing) ∧ name.toList ≠ [] ∧
      (∀ letter ∈ name.toList, isAttributeNameCharacter letter = true) ∧
      gap.all isSeparator = true ∧ trailing.all isSeparator = true := by
  unfold unvaluedName? at unvalued
  simp only at unvalued
  split at unvalued
  · cases unvalued
  · rename_i named
    split at unvalued
    · rename_i rest equals
      split at unvalued
      · rename_i missing
        cases unvalued
        let behindName := text.dropWhile isAttributeNameCharacter
        have parted : behindName.takeWhile isSeparator ++ '=' :: rest = behindName := by
          rw [← equals]
          exact List.takeWhile_append_dropWhile (p := isSeparator)
        refine ⟨behindName.takeWhile isSeparator, rest, ?_, ?_, ?_, ?_, ?_⟩
        · rw [parted, String.toList_ofList]
          exact (List.takeWhile_append_dropWhile (p := isAttributeNameCharacter)).symm
        · rwa [String.toList_ofList]
        · rw [String.toList_ofList]
          exact fun _ => List.mem_takeWhile_imp
        · exact List.all_eq_true.mpr fun _ => List.mem_takeWhile_imp
        · exact List.all_eq_true.mpr (List.dropWhile_eq_nil_iff.mp missing)
      · cases unvalued
    · cases unvalued

theorem attributesIn_of_separators {text : List Char} (nothing : skipSeparators text = []) :
    attributesIn text = [] := by
  rw [attributesIn, if_pos nothing]

theorem attributesIn_of_none {first : Char} {rest : List Char} (other : isSeparator first = false)
    (unread : attribute? (first :: rest) = none) :
    attributesIn (first :: rest) = attributesIn rest := by
  have step : attributeStep (first :: rest) = (none, rest) := by
    rw [attributeStep, unread]
    rfl
  rw [attributesIn, skipSeparators_cons other, if_neg (List.cons_ne_nil _ _), step]
  rfl

/-- A name without a value is passed over letter by letter, and the equals sign behind it. -/
theorem attributesIn_unvalued {name gap trailing : List Char}
    (letters : ∀ letter ∈ name, isAttributeNameCharacter letter = true)
    (separated : gap.all isSeparator = true) (missing : skipSeparators trailing = []) :
    attributesIn (name ++ (gap ++ '=' :: trailing)) = [] := by
  induction name with
  | nil =>
    have skipped : skipSeparators (gap ++ '=' :: trailing) = '=' :: trailing := by
      rw [skipSeparators_append separated, skipSeparators_cons (by decide)]
    have step : attributeStep ('=' :: trailing) = (none, trailing) := by
      have unread : attribute? ('=' :: trailing) = none := by
        rw [attribute?, List.takeWhile_cons_of_neg (by decide), if_pos rfl]
      rw [attributeStep, unread]
      rfl
    rw [List.nil_append, attributesIn, skipped, if_neg (List.cons_ne_nil _ _), step,
      attributesIn_of_separators missing]
    rfl
  | cons first others inductionHypothesis =>
    have unread : attribute? (first :: others ++ (gap ++ '=' :: trailing)) = none := by
      rw [attribute?_eq_map (List.cons_ne_nil _ _) letters separated, missing]
      rfl
    have letter := letters first List.mem_cons_self
    rw [List.cons_append] at unread ⊢
    rw [attributesIn_of_none (of_attributeNameCharacter letter).1 unread]
    exact inductionHypothesis fun other member => letters other (List.mem_cons_of_mem _ member)

/-- In front of `/>`, a name without a value is an attribute. -/
theorem attributeStep_unvalued {text : List Char} {name : String}
    (unvalued : unvaluedName? text = some name) :
    attributeStep (text ++ WrittenTag.ending true) = (some ⟨name, ""⟩, WrittenTag.ending true) := by
  obtain ⟨gap, trailing, rfl, nonempty, letters, separated, missing⟩ :=
    exists_of_unvaluedName? unvalued
  have read : value? (skipSeparators (trailing ++ WrittenTag.ending true)) =
      some ([], WrittenTag.ending true) := by
    rw [skipSeparators_append missing]
    decide
  rw [List.append_assoc, List.append_assoc, List.cons_append, attributeStep,
    attribute?_of_assigned nonempty letters separated read, String.ofList_toList]

/-! ### Sections -/

theorem danglingName?_of_separators {text : List Char} (nothing : skipSeparators text = []) :
    danglingName? text = none := by
  rw [danglingName?, if_pos nothing]

theorem danglingName?_of_cons {text others : List Char} {first : Char}
    (started : skipSeparators text = first :: others) :
    danglingName? text = (unvaluedName? (first :: others)).or
      (danglingName? (attributeStep (first :: others)).2) := by
  rw [danglingName?, started, if_neg (List.cons_ne_nil _ _)]

theorem attributesIn_of_cons {text others : List Char} {first : Char}
    (started : skipSeparators text = first :: others) :
    attributesIn text = (attributeStep (first :: others)).1.toList ++
      attributesIn (attributeStep (first :: others)).2 := by
  rw [attributesIn, started, if_neg (List.cons_ne_nil _ _)]

/-- The separators in front of an attribute do not count. -/
theorem attributesIn_skipSeparators (text : List Char) :
    attributesIn (skipSeparators text) = attributesIn text := by
  have again : skipSeparators (skipSeparators text) = skipSeparators text :=
    List.dropWhile_idempotent _ _
  rw [attributesIn, attributesIn.eq_1 text, again]

theorem attributesIn_of_unvaluedName? {text others : List Char} {first : Char} {name : String}
    (started : skipSeparators text = first :: others)
    (unvalued : unvaluedName? (first :: others) = some name) : attributesIn text = [] := by
  obtain ⟨gap, trailing, parts, _, letters, separated, missing⟩ :=
    exists_of_unvaluedName? unvalued
  rw [← attributesIn_skipSeparators, started, parts]
  exact attributesIn_unvalued letters separated
    (List.dropWhile_eq_nil_iff.mpr (List.all_eq_true.mp missing))

/-- A tag that does not close itself does not end behind a slash. -/
theorem keptOf_of_tagBody? {kept : List Char} {attributes : Attributes} {selfClosing : Bool}
    (read : tagBody? (kept ++ WrittenTag.ending selfClosing) =
      some (attributes, selfClosing, [])) : KeptOf selfClosing kept := by
  rintro rfl rfl
  have closed : tagBody? (['/'] ++ WrittenTag.ending false) = some ([], true, []) := by
    rw [tagBody?_eq]
    rfl
  rw [closed] at read
  cases read

theorem attributes_of_ending {attributes : Attributes} {selfClosing : Bool}
    (read : tagBody? (WrittenTag.ending selfClosing) = some (attributes, selfClosing, [])) :
    attributes = [] := by
  rw [tagBody?_eq] at read
  cases selfClosing <;> cases read <;> rfl

/-- What begins in a section does not end the tag, so that the tag reader takes a step, too. -/
theorem exists_step_of_tagBody? {text others : List Char} {first : Char} {attributes : Attributes}
    {selfClosing : Bool} (started : skipSeparators text = first :: others)
    (read : tagBody? (text ++ WrittenTag.ending selfClosing) =
      some (attributes, selfClosing, [])) :
    ∃ inner, attributes =
        (attributeStep (first :: others ++ WrittenTag.ending selfClosing)).1.toList ++ inner ∧
      tagBody? (attributeStep (first :: others ++ WrittenTag.ending selfClosing)).2 =
        some (inner, selfClosing, []) := by
  rw [tagBody?_eq, skipSeparators_ending, started] at read
  split at read
  · rename_i impossible
    cases impossible
  · rename_i rest same
    obtain ⟨rfl, rfl⟩ := List.cons.inj same
    cases selfClosing <;> simp [WrittenTag.ending] at read
  · rename_i rest same
    obtain ⟨rfl, same⟩ := List.cons.inj same
    obtain ⟨_, rfl, rfl⟩ : attributes = [] ∧ selfClosing = true ∧ rest = [] := by simpa using read
    have lengths := congrArg List.length same
    simp [WrittenTag.ending] at lengths
  · rename_i character rest _ _ same
    rw [← same] at read
    obtain ⟨⟨inner, closes, behind⟩, searched, same⟩ := Option.map_eq_some_iff.mp read
    cases same
    exact ⟨inner, rfl, searched⟩

/-- The section gives the attributes in front of the end of a tag, but for a name without a value in
front of `/>`. The induction is on the steps through the section, which are also those of the tag
reader up to such a name. -/
theorem attributes_of_tagBody? {inside : List Char} {attributes : Attributes} {selfClosing : Bool}
    (read : tagBody? (inside ++ WrittenTag.ending selfClosing) =
      some (attributes, selfClosing, [])) :
    attributes = attributesIn inside ++ danglingAttributes selfClosing inside := by
  induction length : inside.length using Nat.strong_induction_on generalizing inside attributes with
  | _ size inductionHypothesis =>
    subst length
    cases started : skipSeparators inside with
    | nil =>
      rw [tagBody?_eq, skipSeparators_ending, started, List.nil_append] at read
      rw [attributesIn_of_separators started, danglingAttributes,
        danglingName?_of_separators started]
      cases selfClosing <;> cases read <;> rfl
    | cons first others =>
      obtain ⟨inner, rfl, searched⟩ := exists_step_of_tagBody? started read
      by_cases unvalued : selfClosing = true ∧ unvaluedName? (first :: others) ≠ none
      · obtain ⟨rfl, found⟩ := unvalued
        obtain ⟨name, unvalued⟩ := Option.ne_none_iff_exists'.mp found
        have step := attributeStep_unvalued unvalued
        have ended : tagBody? (WrittenTag.ending true) = some (inner, true, []) := by
          rwa [step] at searched
        rw [step, attributes_of_ending ended, attributesIn_of_unvaluedName? started unvalued,
          danglingAttributes, if_pos rfl, danglingName?_of_cons started, unvalued]
        rfl
      · have valued : selfClosing = true → unvaluedName? (first :: others) = none :=
          fun closes => by_contra fun found => unvalued ⟨closes, found⟩
        obtain ⟨kept, same⟩ := append_ending_of_tagBody? searched
        rw [List.append_nil] at same
        have searchedKept := searched
        rw [same] at searchedKept
        have step := attributeStep_of_ending (List.cons_ne_nil first others) valued
          (keptOf_of_tagBody? searchedKept) same
        have shorter : kept.length < inside.length := by
          have proper := properSuffix_attributeStep (List.cons_ne_nil first others)
          rw [step, ← started] at proper
          exact (proper.trans_suffix (skipSeparators_suffix inside)).length_lt
        have later := inductionHypothesis _ shorter searchedKept rfl
        have danglingLater :
            danglingAttributes selfClosing inside = danglingAttributes selfClosing kept := by
          unfold danglingAttributes
          cases selfClosing with
          | false => rfl
          | true => rw [danglingName?_of_cons started, valued rfl, Option.none_or, step]
        rw [attributesIn_of_cons started, step, later, danglingLater, List.append_assoc]

/-- A name without a value is where its section ends. -/
theorem exists_of_danglingName? {inside : List Char} {name : String}
    (found : danglingName? inside = some name) : ∃ front gap trailing,
      inside = front ++ (name.toList ++ (gap ++ '=' :: trailing)) ∧
        gap.all isSeparator = true ∧ trailing.all isSeparator = true := by
  fun_induction danglingName? inside with
  | case1 => cases found
  | case2 text something inductionHypothesis =>
    rcases Option.or_eq_some_iff.mp found with here | ⟨_, later⟩
    · obtain ⟨gap, trailing, parts, _, _, separated, missing⟩ := exists_of_unvaluedName? here
      refine ⟨text.takeWhile isSeparator, gap, trailing, ?_, separated, missing⟩
      rw [← parts]
      exact (List.takeWhile_append_dropWhile (p := isSeparator)).symm
    · obtain ⟨front, gap, trailing, parts, separated, missing⟩ := inductionHypothesis later
      obtain ⟨start, same⟩ := ((properSuffix_attributeStep something).trans_suffix
        (skipSeparators_suffix text)).suffix
      refine ⟨start ++ front, gap, trailing, ?_, separated, missing⟩
      rw [← same, parts, List.append_assoc]

/-- Between the name and the end of an opening tag there is a section that reads alone as it reads
in front of whatever follows, except that a tag that closes itself may have one attribute more: a
name at the end of the section whose value is missing, with an empty value. -/
theorem section_reads_alone {text behind : List Char} {tag : OpeningTag}
    (read : openingTag? text = some (tag, behind)) :
    ∃ inside, text =
        tag.name.toList ++ (inside ++ (WrittenTag.ending tag.selfClosing ++ behind)) ∧
      ReadsAlone tag inside := by
  have whole : text = tagName text ++ behindTagName text :=
    (List.takeWhile_append_dropWhile (p := isNameCharacter)).symm
  unfold openingTag? at read
  split at read
  · obtain ⟨⟨attributes, closes, after⟩, searched, same⟩ := Option.map_eq_some_iff.mp read
    obtain ⟨rfl, rfl⟩ := Prod.mk.inj same
    obtain ⟨inside, sameBody⟩ := append_ending_of_tagBody? searched
    refine ⟨inside, ?_, ?_⟩
    · rw [String.toList_ofList, ← sameBody]
      exact whole
    · rw [sameBody, ← List.append_assoc] at searched
      have alone : tagBody? (inside ++ WrittenTag.ending closes) = some (attributes, closes, []) :=
        tagBody?_of_append searched
      have same := attributes_of_tagBody? alone
      exact ⟨same, by rw [same]; exact List.self_eq_append_right,
        fun name => exists_of_danglingName?⟩
  · cases read

/-- Around a stray equals sign, a `>` between quotes, an open brace and a doubled slash, the section
of a tag gives the same three attributes. -/
theorem section_reads_alone_of_malformed :
    openingTag? "box =1 x=\"a>b\" y=\x7b u=v//>tail".toList =
        some (⟨"box", [⟨"1", "true"⟩, ⟨"x", "a>b"⟩, ⟨"u", "v/"⟩], true⟩, "tail".toList) ∧
      ∃ inside, "box =1 x=\"a>b\" y=\x7b u=v//>tail".toList =
          "box".toList ++ (inside ++ (WrittenTag.ending true ++ "tail".toList)) ∧
        ReadsAlone ⟨"box", [⟨"1", "true"⟩, ⟨"x", "a>b"⟩, ⟨"u", "v/"⟩], true⟩ inside := by
  have read : openingTag? "box =1 x=\"a>b\" y=\x7b u=v//>tail".toList =
      some (⟨"box", [⟨"1", "true"⟩, ⟨"x", "a>b"⟩, ⟨"u", "v/"⟩], true⟩, "tail".toList) := by
    decide +kernel
  exact ⟨read, section_reads_alone read⟩

/-- An equals sign in front of `/>` makes an attribute of the tag that its section does not have. -/
theorem section_lacks_unvalued :
    ∃ tag, openingTag? "a x=/>".toList = some (tag, []) ∧
      "a x=/>".toList = tag.name.toList ++ (" x=".toList ++ WrittenTag.ending tag.selfClosing) ∧
      attributesIn " x=".toList ≠ tag.attributes :=
  ⟨⟨"a", [⟨"x", ""⟩], true⟩, by decide +kernel⟩

end SceneMarkup.Markup
