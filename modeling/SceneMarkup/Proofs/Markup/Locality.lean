import Mathlib.Data.List.Basic
import Mathlib.Data.List.TakeWhile
import SceneMarkup.Proofs.Markup.Shape
import SceneMarkup.Proofs.Markup.WrittenTag

/-!
Contract: what stands at the beginning of a text is read the same when the end of the text is
missing.

Owns:
- runs, cuts and braces in front of an end that is cut off behind them;
- tags and comments in front of such an end, where the tag readers may have looked beyond it;
- the texts at which nothing begins, whose beginnings have nothing that begins there either.

Does not own: the pieces of a whole source.
-/

namespace SceneMarkup.Markup

open SceneMarkup.Text

/-! ### Ends of texts -/

/-- What lies between a text and an end of it has that end, too. -/
theorem exists_of_suffix {text middle inner later : List Char} (outside : middle <:+ text ++ later)
    (inside : inner ++ later <:+ middle) :
    ∃ kept, middle = kept ++ later ∧ kept <:+ text ∧ inner <:+ kept := by
  obtain ⟨front, rfl⟩ := inside
  rw [← List.append_assoc] at outside ⊢
  exact ⟨front ++ inner, rfl, List.suffix_append_self_iff.mp outside, List.suffix_append _ _⟩

/-- A text of which a known front is read keeps its end behind a part of its own. -/
theorem exists_of_front (front : List Char) {rest text kept later : List Char}
    (source : text ++ later = front ++ rest) (proper : ProperSuffix (kept ++ later) rest) :
    ∃ part, rest = part ++ later ∧ text = front ++ part ∧ part ≠ [] := by
  have outside : rest <:+ text ++ later := source ▸ List.suffix_append front rest
  obtain ⟨part, rfl, _, _⟩ := exists_of_suffix outside proper.suffix
  refine ⟨part, rfl, ?_, ?_⟩
  · rw [← List.append_assoc] at source
    exact (List.append_left_inj later).mp source
  · rintro rfl
    have shorter := proper.length_lt
    rw [List.length_append, List.nil_append] at shorter
    omega

section Runs

variable {test : Char → Bool} {text kept later : List Char}

/-- A run that ends inside a text does not depend on what follows the text. -/
theorem dropWhile_of_append (nonempty : kept ≠ [])
    (left : (text ++ later).dropWhile test = kept ++ later) : text.dropWhile test = kept := by
  rw [List.dropWhile_append] at left
  split at left
  · have shorter := (List.dropWhile_suffix test (l := later)).length_le
    have positive := List.length_pos_iff.mpr nonempty
    rw [left, List.length_append] at shorter
    omega
  · exact (List.append_left_inj later).mp left

theorem takeWhile_of_append (nonempty : kept ≠ [])
    (left : (text ++ later).dropWhile test = kept ++ later) :
    text.takeWhile test = (text ++ later).takeWhile test := by
  have whole := List.takeWhile_append_dropWhile (p := test) (l := text ++ later)
  have part := List.takeWhile_append_dropWhile (p := test) (l := text)
  rw [left] at whole
  rw [dropWhile_of_append nonempty left] at part
  apply (List.append_left_inj (kept ++ later)).mp
  rw [whole, ← List.append_assoc, part]

theorem isPrefix_dropWhile {whole : List Char} (begins : text <+: whole) :
    text.dropWhile test <+: whole.dropWhile test := by
  obtain ⟨later, rfl⟩ := begins
  rw [List.dropWhile_append]
  split
  · rename_i empty
    rw [List.isEmpty_iff.mp empty]
    exact List.nil_prefix
  · exact List.prefix_append _ _

end Runs

/-! ### Cuts -/

theorem cutAt?_of_append {pattern text before kept later : List Char} (nonempty : pattern ≠ [])
    (found : cutAt? pattern (text ++ later) = some (before, kept ++ later)) :
    cutAt? pattern text = some (before, kept) := by
  have whole := eq_append_of_cutAt? found
  rw [← List.append_assoc, ← List.append_assoc] at whole
  have part := (List.append_left_inj later).mp whole
  rw [part, List.append_assoc]
  exact cutAt?_eq_some nonempty (not_infix_of_cutAt? found nonempty) kept

theorem cutAt?_eq_none_of_isPrefix {pattern text whole : List Char} (begins : text <+: whole)
    (absent : cutAt? pattern whole = none) : cutAt? pattern text = none := by
  cases found : cutAt? pattern text with
  | none => rfl
  | some cut =>
    have parts := eq_append_of_cutAt? found
    have occurs : pattern <:+: text := ⟨cut.1, cut.2, by rw [parts, List.append_assoc]⟩
    exact absurd (occurs.trans begins.isInfix) (not_infix_of_cutAt?_eq_none absent)

/-! ### Braces -/

theorem bracedText?_cons (depth : Nat) (character : Char) (rest : List Char) :
    bracedText? depth (character :: rest) =
      if character = '\x7b' then
        (bracedText? (depth + 1) rest).map fun cut => (character :: cut.1, cut.2)
      else if character = '\x7d' then
        match depth with
        | 0 => some ([], rest)
        | depth + 1 => (bracedText? depth rest).map fun cut => (character :: cut.1, cut.2)
      else (bracedText? depth rest).map fun cut => (character :: cut.1, cut.2) := by
  by_cases opening : character = '\x7b'
  · subst opening
    rw [if_pos rfl, bracedText?]
  · rw [if_neg opening]
    by_cases closing : character = '\x7d'
    · subst closing
      rw [if_pos rfl]
      cases depth <;> rw [bracedText?]
    · rw [if_neg closing, bracedText?]
      · exact opening
      · exact fun _ same => absurd same closing
      · exact fun _ _ same => absurd same closing

/-- Text in braces stays what it is in front of anything. -/
theorem bracedText?_append {depth : Nat} {text inner kept : List Char}
    (found : bracedText? depth text = some (inner, kept)) (later : List Char) :
    bracedText? depth (text ++ later) = some (inner, kept ++ later) := by
  induction text generalizing depth inner with
  | nil => simp [bracedText?] at found
  | cons character rest inductionHypothesis =>
    have further {depth : Nat}
        (found : (bracedText? depth rest).map (fun cut => (character :: cut.1, cut.2)) =
          some (inner, kept)) :
        (bracedText? depth (rest ++ later)).map (fun cut => (character :: cut.1, cut.2)) =
          some (inner, kept ++ later) := by
      obtain ⟨⟨front, back⟩, searched, same⟩ := Option.map_eq_some_iff.mp found
      cases same
      rw [inductionHypothesis searched]
      rfl
    rw [List.cons_append, bracedText?_cons]
    rw [bracedText?_cons] at found
    by_cases opening : character = '\x7b'
    · rw [if_pos opening] at found ⊢
      exact further found
    · rw [if_neg opening] at found ⊢
      by_cases closing : character = '\x7d'
      · rw [if_pos closing] at found ⊢
        cases depth with
        | zero =>
          cases found
          rfl
        | succ depth => exact further found
      · rw [if_neg closing] at found ⊢
        exact further found

theorem bracedText?_of_append {depth : Nat} {text inner kept later : List Char}
    (found : bracedText? depth (text ++ later) = some (inner, kept ++ later)) :
    bracedText? depth text = some (inner, kept) := by
  induction text generalizing depth inner with
  | nil =>
    have shorter := (properSuffix_of_bracedText? found).length_lt
    rw [List.nil_append, List.length_append] at shorter
    omega
  | cons character rest inductionHypothesis =>
    have further {depth : Nat}
        (found : (bracedText? depth (rest ++ later)).map
          (fun cut => (character :: cut.1, cut.2)) = some (inner, kept ++ later)) :
        (bracedText? depth rest).map (fun cut => (character :: cut.1, cut.2)) =
          some (inner, kept) := by
      obtain ⟨⟨front, back⟩, searched, same⟩ := Option.map_eq_some_iff.mp found
      cases same
      rw [inductionHypothesis searched]
      rfl
    rw [bracedText?_cons]
    rw [List.cons_append, bracedText?_cons] at found
    by_cases opening : character = '\x7b'
    · rw [if_pos opening] at found ⊢
      exact further found
    · rw [if_neg opening] at found ⊢
      by_cases closing : character = '\x7d'
      · rw [if_pos closing] at found ⊢
        cases depth with
        | zero =>
          obtain ⟨rfl, left⟩ := Prod.mk.inj (Option.some.inj found)
          rw [(List.append_left_inj later).mp left]
        | succ depth => exact further found
      · rw [if_neg closing] at found ⊢
        exact further found

/-! ### Values and attributes -/

theorem value?_cons (character : Char) (rest : List Char) :
    value? (character :: rest) =
      if character = '"' then cutAt? ['"'] rest
      else if character = '\'' then cutAt? ['\''] rest
      else if character = '\x7b' then bracedText? 0 rest
      else bareValue? (character :: rest) := by
  by_cases double : character = '"'
  · subst double
    rw [if_pos rfl, value?]
  · rw [if_neg double]
    by_cases single : character = '\''
    · subst single
      rw [if_pos rfl, value?]
    · rw [if_neg single]
      by_cases brace : character = '\x7b'
      · subst brace
        rw [if_pos rfl, value?]
      · rw [if_neg brace, value?]
        · exact fun _ same => double (List.cons.inj same).1
        · exact fun _ same => single (List.cons.inj same).1
        · exact fun _ same => brace (List.cons.inj same).1

section Tags

variable {text kept later : List Char}

theorem bareValue?_of_append {value : List Char} (ended : '>' ∈ kept)
    (found : bareValue? (text ++ later) = some (value, kept ++ later)) :
    bareValue? text = some (value, kept) := by
  unfold bareValue? at found ⊢
  simp only at found ⊢
  split at found
  · cases found
  · rename_i nonempty
    split at found
    · rename_i givenBack
      obtain ⟨same, slashed⟩ := Prod.mk.inj (Option.some.inj found)
      -- The slash that is given back is not the end of the tag, which comes behind it.
      cases kept with
      | nil => cases ended
      | cons first kept =>
        rw [List.cons_append] at slashed
        obtain ⟨rfl, left⟩ := List.cons.inj slashed
        have ended : '>' ∈ kept := (List.mem_cons.mp ended).resolve_left (by decide)
        have nonemptyKept : kept ≠ [] := List.ne_nil_of_mem ended
        rw [takeWhile_of_append nonemptyKept left, dropWhile_of_append nonemptyKept left,
          if_neg nonempty, if_pos, same]
        refine ⟨givenBack.1, ?_⟩
        rw [← givenBack.2, left, List.head?_append_of_ne_nil _ nonemptyKept]
    · rename_i notGivenBack
      obtain ⟨same, left⟩ := Prod.mk.inj (Option.some.inj found)
      have nonemptyKept : kept ≠ [] := List.ne_nil_of_mem ended
      rw [takeWhile_of_append nonemptyKept left, dropWhile_of_append nonemptyKept left,
        if_neg nonempty, if_neg, same]
      rw [left, List.head?_append_of_ne_nil _ nonemptyKept] at notGivenBack
      exact notGivenBack

/-- Whether there is a bare value at all depends on the first character alone. -/
theorem bareValue?_eq_none_of_cons {character : Char} {rest others : List Char}
    (unread : bareValue? (character :: others) = none) : bareValue? (character :: rest) = none := by
  unfold bareValue? at unread ⊢
  by_cases bare : isBareCharacter character = true
  · simp only [List.takeWhile_cons_of_pos bare, if_neg (List.cons_ne_nil _ _)] at unread
    split at unread <;> cases unread
  · simp only [List.takeWhile_cons_of_neg bare, if_pos]

theorem value?_of_append {value : List Char} (ended : '>' ∈ kept)
    (found : value? (text ++ later) = some (value, kept ++ later)) :
    value? text = some (value, kept) := by
  cases text with
  | nil =>
    have shorter := (suffix_of_value? found).length_le
    have positive := List.length_pos_iff.mpr (List.ne_nil_of_mem ended)
    rw [List.nil_append, List.length_append] at shorter
    omega
  | cons character rest =>
    rw [List.cons_append, value?_cons, ← List.cons_append] at found
    rw [value?_cons]
    by_cases double : character = '"'
    · rw [if_pos double] at found ⊢
      exact cutAt?_of_append (by decide) found
    rw [if_neg double] at found ⊢
    by_cases single : character = '\''
    · rw [if_pos single] at found ⊢
      exact cutAt?_of_append (by decide) found
    rw [if_neg single] at found ⊢
    by_cases brace : character = '\x7b'
    · rw [if_pos brace] at found ⊢
      exact bracedText?_of_append found
    · rw [if_neg brace] at found ⊢
      exact bareValue?_of_append ended found

/-- Where no value begins, no value begins when the end of the text is missing. -/
theorem value?_eq_none_of_isPrefix {whole : List Char} (begins : text <+: whole)
    (unread : value? whole = none) : value? text = none := by
  cases text with
  | nil => rfl
  | cons character rest =>
    obtain ⟨later, rfl⟩ := begins
    rw [List.cons_append, value?_cons] at unread
    rw [value?_cons]
    by_cases double : character = '"'
    · rw [if_pos double] at unread ⊢
      exact cutAt?_eq_none_of_isPrefix (List.prefix_append _ _) unread
    rw [if_neg double] at unread ⊢
    by_cases single : character = '\''
    · rw [if_pos single] at unread ⊢
      exact cutAt?_eq_none_of_isPrefix (List.prefix_append _ _) unread
    rw [if_neg single] at unread ⊢
    by_cases brace : character = '\x7b'
    · rw [if_pos brace] at unread ⊢
      cases found : bracedText? 0 rest with
      | none => rfl
      | some cut =>
        rw [bracedText?_append found] at unread
        cases unread
    · rw [if_neg brace] at unread ⊢
      exact bareValue?_eq_none_of_cons unread

theorem attribute?_of_append {found : Attribute} (ended : '>' ∈ kept)
    (read : attribute? (text ++ later) = some (found, kept ++ later)) :
    attribute? text = some (found, kept) := by
  have nonemptyKept : kept ≠ [] := List.ne_nil_of_mem ended
  unfold attribute? at read ⊢
  simp only at read ⊢
  split at read
  · cases read
  · rename_i named
    have unnamed := List.dropWhile_suffix isAttributeNameCharacter (l := text ++ later)
    split at read
    · rename_i rest equals
      obtain ⟨⟨value, left⟩, searched, same⟩ := Option.map_eq_some_iff.mp read
      obtain ⟨rfl, rfl⟩ := Prod.mk.inj same
      -- The parts of the attribute lie one inside the other, down to what is left behind it.
      have valued := suffix_of_value? searched
      have separated : '=' :: rest <:+ (text ++ later).dropWhile isAttributeNameCharacter := by
        rw [← equals]
        exact skipSeparators_suffix _
      have behindEquals : kept ++ later <:+ rest := valued.trans (skipSeparators_suffix rest)
      obtain ⟨behindName, sameName, _, inName⟩ := exists_of_suffix unnamed
        ((behindEquals.trans (List.suffix_cons _ _)).trans separated)
      rw [sameName] at separated
      obtain ⟨part, sameRest, _, inRest⟩ := exists_of_suffix
        ((List.suffix_cons _ _).trans separated) behindEquals
      subst sameRest
      obtain ⟨inner, sameValue, _, inValue⟩ := exists_of_suffix (skipSeparators_suffix _) valued
      have nonemptyName := List.ne_nil_of_mem (inName.mem ended)
      rw [sameName] at equals
      rw [dropWhile_of_append nonemptyName sameName, takeWhile_of_append nonemptyName sameName,
        if_neg named]
      have equals : skipSeparators behindName = '=' :: part :=
        dropWhile_of_append (List.cons_ne_nil _ _) equals
      have nonemptyValue := List.ne_nil_of_mem (inValue.mem ended)
      have skipped : skipSeparators part = inner := dropWhile_of_append nonemptyValue sameValue
      rw [sameValue] at searched
      rw [equals]
      simp only [skipped, value?_of_append ended searched, Option.map_some]
    · rename_i notEquals
      obtain ⟨same, left⟩ := Prod.mk.inj (Option.some.inj read)
      rw [dropWhile_of_append nonemptyKept left, takeWhile_of_append nonemptyKept left,
        if_neg named]
      split
      · rename_i rest equals
        obtain ⟨more, extended⟩ : kept.dropWhile isSeparator <+:
            (kept ++ later).dropWhile isSeparator :=
          isPrefix_dropWhile (List.prefix_append kept later)
        rw [show kept.dropWhile isSeparator = '=' :: rest from equals] at extended
        rw [left] at notEquals
        exact absurd extended.symm (notEquals _)
      · rw [same]

/-- Neither a name nor separators nor an equals sign contain the `>` that ends a tag. -/
theorem exists_of_equals {rest : List Char} (ended : '>' ∈ text)
    (equals : skipSeparators ((text ++ later).dropWhile isAttributeNameCharacter) = '=' :: rest) :
    ∃ part, rest = part ++ later ∧
      skipSeparators (text.dropWhile isAttributeNameCharacter) = '=' :: part := by
  let name := (text ++ later).takeWhile isAttributeNameCharacter
  let behindName := (text ++ later).dropWhile isAttributeNameCharacter
  let separators := behindName.takeWhile isSeparator
  have named : '>' ∉ name := fun member => absurd (List.mem_takeWhile_imp member) (by decide)
  have separated : '>' ∉ separators :=
    fun member => absurd (List.mem_takeWhile_imp member) (by decide)
  have sameName : behindName = separators ++ '=' :: rest := by
    rw [← equals]
    exact (List.takeWhile_append_dropWhile (p := isSeparator)).symm
  have whole : text ++ later = (name ++ (separators ++ ['='])) ++ rest := by
    rw [List.append_assoc, List.append_assoc, List.singleton_append, ← sameName]
    exact (List.takeWhile_append_dropWhile (p := isAttributeNameCharacter)).symm
  rcases List.append_eq_append_iff.mp whole with ⟨beyond, reached, _⟩ | ⟨part, _, rfl⟩
  · have inside : '>' ∈ name ++ (separators ++ ['=']) := by
      rw [reached]
      exact List.mem_append_left _ ended
    simp [named, separated] at inside
  · have behindText : text.dropWhile isAttributeNameCharacter = separators ++ '=' :: part :=
      dropWhile_of_append (by simp) (sameName.trans (by simp))
    refine ⟨part, rfl, ?_⟩
    rw [behindText]
    exact dropWhile_append_cons (fun _ => List.mem_takeWhile_imp) (by decide) part

/-- A character that begins no attribute begins none when the end of the text is missing, provided
that the end of the tag is not. The tag ends behind the `=` whose value could not be read. -/
theorem attribute?_eq_none_of_append (ended : '>' ∈ text)
    (unread : attribute? (text ++ later) = none) : attribute? text = none := by
  unfold attribute? at unread ⊢
  simp only at unread ⊢
  split at unread
  · rename_i unnamed
    rw [if_pos]
    obtain ⟨character, rest, rfl⟩ := List.exists_cons_of_ne_nil (List.ne_nil_of_mem ended)
    have other : ¬ isAttributeNameCharacter character = true := by
      intro named
      rw [List.cons_append, List.takeWhile_cons_of_pos named] at unnamed
      cases unnamed
    exact List.takeWhile_cons_of_neg other
  · rename_i named
    split at unread
    · rename_i rest equals
      obtain ⟨part, rfl, equalsText⟩ := exists_of_equals ended equals
      have begins : skipSeparators part <+: skipSeparators (part ++ later) :=
        isPrefix_dropWhile (List.prefix_append part later)
      have unvalued := value?_eq_none_of_isPrefix begins (Option.map_eq_none_iff.mp unread)
      rw [equalsText]
      simp only [unvalued, Option.map_none, ite_self]
    · cases unread

/-- A step in front of the end of a tag. -/
theorem attributeStep_of_append (nonempty : text ≠ []) (ended : '>' ∈ kept)
    (left : (attributeStep (text ++ later)).2 = kept ++ later) :
    attributeStep text = ((attributeStep (text ++ later)).1, kept) := by
  cases read : attribute? (text ++ later) with
  | some step =>
    obtain ⟨found, behind⟩ := step
    have whole : attributeStep (text ++ later) = (some found, behind) := by
      rw [attributeStep, read]
    rw [whole] at left ⊢
    obtain rfl : behind = kept ++ later := left
    rw [attributeStep, attribute?_of_append ended read]
  | none =>
    have whole : attributeStep (text ++ later) = (none, (text ++ later).drop 1) := by
      rw [attributeStep, read]
    obtain ⟨character, rest, rfl⟩ := List.exists_cons_of_ne_nil nonempty
    rw [whole] at left ⊢
    obtain rfl : rest = kept := (List.append_left_inj later).mp left
    rw [attributeStep, attribute?_eq_none_of_append (List.mem_cons_of_mem _ ended) read]
    rfl

/-! ### Tags -/

theorem tagBody?_of_append {attributes : Attributes} {selfClosing : Bool}
    (read : tagBody? (text ++ later) = some (attributes, selfClosing, kept ++ later)) :
    tagBody? text = some (attributes, selfClosing, kept) := by
  generalize whole : text ++ later = source at read
  fun_induction tagBody? source generalizing text attributes with
  | case1 => cases read
  | case2 source rest started =>
    cases read
    subst whole
    have skipped : skipSeparators text = '>' :: kept :=
      dropWhile_of_append (List.cons_ne_nil _ _) started
    rw [tagBody?_eq, skipped]
    rfl
  | case3 source rest started =>
    cases read
    subst whole
    have skipped : skipSeparators text = '/' :: '>' :: kept :=
      dropWhile_of_append (List.cons_ne_nil _ _) started
    rw [tagBody?_eq, skipped]
    rfl
  | case4 source character rest notEnd notClosed started inductionHypothesis =>
    obtain ⟨⟨inside, closes, after⟩, searched, same⟩ := Option.map_eq_some_iff.mp read
    cases same
    subst whole
    have skipped : character :: rest <:+ text ++ later := by
      rw [← started]
      exact skipSeparators_suffix _
    have stepped := (properSuffix_attributeStep (List.cons_ne_nil character rest)).suffix
    -- The rest of the tag is read behind the step, and its end is among what is kept.
    have remaining := (properSuffix_of_tagBody? searched).suffix
    obtain ⟨part, samePart, _, _⟩ := exists_of_suffix skipped (remaining.trans stepped)
    have stepped : (attributeStep (character :: rest)).2 <:+ part ++ later :=
      stepped.trans (samePart ▸ List.suffix_rfl)
    obtain ⟨behind, sameBehind, inText, _⟩ := exists_of_suffix stepped remaining
    obtain ⟨inner, closed⟩ := append_of_tagBody? searched
    rw [sameBehind, ← List.cons_append, ← List.append_assoc] at closed
    have ended : '>' ∈ behind := by
      rw [(List.append_left_inj later).mp closed]
      simp
    have nonempty := List.ne_nil_of_mem (inText.mem ended)
    have step := attributeStep_of_append nonempty ended (samePart ▸ sameBehind)
    have skippedText : skipSeparators text = part :=
      dropWhile_of_append nonempty (started.trans samePart)
    obtain ⟨first, others, rfl⟩ := List.exists_cons_of_ne_nil nonempty
    rw [List.cons_append] at samePart
    obtain ⟨rfl, rfl⟩ := List.cons.inj samePart
    rw [tagBody?_eq, skippedText, ← List.cons_append]
    split
    · rename_i impossible
      cases impossible
    · rename_i impossible
      exact absurd (List.cons.inj impossible).1 notEnd
    · rename_i impossible
      obtain ⟨rfl, rfl⟩ := List.cons.inj impossible
      exact absurd rfl (notClosed _ rfl)
    · rename_i same
      obtain ⟨rfl, rfl⟩ := List.cons.inj same
      rw [step, inductionHypothesis sameBehind.symm searched]
      rfl

theorem startsName_of_append (nonempty : text ≠ []) :
    startsName (text ++ later) = startsName text := by
  rw [startsName, startsName, List.head?_append_of_ne_nil _ nonempty]

theorem openingTag?_of_append {tag : OpeningTag}
    (read : openingTag? (text ++ later) = some (tag, kept ++ later)) :
    openingTag? text = some (tag, kept) := by
  unfold openingTag? at read ⊢
  split at read
  · rename_i started
    obtain ⟨⟨attributes, closes, after⟩, searched, same⟩ := Option.map_eq_some_iff.mp read
    obtain ⟨rfl, rfl⟩ := Prod.mk.inj same
    obtain ⟨inner, closed⟩ := append_of_tagBody? searched
    have remaining := (properSuffix_of_tagBody? searched).suffix
    obtain ⟨body, sameBody, inText, _⟩ :=
      exists_of_suffix (behindTagName_suffix (text ++ later)) remaining
    rw [sameBody, ← List.cons_append, ← List.append_assoc] at closed
    have nonempty : body ≠ [] := by
      rw [(List.append_left_inj later).mp closed]
      simp
    rw [sameBody] at searched
    rw [startsName_of_append (fun empty => nonempty (List.suffix_nil.mp (empty ▸ inText)))]
      at started
    have named : tagName text = tagName (text ++ later) := takeWhile_of_append nonempty sameBody
    have behindName : behindTagName text = body := dropWhile_of_append nonempty sameBody
    rw [if_pos started, named, behindName, tagBody?_of_append searched]
    rfl
  · cases read

theorem closingTag?_of_append {name : String}
    (read : closingTag? (text ++ later) = some (name, kept ++ later)) :
    closingTag? text = some (name, kept) := by
  unfold closingTag? at read ⊢
  split at read
  · rename_i started
    split at read
    · rename_i rest closed
      obtain ⟨rfl, rfl⟩ := Prod.mk.inj (Option.some.inj read)
      have skipped := skipSeparators_suffix (behindTagName (text ++ later))
      rw [closed, ← List.cons_append] at skipped
      obtain ⟨body, sameBody, inText, inBody⟩ :=
        exists_of_suffix (behindTagName_suffix (text ++ later)) skipped
      have nonempty := List.ne_nil_of_mem (inBody.mem List.mem_cons_self)
      rw [sameBody] at closed
      rw [startsName_of_append (fun empty => nonempty (List.suffix_nil.mp (empty ▸ inText)))]
        at started
      have named : tagName text = tagName (text ++ later) := takeWhile_of_append nonempty sameBody
      have behindName : behindTagName text = body := dropWhile_of_append nonempty sameBody
      have skipped : skipSeparators body = '>' :: kept :=
        dropWhile_of_append (List.cons_ne_nil _ _) closed
      rw [if_pos started, named, behindName, skipped]
      rfl
    · cases read
  · cases read

end Tags

/-! ### Comments -/

section Comments

variable {text whole kept later : List Char} {form : CommentForm}

theorem opener_prefix_of_commentForm (opened : CommentForm.of? text = some form) :
    form ∈ [CommentForm.angled, CommentForm.braced] ∧ form.opener <+: text := by
  have known := List.mem_of_find?_eq_some opened
  rw [CommentForm.of?] at opened
  have holds := List.find?_some opened
  exact ⟨known, List.isPrefixOf_iff_prefix.mp holds⟩

/-- Whether a comment begins depends on the characters of the openers alone. -/
theorem commentForm_eq_none_of_isPrefix (begins : text <+: whole)
    (unopened : CommentForm.of? whole = none) : CommentForm.of? text = none := by
  rw [CommentForm.of?, List.find?_eq_none] at unopened ⊢
  intro form known opened
  exact unopened form known
    (List.isPrefixOf_iff_prefix.mpr ((List.isPrefixOf_iff_prefix.mp opened).trans begins))

theorem commentForm_of_isPrefix (begins : text <+: whole)
    (opened : CommentForm.of? whole = some form) (inside : form.opener <+: text) :
    CommentForm.of? text = some form := by
  rw [CommentForm.of?, List.find?_eq_some_iff_append] at opened ⊢
  obtain ⟨_, before, behind, forms, others⟩ := opened
  refine ⟨List.isPrefixOf_iff_prefix.mpr inside, before, behind, forms, fun other member => ?_⟩
  have absent := others other member
  simp only [Bool.not_eq_true', ← Bool.not_eq_true, List.isPrefixOf_iff_prefix] at absent ⊢
  exact fun here => absent (here.trans begins)

theorem behindComment?_of_append (nonempty : later ≠ [])
    (read : behindComment? (text ++ later) = some (kept ++ later)) :
    behindComment? text = some kept := by
  obtain ⟨form, opened, left⟩ := Option.map_eq_some_iff.mp read
  obtain ⟨known, begins⟩ := opener_prefix_of_commentForm opened
  unfold CommentForm.behindTerminator at left
  split at left
  · rename_i before after found
    subst left
    have found := cutAt?_of_append (terminator_ne_nil opened) found
    have parts := eq_append_of_cutAt? found
    -- The comment ends inside the text, and its opener does not reach beyond its end.
    have ending : text ++ later = (before ++ form.terminator) ++ (kept ++ later) := by
      simp [parts]
    rw [ending] at begins
    have inside := (opener_prefix_of_terminated known begins (List.suffix_append _ _)).trans
      (List.prefix_append _ kept)
    rw [List.append_assoc, ← parts] at inside
    rw [behindComment?, commentForm_of_isPrefix (List.prefix_append _ _) opened inside,
      Option.map_some, CommentForm.behindTerminator, found]
  · exact absurd (List.append_eq_nil_iff.mp left.symm).2 nonempty

theorem behindComment?_eq_none_of_isPrefix (begins : text <+: whole)
    (uncommented : behindComment? whole = none) : behindComment? text = none := by
  rw [behindComment?, Option.map_eq_none_iff] at uncommented ⊢
  exact commentForm_eq_none_of_isPrefix begins uncommented

end Comments

/-! ### Marks -/

section Marks

variable {recovery : Recovery} {text whole kept later : List Char} {mark : Mark}

/-- What is read in front of the end of a text is read without that end. -/
theorem mark?_of_append
    (read : mark? recovery (text ++ later) = some (mark, kept ++ later)) :
    mark? recovery text = some (mark, kept) := by
  by_cases empty : later = []
  · simpa [empty] using read
  · apply MarkRead.mark?_eq
    have uncommented := behindComment?_eq_none_of_isPrefix (List.prefix_append text later)
    generalize source : text ++ later = whole at read uncommented
    generalize left : kept ++ later = behind at read
    cases markRead_of_mark? read with
    | comment commented =>
      subst source left
      exact .comment (behindComment?_of_append empty commented)
    | @closing rest _ _ uncommentedWhole started closed =>
      subst left
      obtain ⟨part, rfl, rfl, nonempty⟩ := exists_of_front ['<', '/'] source
        (properSuffix_of_closingTag? closed)
      rw [startsName_of_append nonempty] at started
      exact .closing (uncommented uncommentedWhole) started (closingTag?_of_append closed)
    | @opening rest _ _ uncommentedWhole started opened =>
      subst left
      obtain ⟨part, rfl, rfl, nonempty⟩ := exists_of_front ['<'] source
        (properSuffix_of_openingTag? opened)
      rw [startsName_of_append nonempty] at started
      exact .opening (uncommented uncommentedWhole) started (openingTag?_of_append opened)
    | brokenClosing => exact absurd (List.append_eq_nil_iff.mp left).2 empty
    | brokenOpening => exact absurd (List.append_eq_nil_iff.mp left).2 empty

theorem isSome_of_markRead {behind : List Char} (found : MarkRead recovery text mark behind) :
    (mark? recovery text).isSome :=
  Option.isSome_iff_exists.mpr ⟨_, found.mark?_eq⟩

/-- The strict scan reads something at every tag start, whether the tag has an end or not. -/
theorem isSome_mark?_of_opening {rest : List Char} (started : startsName rest = true) :
    (mark? .strict ('<' :: rest)).isSome := by
  cases commented : behindComment? ('<' :: rest) with
  | some behind => exact isSome_of_markRead (.comment commented)
  | none =>
    cases read : openingTag? rest with
    | some found => exact isSome_of_markRead (.opening commented started read)
    | none => exact isSome_of_markRead (.brokenOpening commented started read rfl)

theorem isSome_mark?_of_closing {rest : List Char} (started : startsName rest = true) :
    (mark? .strict ('<' :: '/' :: rest)).isSome := by
  cases commented : behindComment? ('<' :: '/' :: rest) with
  | some behind => exact isSome_of_markRead (.comment commented)
  | none =>
    cases read : closingTag? rest with
    | some found => exact isSome_of_markRead (.closing commented started read)
    | none => exact isSome_of_markRead (.brokenClosing commented started read rfl)

/-- Where nothing begins, nothing begins when the end of the text is missing. -/
theorem mark?_eq_none_of_isPrefix (begins : text <+: whole) (unread : mark? .strict whole = none) :
    mark? .strict text = none := by
  rw [← Option.not_isSome_iff_eq_none] at unread ⊢
  intro found
  obtain ⟨⟨mark, behind⟩, read⟩ := Option.isSome_iff_exists.mp found
  obtain ⟨later, rfl⟩ := begins
  have started {rest : List Char} (named : startsName rest = true) :
      startsName (rest ++ later) = true := by
    rw [startsName_of_append, named]
    rintro rfl
    cases named
  cases markRead_of_mark? read with
  | comment commented =>
    cases commentedWhole : behindComment? (text ++ later) with
    | some left => exact unread (isSome_of_markRead (.comment commentedWhole))
    | none =>
      rw [behindComment?_eq_none_of_isPrefix (List.prefix_append _ _) commentedWhole] at commented
      cases commented
  | closing _ named _ => exact unread (isSome_mark?_of_closing (started named))
  | opening _ named _ => exact unread (isSome_mark?_of_opening (started named))
  | brokenClosing _ named _ _ => exact unread (isSome_mark?_of_closing (started named))
  | brokenOpening _ named _ _ => exact unread (isSome_mark?_of_opening (started named))

end Marks

end SceneMarkup.Markup
