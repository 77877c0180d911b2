import Mathlib.Data.List.TakeWhile
import SceneMarkup.Expression.Token
import SceneMarkup.Proofs.Markup.Names
import SceneMarkup.Proofs.Text.Occurrence

/-!
Contract: the tokens of a text are those of its written form.

Owns:
- `Lexeme`, the written form of each token, and `Lexes`, that of a row of tokens;
- the longest row of characters of a class, which names and numbers take;
- the theorem that `tokens?` finds the one row of tokens that a text writes.

Does not own: how tokens make an expression.
-/

namespace SceneMarkup.Expression

open SceneMarkup.Text SceneMarkup.Markup SceneMarkup.Number

/-! ### Statement -/

/-- Some characters of a class, and behind them no more of it. -/
structure Longest (holds : Char → Bool) (row behind : List Char) : Prop where
  nonempty : row ≠ []
  inside : ∀ character ∈ row, holds character = true
  stops : ∀ character ∈ behind.head?, holds character = false

/-- The characters of a sign. -/
def Sign.text : Sign → List Char
  | .fallback => ['|', '|']
  | .question => ['?']
  | .colon => [':']
  | .plus => ['+']
  | .minus => ['-']
  | .times => ['*']
  | .dividedBy => ['/']
  | .opening => ['(']
  | .closing => [')']

/-- The written form of a token before some text. -/
inductive Lexeme (behind : List Char) : List Char → Token → Prop where
  | sign (sign : Sign) : Lexeme behind sign.text (.sign sign)
  | quoted {quote : Char} {inner : List Char} (mark : quote = '\'' ∨ quote = '"')
      (unquoted : quote ∉ inner) :
      Lexeme behind (quote :: (inner ++ [quote])) (.literal (String.ofList inner))
  | whole {digits : List Char} (longest : Longest isDigit digits behind)
      (noFraction : ∀ digit rest, behind = '.' :: digit :: rest → isDigit digit = false) :
      Lexeme behind digits (.literal (String.ofList digits))
  | decimal {digits fraction : List Char}
      (longest : Longest isDigit digits ('.' :: (fraction ++ behind)))
      (longestFraction : Longest isDigit fraction behind) :
      Lexeme behind (digits ++ '.' :: fraction)
        (.literal (String.ofList (digits ++ '.' :: fraction)))
  | name {letters : List Char} (longest : Longest isNamePart letters behind)
      (noDigit : ∀ character ∈ letters.head?, isDigit character = false) :
      Lexeme behind letters (.name (String.ofList letters))

/-- The written form of a row of tokens. Separators may stand before, between and behind them. -/
inductive Lexes : List Char → List Token → Prop where
  | done {separators : List Char} (blank : separators.all isSeparator = true) :
      Lexes separators []
  | next {separators source behind : List Char} {token : Token} {tokens : List Token}
      (blank : separators.all isSeparator = true) (lexeme : Lexeme behind source token)
      (others : Lexes behind tokens) : Lexes (separators ++ (source ++ behind)) (token :: tokens)

/-! ### Longest rows -/

section Longest

variable {holds : Char → Bool} {row behind text : List Char}

theorem Longest.takeWhile_eq (longest : Longest holds row behind) :
    (row ++ behind).takeWhile holds = row := by
  cases behind with
  | nil =>
    rw [List.append_nil, List.takeWhile_eq_self_iff]
    exact longest.inside
  | cons character rest =>
    exact takeWhile_append_cons longest.inside (longest.stops character rfl) rest

theorem Longest.dropWhile_eq (longest : Longest holds row behind) :
    (row ++ behind).dropWhile holds = behind := by
  have whole := @List.takeWhile_append_dropWhile _ holds (row ++ behind)
  rw [longest.takeWhile_eq] at whole
  exact (List.append_right_inj row).mp whole

theorem longest_takeWhile (nonempty : text.takeWhile holds ≠ []) :
    Longest holds (text.takeWhile holds) (text.dropWhile holds) where
  nonempty := nonempty
  inside _ member := List.mem_takeWhile_imp member
  stops character first := by
    have stopped := List.head?_dropWhile_not holds text
    rw [Option.mem_def.mp first] at stopped
    exact stopped

theorem longest_singleton {character : Char} (held : holds character = true)
    (stops : ∀ next ∈ behind.head?, holds next = false) : Longest holds [character] behind :=
  ⟨List.cons_ne_nil _ _, List.forall_mem_singleton.mpr held, stops⟩

/-- The first character of a row that is not empty. -/
theorem Longest.exists_cons (longest : Longest holds row behind) :
    ∃ character rest, row = character :: rest ∧ holds character = true := by
  obtain ⟨character, rest, rfl⟩ := List.exists_cons_of_ne_nil longest.nonempty
  exact ⟨character, rest, rfl, longest.inside character List.mem_cons_self⟩

end Longest

/-! ### Tokens -/

/-- A character that begins neither a fallback sign, nor a quoted text, nor separators. -/
structure Plain (character : Char) : Prop where
  bar : character ≠ '|'
  mark : ¬(character = '\'' ∨ character = '"')
  separator : isSeparator character = false

theorem token?_of_plain {character : Char} (plain : Plain character) (rest : List Char) :
    token? (character :: rest) =
      if isDigit character then
        some (.literal (String.ofList (numberPart (character :: rest)).1),
          (numberPart (character :: rest)).2)
      else nameOrSign? (character :: rest) := by
  unfold token?
  exact (if_neg plain.bar).trans (if_neg plain.mark)

/-- Every sign but that of a fallback has one character. -/
theorem Sign.text_cases (sign : Sign) :
    sign = .fallback ∨ ∃ character, sign.text = [character] ∧ sign? character = some sign := by
  cases sign with
  | fallback => exact .inl rfl
  | _ => exact .inr ⟨_, rfl, rfl⟩

theorem plain_of_sign {character : Char} {sign : Sign} (known : sign? character = some sign) :
    sign.text = [character] ∧ Plain character ∧ isDigit character = false ∧
      isNamePart character = false := by
  unfold sign? at known
  split at known <;> cases known <;>
    exact ⟨rfl, ⟨by decide, by decide, by decide⟩, by decide, by decide⟩

theorem plain_of_class {holds : Char → Bool}
    (others : ['|', '\'', '"', ' ', '\t', '\r', '\n'].all fun other => !holds other)
    {character : Char} (held : holds character = true) : Plain character := by
  have different {other : Char} (member : other ∈ ['|', '\'', '"', ' ', '\t', '\r', '\n']) :
      character ≠ other := by
    rintro rfl
    have outside := List.all_eq_true.mp others _ member
    rw [held] at outside
    cases outside
  refine ⟨different (by decide), ?_, ?_⟩
  · rintro (same | same)
    · exact different (by decide) same
    · exact different (by decide) same
  · cases separator : isSeparator character with
    | false => rfl
    | true =>
      rcases separator_cases separator with same | same | same | same <;>
        exact absurd same (different (by decide))

theorem plain_of_namePart {character : Char} : isNamePart character = true → Plain character :=
  plain_of_class (by decide)

theorem plain_of_digit {character : Char} : isDigit character = true → Plain character :=
  plain_of_class (by decide)

section Tokens

variable {text source behind : List Char} {token : Token}

theorem numberPart_whole {digits : List Char} (longest : Longest isDigit digits behind)
    (noFraction : ∀ digit rest, behind = '.' :: digit :: rest → isDigit digit = false) :
    numberPart (digits ++ behind) = (digits, behind) := by
  simp only [numberPart, longest.takeWhile_eq, longest.dropWhile_eq]
  split
  · rename_i rest
    have nothing : rest.takeWhile isDigit = [] := by
      cases rest with
      | nil => rfl
      | cons digit others =>
        exact List.takeWhile_cons_of_neg (by rw [noFraction digit others rfl]; decide)
    rw [if_pos nothing]
  · rfl

theorem numberPart_decimal {digits fraction : List Char}
    (longest : Longest isDigit digits ('.' :: (fraction ++ behind)))
    (longestFraction : Longest isDigit fraction behind) :
    numberPart (digits ++ '.' :: (fraction ++ behind)) = (digits ++ '.' :: fraction, behind) := by
  simp only [numberPart, longest.takeWhile_eq, longest.dropWhile_eq,
    longestFraction.takeWhile_eq, longestFraction.dropWhile_eq]
  rw [if_neg longestFraction.nonempty]

/-- A token is found in its written form. -/
theorem Lexeme.token?_eq (lexeme : Lexeme behind source token) :
    token? (source ++ behind) = some (token, behind) := by
  cases lexeme with
  | sign sign =>
    rcases sign.text_cases with rfl | ⟨character, text, known⟩
    · rfl
    · obtain ⟨-, plain, digit, named⟩ := plain_of_sign known
      rw [text, List.singleton_append, token?_of_plain plain, if_neg (by rw [digit]; decide),
        nameOrSign?, if_neg (by rw [named]; decide), known]
      rfl
  | @quoted quote inner mark unquoted =>
    have bar : quote ≠ '|' := by
      rcases mark with rfl | rfl <;> decide
    rw [List.cons_append, List.append_assoc, List.singleton_append]
    unfold token?
    refine (if_neg bar).trans ((if_pos mark).trans ?_)
    rw [cutAt?_singleton unquoted]
    rfl
  | whole longest noFraction =>
    obtain ⟨first, rest, rfl, digit⟩ := longest.exists_cons
    rw [List.cons_append, token?_of_plain (plain_of_digit digit), if_pos digit,
      ← List.cons_append, numberPart_whole longest noFraction]
  | decimal longest longestFraction =>
    obtain ⟨first, rest, rfl, digit⟩ := longest.exists_cons
    have read := numberPart_decimal longest longestFraction
    rw [List.append_assoc, List.cons_append, List.cons_append,
      token?_of_plain (plain_of_digit digit), if_pos digit, ← List.cons_append, read]
  | name longest noDigit =>
    obtain ⟨first, rest, rfl, named⟩ := longest.exists_cons
    rw [List.cons_append, token?_of_plain (plain_of_namePart named),
      if_neg (by rw [noDigit first rfl]; decide), nameOrSign?, if_pos named, ← List.cons_append,
      longest.takeWhile_eq, longest.dropWhile_eq]

/-- A text that begins with a digit begins with a number. -/
theorem exists_lexeme_of_digit (nonempty : text.takeWhile isDigit ≠ []) :
    ∃ source, text = source ++ (numberPart text).2 ∧
      Lexeme (numberPart text).2 source (.literal (String.ofList (numberPart text).1)) := by
  have longest := longest_takeWhile nonempty
  have parts := @List.takeWhile_append_dropWhile _ isDigit text
  unfold numberPart
  dsimp only
  split
  · rename_i rest pointed
    by_cases fraction : rest.takeWhile isDigit = []
    · rw [if_pos fraction]
      refine ⟨_, parts.symm, .whole longest ?_⟩
      intro digit others same
      rw [pointed] at same
      cases same
      by_contra other
      rw [List.takeWhile_cons_of_pos (Bool.not_eq_false _ ▸ other)] at fraction
      cases fraction
    · rw [if_neg fraction]
      rw [pointed] at longest parts
      have fractionParts := @List.takeWhile_append_dropWhile _ isDigit rest
      refine ⟨_, ?_, .decimal ?_ (longest_takeWhile fraction)⟩
      · rw [List.append_assoc, List.cons_append, fractionParts, parts]
      · rwa [fractionParts]
  · rename_i pointless
    refine ⟨_, parts.symm, .whole longest ?_⟩
    intro digit others same
    exact absurd same (pointless _)

theorem exists_lexeme_of_nameOrSign? {character : Char} {rest : List Char}
    (noDigit : isDigit character = false)
    (found : nameOrSign? (character :: rest) = some (token, behind)) :
    ∃ source, character :: rest = source ++ behind ∧ Lexeme behind source token := by
  rw [nameOrSign?] at found
  split at found
  · rename_i named
    have taken :
        (character :: rest).takeWhile isNamePart = character :: rest.takeWhile isNamePart :=
      List.takeWhile_cons_of_pos named
    cases found
    refine ⟨(character :: rest).takeWhile isNamePart, List.takeWhile_append_dropWhile.symm,
      .name (longest_takeWhile (by rw [taken]; exact List.cons_ne_nil _ _)) ?_⟩
    intro first member
    rw [taken, List.head?_cons, Option.mem_some_iff] at member
    rwa [← member]
  · obtain ⟨sign, known, same⟩ := Option.map_eq_some_iff.mp found
    cases same
    obtain ⟨text, -⟩ := plain_of_sign known
    refine ⟨[character], rfl, ?_⟩
    rw [← text]
    exact .sign sign

/-- What is found at the beginning of a text is written there. -/
theorem exists_lexeme (found : token? text = some (token, behind)) :
    ∃ source, text = source ++ behind ∧ Lexeme behind source token := by
  unfold token? at found
  split at found
  · cases found
  · rename_i character rest
    split at found
    · rename_i bar
      subst bar
      split at found
      · cases found
        exact ⟨['|', '|'], rfl, .sign .fallback⟩
      · cases found
    · split at found
      · rename_i mark
        obtain ⟨⟨inner, _⟩, cut, same⟩ := Option.map_eq_some_iff.mp found
        cases same
        refine ⟨character :: (inner ++ [character]), ?_, .quoted mark ?_⟩
        · rw [eq_append_of_cutAt? cut]
          simp
        · intro member
          obtain ⟨front, back, split⟩ := List.append_of_mem member
          apply not_infix_of_cutAt? cut (List.cons_ne_nil _ _)
          exact ⟨front, back, by rw [split]; simp⟩
      · split at found
        · rename_i digit
          cases found
          apply exists_lexeme_of_digit
          rw [List.takeWhile_cons_of_pos digit]
          exact List.cons_ne_nil _ _
        · rename_i noDigit
          exact exists_lexeme_of_nameOrSign? (Bool.not_eq_true _ ▸ noDigit) found

end Tokens

/-! ### Rows of tokens -/

/-- A token does not begin with a separator. -/
theorem Lexeme.skipSeparators_eq {source behind : List Char} {token : Token}
    (lexeme : Lexeme behind source token) :
    skipSeparators (source ++ behind) = source ++ behind := by
  cases lexeme with
  | sign sign =>
    rcases sign.text_cases with rfl | ⟨character, text, known⟩
    · rfl
    · rw [text, List.singleton_append]
      exact skipSeparators_cons (plain_of_sign known).2.1.separator _
  | quoted mark _ => rcases mark with rfl | rfl <;> exact skipSeparators_cons (by decide) _
  | whole longest _ =>
    obtain ⟨first, rest, rfl, digit⟩ := longest.exists_cons
    exact skipSeparators_cons (plain_of_digit digit).separator _
  | decimal longest _ =>
    obtain ⟨first, rest, rfl, digit⟩ := longest.exists_cons
    exact skipSeparators_cons (plain_of_digit digit).separator _
  | name longest _ =>
    obtain ⟨first, rest, rfl, named⟩ := longest.exists_cons
    exact skipSeparators_cons (plain_of_namePart named).separator _

theorem Lexeme.append_ne_nil {source behind : List Char} {token : Token}
    (lexeme : Lexeme behind source token) : source ++ behind ≠ [] := by
  intro empty
  have found := lexeme.token?_eq
  rw [empty] at found
  cases found

theorem tokens?_eq (text : List Char) :
    tokens? text =
      if skipSeparators text = [] then some []
      else (token? (skipSeparators text)).bind fun first =>
        (tokens? first.2).map (first.1 :: ·) := by
  rw [tokens?.eq_def]
  split
  · rfl
  · split
    · rename_i found
      rw [found]
      rfl
    · rename_i found
      rw [found]
      rfl

/-- A text has the tokens that it writes, and no others. -/
theorem tokens?_eq_some_iff {text : List Char} {tokens : List Token} :
    tokens? text = some tokens ↔ Lexes text tokens := by
  constructor
  · intro found
    induction length : text.length using Nat.strongRecOn generalizing text tokens with
    | _ length inductionHypothesis =>
      have blank : (text.takeWhile isSeparator).all isSeparator = true := List.all_takeWhile
      have parts : text.takeWhile isSeparator ++ skipSeparators text = text :=
        List.takeWhile_append_dropWhile
      rw [tokens?_eq] at found
      split at found
      · rename_i skipped
        cases found
        rw [skipped, List.append_nil] at parts
        rw [← parts]
        exact .done blank
      · obtain ⟨⟨token, behind⟩, first, further⟩ := Option.bind_eq_some_iff.mp found
        obtain ⟨others, later, rfl⟩ := Option.map_eq_some_iff.mp further
        obtain ⟨source, split, lexeme⟩ := exists_lexeme first
        have shorter := ((properSuffix_of_token? first).trans_suffix
          (skipSeparators_suffix text)).length_lt
        have written := inductionHypothesis behind.length (by rwa [← length]) later rfl
        rw [← parts, split]
        exact .next blank lexeme written
  · intro lexes
    induction lexes with
    | @done separators blank =>
      have skipped : skipSeparators separators = [] := by
        have dropped := skipSeparators_append blank []
        rwa [List.append_nil] at dropped
      rw [tokens?_eq, if_pos skipped]
    | @next separators source behind token tokens blank lexeme _ inductionHypothesis =>
      rw [tokens?_eq, skipSeparators_append blank, lexeme.skipSeparators_eq,
        if_neg lexeme.append_ne_nil, lexeme.token?_eq, Option.bind_some, inductionHypothesis]
      rfl

end SceneMarkup.Expression
