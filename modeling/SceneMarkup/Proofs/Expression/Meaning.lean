import SceneMarkup.Expression.Evaluation
import SceneMarkup.Proofs.Expression.Arithmetic
import SceneMarkup.Proofs.Expression.Lexing
import SceneMarkup.Proofs.Expression.Reading

/-!
Contract: a placeholder stands for what its grammar and the meaning of its parts say.

Owns:
- `Denotes`, what an expression stands for given some attributes, case by case;
- the theorem that a text is refused exactly when it has no derivation, and otherwise evaluated as
  its only derivation says.

Does not own: the message of a refusal.
-/

namespace SceneMarkup.Expression

open SceneMarkup.Text

/-! ### Statement -/

/-- A condition holds for the word `true`, in any ASCII case and between blanks. -/
def IsTrue (text : String) : Prop := sameWord (trimmed text) "true" = true

/-- What an expression stands for: a text, or nothing. -/
inductive Denotes (attributes : Attributes) : Expression → Option String → Prop where
  | present {name : String} {before behind : Attributes} {entry : Attribute}
      (listed : attributes = before ++ entry :: behind)
      (named : sameWord entry.name name = true)
      (last : ∀ later ∈ behind, sameWord later.name name = false) :
      Denotes attributes (.attributeValue name) (some entry.value)
  | missing {name : String} (unnamed : ∀ entry ∈ attributes, sameWord entry.name name = false) :
      Denotes attributes (.attributeValue name) none
  | literal (text : String) : Denotes attributes (.literal text) (some text)
  | negation {operand : Expression} {value : Option String} {result : String}
      (below : Denotes attributes operand value)
      (computed : Computes .minus (some "0") value result) :
      Denotes attributes (.negation operand) (some result)
  | arithmetic {operator : Operator} {left right : Expression} {first second : Option String}
      {result : String} (leftValue : Denotes attributes left first)
      (rightValue : Denotes attributes right second)
      (computed : Computes operator first second result) :
      Denotes attributes (.arithmetic operator left right) (some result)
  | kept {left right : Expression} {text : String} (leftValue : Denotes attributes left (some text))
      (nonempty : text ≠ "") : Denotes attributes (.fallback left right) (some text)
  | replaced {left right : Expression} {first second : Option String}
      (leftValue : Denotes attributes left first) (lacking : first = none ∨ first = some "")
      (rightValue : Denotes attributes right second) :
      Denotes attributes (.fallback left right) second
  | chosen {condition consequence alternative : Expression} {text : String} {value : Option String}
      (asked : Denotes attributes condition (some text)) (holds : IsTrue text)
      (consequenceValue : Denotes attributes consequence value) :
      Denotes attributes (.conditional condition consequence alternative) value
  | otherwise {condition consequence alternative : Expression} {first value : Option String}
      (asked : Denotes attributes condition first)
      (fails : ∀ text, first = some text → ¬ IsTrue text)
      (alternativeValue : Denotes attributes alternative value) :
      Denotes attributes (.conditional condition consequence alternative) value

/-- What is reported for a text whose expression stands for a text or for nothing. -/
def outcome (text : String) : Option String → Except PlaceholderError String
  | some value => .ok value
  | none => .error (.unresolved (trimmed text))

/-! ### Attributes -/

section Attributes

variable {attributes : Attributes} {name : String}

theorem value?_of_last {before behind : Attributes} {entry : Attribute}
    (named : sameWord entry.name name = true)
    (last : ∀ later ∈ behind, sameWord later.name name = false) :
    (before ++ entry :: behind : Attributes).value? name = some entry.value := by
  have others : behind.filter (fun later => sameWord later.name name) = [] := by
    rw [List.filter_eq_nil_iff]
    intro later member
    rw [last later member]
    exact Bool.false_ne_true
  rw [Attributes.value?, List.filter_append, List.filter_cons_of_pos (by exact named), others,
    List.getLast?_concat]
  rfl

theorem value?_of_missing (unnamed : ∀ entry ∈ attributes, sameWord entry.name name = false) :
    attributes.value? name = none := by
  have nothing : attributes.filter (fun entry => sameWord entry.name name) = [] := by
    rw [List.filter_eq_nil_iff]
    intro entry member
    rw [unnamed entry member]
    exact Bool.false_ne_true
  rw [Attributes.value?, nothing]
  rfl

theorem denotes_value? (attributes : Attributes) (name : String) :
    Denotes attributes (.attributeValue name) (attributes.value? name) := by
  cases found : attributes.reverse.find? fun entry => sameWord entry.name name with
  | none =>
    rw [Attributes.value?, List.getLast?_filter, found]
    refine .missing fun entry member => ?_
    have other := List.find?_eq_none.mp found entry (List.mem_reverse.mpr member)
    exact Bool.not_eq_true _ ▸ other
  | some entry =>
    -- The last one of a name is the first one from behind.
    rw [Attributes.value?, List.getLast?_filter, found]
    obtain ⟨named, behind, before, reversed, last⟩ := List.find?_eq_some_iff_append.mp found
    have listed : attributes = before.reverse ++ entry :: behind.reverse := by
      rw [← List.reverse_reverse attributes, reversed]
      simp
    refine .present listed named fun later member => ?_
    simpa using last later (List.mem_reverse.mp member)

end Attributes

/-! ### Values -/

theorem isTruthy_iff {value : Option String} :
    isTruthy value = true ↔ ∃ text, value = some text ∧ IsTrue text := by
  rw [isTruthy, Option.any_eq_true]
  rfl

theorem denotes_value (attributes : Attributes) (expression : Expression) :
    Denotes attributes expression (expression.value attributes) := by
  induction expression with
  | attributeValue name => exact denotes_value? attributes name
  | literal text => exact .literal text
  | negation operand inductionHypothesis =>
    rw [value]
    exact .negation inductionHypothesis (apply_eq_iff.mp rfl)
  | arithmetic operator left right leftHypothesis rightHypothesis =>
    rw [value]
    exact .arithmetic leftHypothesis rightHypothesis (apply_eq_iff.mp rfl)
  | fallback left right leftHypothesis rightHypothesis =>
    rw [value]
    split
    · rename_i nothing
      rw [nothing] at leftHypothesis
      exact .replaced leftHypothesis (.inl rfl) rightHypothesis
    · rename_i text present
      rw [present] at leftHypothesis
      by_cases empty : text = ""
      · rw [if_pos empty]
        exact .replaced leftHypothesis (.inr (congrArg some empty)) rightHypothesis
      · rw [if_neg empty]
        exact .kept leftHypothesis empty
  | conditional condition consequence alternative conditionHypothesis consequenceHypothesis
      alternativeHypothesis =>
    rw [value]
    by_cases holds : isTruthy (condition.value attributes) = true
    · rw [if_pos holds]
      obtain ⟨text, present, holds⟩ := isTruthy_iff.mp holds
      rw [present] at conditionHypothesis
      exact .chosen conditionHypothesis holds consequenceHypothesis
    · rw [if_neg holds]
      exact .otherwise conditionHypothesis
        (fun text present holdsThere => holds (isTruthy_iff.mpr ⟨text, present, holdsThere⟩))
        alternativeHypothesis

/-- An expression stands for one text, or for nothing. -/
theorem Denotes.value_eq {attributes : Attributes} {expression : Expression}
    {denoted : Option String} (denotes : Denotes attributes expression denoted) :
    expression.value attributes = denoted := by
  induction denotes with
  | present listed named last =>
    rw [listed]
    exact value?_of_last named last
  | missing unnamed => exact value?_of_missing unnamed
  | literal text => rfl
  | negation _ computed inductionHypothesis =>
    rw [value, inductionHypothesis, apply_eq_iff.mpr computed]
  | arithmetic _ _ computed leftHypothesis rightHypothesis =>
    rw [value, leftHypothesis, rightHypothesis, apply_eq_iff.mpr computed]
  | kept _ nonempty leftHypothesis =>
    rw [value, leftHypothesis]
    exact if_neg nonempty
  | replaced _ lacking _ leftHypothesis rightHypothesis =>
    rw [value, leftHypothesis, rightHypothesis]
    rcases lacking with rfl | rfl <;> rfl
  | chosen _ holds _ conditionHypothesis consequenceHypothesis =>
    rw [value, conditionHypothesis, if_pos (isTruthy_iff.mpr ⟨_, rfl, holds⟩),
      consequenceHypothesis]
  | otherwise _ fails _ conditionHypothesis alternativeHypothesis =>
    have refused : ¬ isTruthy _ = true := fun holds =>
      let ⟨text, same, holdsThere⟩ := isTruthy_iff.mp holds
      fails text same holdsThere
    rw [value, conditionHypothesis, if_neg refused, alternativeHypothesis]

theorem denotes_iff {attributes : Attributes} {expression : Expression}
    {denoted : Option String} :
    Denotes attributes expression denoted ↔ expression.value attributes = denoted := by
  constructor
  · exact Denotes.value_eq
  · rintro rfl
    exact denotes_value attributes expression

/-! ### Texts -/

/-- The expression of a text is that of a derivation of its tokens. -/
theorem parse_eq_ok_iff {text : List Char} {expression : Expression} :
    parse text = .ok expression ↔
      ∃ derivation : Derivation .expression,
        Lexes text derivation.tokens ∧ derivation.expression = expression := by
  simp only [← tokens?_eq_some_iff]
  rw [parse]
  cases tokens? text with
  | none => simp
  | some tokens =>
    have asked : (∃ derivation : Derivation .expression,
        some tokens = some derivation.tokens ∧ derivation.expression = expression) ↔
          ofTokens tokens = .ok expression := by
      rw [ofTokens_eq_ok_iff]
      simp [eq_comm]
    rw [asked]
    cases tokens with
    | nil =>
      constructor
      · intro parsed
        cases parsed
      · intro made
        obtain ⟨derivation, empty, _⟩ := ofTokens_eq_ok_iff.mp made
        exact absurd empty derivation.tokens_ne_nil
    | cons token rest => rfl

theorem lexes_unique {text : List Char} {tokens others : List Token} (lexes : Lexes text tokens)
    (lexesOthers : Lexes text others) : others = tokens :=
  Option.some.inj
    ((tokens?_eq_some_iff.mpr lexesOthers).symm.trans (tokens?_eq_some_iff.mpr lexes))

theorem evaluate_of_parse_error {text : String} {fault : Fault}
    (refused : parse text.toList = .error fault) (attributes : Attributes) :
    evaluate text attributes = .error (.malformed (trimmed text) fault) := by
  rw [evaluate, refused]

theorem evaluate_of_parse_ok {text : String} {expression : Expression}
    (parsed : parse text.toList = .ok expression) (attributes : Attributes) :
    evaluate text attributes = outcome text (expression.value attributes) := by
  rw [evaluate, parsed]
  dsimp only
  cases expression.value attributes <;> rfl

theorem outcome_ne_malformed {text : String} {value : Option String} {fault : Fault} :
    outcome text value ≠ .error (.malformed (trimmed text) fault) := by
  intro same
  cases value <;> cases same

theorem evaluate_malformed_iff (text : String) (attributes : Attributes) :
    (∃ fault, evaluate text attributes = .error (.malformed (trimmed text) fault)) ↔
      ¬ ∃ tokens, tokens ≠ [] ∧ Lexes text.toList tokens ∧
        ∃ derivation : Derivation .expression, derivation.tokens = tokens := by
  constructor
  · rintro ⟨fault, refused⟩ ⟨_, _, lexes, derivation, rfl⟩
    have parsed := parse_eq_ok_iff.mpr ⟨derivation, lexes, rfl⟩
    rw [evaluate_of_parse_ok parsed] at refused
    exact outcome_ne_malformed refused
  · intro underivable
    cases parsed : parse text.toList with
    | error fault => exact ⟨fault, evaluate_of_parse_error parsed attributes⟩
    | ok expression =>
      obtain ⟨derivation, lexes, _⟩ := parse_eq_ok_iff.mp parsed
      exact absurd ⟨_, derivation.tokens_ne_nil, lexes, derivation, rfl⟩ underivable

/-- A text whose tokens have no derivation is refused. Any other stands for what its only derivation
denotes. -/
theorem evaluate_implements_grammar (text : String) (attributes : Attributes) :
    ((∃ fault, evaluate text attributes = .error (.malformed (trimmed text) fault)) ↔
      ¬ ∃ tokens, tokens ≠ [] ∧ Lexes text.toList tokens ∧
        ∃ derivation : Derivation .expression, derivation.tokens = tokens) ∧
    ∀ tokens, Lexes text.toList tokens →
      ∀ derivation : Derivation .expression, derivation.tokens = tokens →
        (∀ others, Lexes text.toList others → others = tokens) ∧
        (∀ other : Derivation .expression, other.tokens = tokens → other = derivation) ∧
        ∃ value, Denotes attributes derivation.expression value ∧
          (∀ other, Denotes attributes derivation.expression other → other = value) ∧
          evaluate text attributes = outcome text value := by
  refine ⟨evaluate_malformed_iff text attributes, ?_⟩
  rintro _ lexes derivation rfl
  refine ⟨fun _ => lexes_unique lexes, fun _ => Derivation.tokens_injective, ?_⟩
  refine ⟨derivation.expression.value attributes, denotes_iff.mpr rfl, ?_, ?_⟩
  · intro other denotes
    exact (denotes_iff.mp denotes).symm
  · exact evaluate_of_parse_ok (parse_eq_ok_iff.mpr ⟨derivation, lexes, rfl⟩) attributes

/-- The product binds tighter than the fallback, which replaces what is missing. -/
theorem evaluate_implements_grammar_at_product :
    ∃ (tokens : List Token) (derivation : Derivation .expression),
      Lexes "a||2*3".toList tokens ∧ derivation.tokens = tokens ∧
      Denotes [] derivation.expression (some "6") ∧ evaluate "a||2*3" [] = .ok "6" := by
  let derivation : Derivation .expression :=
    .plain (.chain (.chain (.chain (.unsigned (.name "a")) .done) .done)
      (.next .fallback
        (.chain (.chain (.unsigned (.literal "2")) (.next .times (.unsigned (.literal "3")) .done))
          .done)
        .done))
  have lexes : Lexes "a||2*3".toList derivation.tokens := by
    have a : Lexeme ['|', '|', '2', '*', '3'] ['a'] (.name (String.ofList ['a'])) :=
      .name (longest_singleton (by decide) (by rintro _ ⟨⟩; decide)) (by rintro _ ⟨⟩; decide)
    have two : Lexeme ['*', '3'] ['2'] (.literal (String.ofList ['2'])) :=
      .whole (longest_singleton (by decide) (by rintro _ ⟨⟩; decide)) (by rintro _ _ ⟨⟩)
    have three : Lexeme [] ['3'] (.literal (String.ofList ['3'])) :=
      .whole (longest_singleton (by decide) (by rintro _ ⟨⟩)) (by rintro _ _ ⟨⟩)
    exact @Lexes.next [] _ _ _ _ rfl a (@Lexes.next [] _ _ _ _ rfl (.sign .fallback)
      (@Lexes.next [] _ _ _ _ rfl two (@Lexes.next [] _ _ _ _ rfl (.sign .times)
        (@Lexes.next [] _ _ _ _ rfl three (@Lexes.done [] rfl)))))
  have denotes : Denotes [] derivation.expression (some "6") := by
    have two : Counts (some "2") 2 :=
      ⟨⟨"2", rfl, @Integer.unsigned ['2'] (by decide) (List.forall_mem_singleton.mpr rfl)⟩,
        by decide, by decide⟩
    have three : Counts (some "3") 3 :=
      ⟨⟨"3", rfl, @Integer.unsigned ['3'] (by decide) (List.forall_mem_singleton.mpr rfl)⟩,
        by decide, by decide⟩
    exact .replaced (.missing (by simp)) (.inl rfl) (.arithmetic (.literal "2") (.literal "3")
      (.exact two three (.times 2 3) ⟨by decide, by decide⟩))
  obtain ⟨_, _, value, _, unique, evaluated⟩ :=
    (evaluate_implements_grammar "a||2*3" []).2 _ lexes derivation rfl
  rw [← unique _ denotes] at evaluated
  exact ⟨_, derivation, lexes, rfl, denotes, evaluated⟩

end SceneMarkup.Expression
