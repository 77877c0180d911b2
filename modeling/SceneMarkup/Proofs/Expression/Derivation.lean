import SceneMarkup.Expression.Basic
import SceneMarkup.Expression.Token

/-!
Contract: the grammar of expressions, and that it is unambiguous.

Owns:
- `Derivation`, the derivations of the documented grammar, with the tokens and the expression of
  each;
- the rank of a level and of a sign, which tells where an expression ends;
- the theorem that tokens have one derivation.

Does not own: the reader of tokens.

```text
expression := fallback ( '?' expression ':' expression )?
fallback   := sum ( '||' sum )*
sum        := product ( ('+' | '-') product )*
product    := signed ( ('*' | '/') signed )*
signed     := '-' signed | operand
operand    := name | literal | '(' expression ')'
```
-/

namespace SceneMarkup.Expression

/-! ### Statement -/

/-- The levels that repeat a part with signs between. -/
inductive Chain where
  | fallback
  | sum
  | product
deriving DecidableEq, Repr

inductive Level where
  | expression
  | chain (chain : Chain)
  | signed
  | operand
deriving DecidableEq, Repr

/-- The level of what a chain repeats. -/
def Chain.part : Chain → Level
  | fallback => .chain .sum
  | sum => .chain .product
  | product => .signed

/-- What stands between two parts of a chain. -/
inductive Joint : Chain → Type where
  | fallback : Joint .fallback
  | plus : Joint .sum
  | minus : Joint .sum
  | times : Joint .product
  | dividedBy : Joint .product

namespace Joint

def sign {chain : Chain} : Joint chain → Sign
  | fallback => .fallback
  | plus => .plus
  | minus => .minus
  | times => .times
  | dividedBy => .dividedBy

def join {chain : Chain} : Joint chain → Expression → Expression → Expression
  | fallback => .fallback
  | plus => .arithmetic .plus
  | minus => .arithmetic .minus
  | times => .arithmetic .times
  | dividedBy => .arithmetic .dividedBy

end Joint

mutual
inductive Derivation : Level → Type where
  | plain (only : Derivation (.chain .fallback)) : Derivation .expression
  | conditional (condition : Derivation (.chain .fallback))
      (consequence alternative : Derivation .expression) : Derivation .expression
  | chain {chain : Chain} (first : Derivation chain.part) (others : Repetition chain) :
      Derivation (.chain chain)
  | negated (operand : Derivation .signed) : Derivation .signed
  | unsigned (operand : Derivation .operand) : Derivation .signed
  | name (name : String) : Derivation .operand
  | literal (text : String) : Derivation .operand
  | enclosed (inner : Derivation .expression) : Derivation .operand

/-- The parts of a chain behind the first. -/
inductive Repetition : Chain → Type where
  | done {chain : Chain} : Repetition chain
  | next {chain : Chain} (joint : Joint chain) (part : Derivation chain.part)
      (others : Repetition chain) : Repetition chain
end

mutual
@[simp] def Derivation.tokens {level : Level} : Derivation level → List Token
  | .plain only => only.tokens
  | .conditional condition consequence alternative =>
    condition.tokens ++
      .sign .question :: (consequence.tokens ++ .sign .colon :: alternative.tokens)
  | .chain first others => first.tokens ++ others.tokens
  | .negated operand => .sign .minus :: operand.tokens
  | .unsigned operand => operand.tokens
  | .name name => [.name name]
  | .literal text => [.literal text]
  | .enclosed inner => .sign .opening :: (inner.tokens ++ [.sign .closing])

@[simp] def Repetition.tokens {chain : Chain} : Repetition chain → List Token
  | .done => []
  | .next joint part others => .sign joint.sign :: (part.tokens ++ others.tokens)
end

mutual
def Derivation.expression {level : Level} : Derivation level → Expression
  | .plain only => only.expression
  | .conditional condition consequence alternative =>
    .conditional condition.expression consequence.expression alternative.expression
  | .chain first others => others.onto first.expression
  | .negated operand => .negation operand.expression
  | .unsigned operand => operand.expression
  | .name name => .attributeValue name
  | .literal text => .literal text
  | .enclosed inner => inner.expression

/-- The parts joined to what stands before them, one after another. -/
def Repetition.onto {chain : Chain} (left : Expression) : Repetition chain → Expression
  | .done => left
  | .next joint part others => others.onto (joint.join left part.expression)
end

/-! ### Where an expression ends -/

/-- The looser a level, the more signs continue it. -/
def Level.rank : Level → Nat
  | expression => 4
  | chain .fallback => 3
  | chain .sum => 2
  | chain .product => 1
  | signed => 0
  | operand => 0

/-- The rank of the first level that a sign continues. -/
def Sign.rank : Sign → Nat
  | .question => 4
  | .fallback => 3
  | .plus => 2
  | .minus => 2
  | .times => 1
  | .dividedBy => 1
  | .colon => 5
  | .opening => 5
  | .closing => 5

/-- Tokens that do not continue an expression of a level. -/
def Ends (level : Level) (behind : List Token) : Prop :=
  ∀ sign rest, behind = .sign sign :: rest → level.rank < sign.rank

theorem ends_nil (level : Level) : Ends level [] := by
  intro sign rest same
  cases same

theorem ends_sign {level : Level} {sign : Sign} (looser : level.rank < sign.rank)
    (rest : List Token) : Ends level (.sign sign :: rest) := by
  intro sign rest same
  cases same
  exact looser

theorem not_ends {level : Level} {sign : Sign} {rest : List Token}
    (continues : sign.rank ≤ level.rank) : ¬ Ends level (.sign sign :: rest) :=
  fun ends => Nat.not_lt.mpr continues (ends sign rest rfl)

/-- What ends an expression ends the tighter ones in it. -/
theorem Ends.tighter {level tighter : Level} {behind : List Token} (ends : Ends level behind)
    (below : tighter.rank ≤ level.rank) : Ends tighter behind :=
  fun sign rest same => Nat.lt_of_le_of_lt below (ends sign rest same)

theorem Ends.condition {behind : List Token} (ends : Ends .expression behind) :
    Ends (.chain .fallback) behind := ends.tighter (by decide)

theorem rank_part (chain : Chain) : chain.part.rank < (Level.chain chain).rank := by
  cases chain <;> decide

theorem Joint.rank_sign {chain : Chain} (joint : Joint chain) :
    joint.sign.rank = (Level.chain chain).rank := by
  cases joint <;> rfl

theorem Joint.sign_injective {chain : Chain} {joint other : Joint chain}
    (same : joint.sign = other.sign) : joint = other := by
  cases joint <;> cases other <;> first | rfl | cases same

/-- Behind a part of a chain come the next joint and the end of the chain. -/
theorem Repetition.ends_part {chain : Chain} (others : Repetition chain) {behind : List Token}
    (ends : Ends (.chain chain) behind) : Ends chain.part (others.tokens ++ behind) := by
  cases others with
  | done => exact ends.tighter (Nat.le_of_lt (rank_part chain))
  | next joint part others =>
    rw [Repetition.tokens, List.cons_append]
    apply ends_sign
    rw [joint.rank_sign]
    exact rank_part chain

/-- An operand does not begin with a minus sign. -/
theorem Derivation.tokens_operand_ne (operand : Derivation .operand) (behind rest : List Token) :
    operand.tokens ++ behind ≠ .sign .minus :: rest := by
  intro same
  cases operand <;> cases same

theorem Derivation.tokens_ne_nil {level : Level} (derivation : Derivation level) :
    derivation.tokens ≠ [] := by
  match derivation with
  | .plain only => simpa using only.tokens_ne_nil
  | .conditional condition consequence alternative => simp
  | .chain first others => simp [first.tokens_ne_nil]
  | .negated operand => simp
  | .unsigned operand => simpa using operand.tokens_ne_nil
  | .name _ => simp
  | .literal _ => simp
  | .enclosed inner => simp

/-! ### One derivation -/

mutual
/-- Derivations that write the same tokens, up to where both end, are the same. -/
theorem Derivation.eq_of_append_eq {level : Level} (left right : Derivation level)
    {behind behind' : List Token} (ends : Ends level behind) (ends' : Ends level behind')
    (same : left.tokens ++ behind = right.tokens ++ behind') :
    left = right ∧ behind = behind' := by
  match left, right with
  | .plain only, .plain other =>
    simp only [Derivation.tokens] at same
    obtain ⟨rfl, rfl⟩ := only.eq_of_append_eq other ends.condition ends'.condition same
    exact ⟨rfl, rfl⟩
  | .plain only, .conditional condition _ _ =>
    -- Behind the plain one would stand a question mark, which continues it.
    simp only [Derivation.tokens, List.append_assoc] at same
    obtain ⟨_, rfl⟩ := only.eq_of_append_eq condition ends.condition
      (ends_sign (by decide) _) same
    exact absurd ends (not_ends (by decide))
  | .conditional condition _ _, .plain other =>
    simp only [Derivation.tokens, List.append_assoc] at same
    obtain ⟨_, rfl⟩ := condition.eq_of_append_eq other (ends_sign (by decide) _)
      ends'.condition same
    exact absurd ends' (not_ends (by decide))
  | .conditional condition consequence alternative,
      .conditional condition' consequence' alternative' =>
    simp only [Derivation.tokens, List.append_assoc, List.cons_append] at same
    obtain ⟨rfl, asked⟩ := condition.eq_of_append_eq condition' (ends_sign (by decide) _)
      (ends_sign (by decide) _) same
    obtain ⟨rfl, parted⟩ := consequence.eq_of_append_eq consequence' (ends_sign (by decide) _)
      (ends_sign (by decide) _) (List.cons.inj asked).2
    obtain ⟨rfl, rfl⟩ := alternative.eq_of_append_eq alternative' ends ends'
      (List.cons.inj parted).2
    exact ⟨rfl, rfl⟩
  | .chain first others, .chain first' others' =>
    simp only [Derivation.tokens, List.append_assoc] at same
    obtain ⟨rfl, further⟩ := first.eq_of_append_eq first' (others.ends_part ends)
      (others'.ends_part ends') same
    obtain ⟨rfl, rfl⟩ := others.eq_of_append_eq others' ends ends' further
    exact ⟨rfl, rfl⟩
  | .negated operand, .negated operand' =>
    simp only [Derivation.tokens] at same
    obtain ⟨rfl, rfl⟩ := operand.eq_of_append_eq operand' ends ends' (List.cons.inj same).2
    exact ⟨rfl, rfl⟩
  | .negated operand, .unsigned other =>
    simp only [Derivation.tokens] at same
    exact absurd same.symm (other.tokens_operand_ne _ _)
  | .unsigned operand, .negated other =>
    simp only [Derivation.tokens] at same
    exact absurd same (operand.tokens_operand_ne _ _)
  | .unsigned operand, .unsigned operand' =>
    simp only [Derivation.tokens] at same
    obtain ⟨rfl, rfl⟩ := operand.eq_of_append_eq operand' ends ends' same
    exact ⟨rfl, rfl⟩
  | .name _, .name _ =>
    cases same
    exact ⟨rfl, rfl⟩
  | .literal _, .literal _ =>
    cases same
    exact ⟨rfl, rfl⟩
  | .enclosed inner, .enclosed inner' =>
    simp only [Derivation.tokens, List.cons_append, List.append_assoc] at same
    obtain ⟨rfl, closed⟩ := inner.eq_of_append_eq inner' (ends_sign (by decide) _)
      (ends_sign (by decide) _) (List.cons.inj same).2
    exact ⟨rfl, (List.cons.inj closed).2⟩

theorem Repetition.eq_of_append_eq {chain : Chain} (left right : Repetition chain)
    {behind behind' : List Token} (ends : Ends (.chain chain) behind)
    (ends' : Ends (.chain chain) behind')
    (same : left.tokens ++ behind = right.tokens ++ behind') :
    left = right ∧ behind = behind' := by
  match left, right with
  | .done, .done => exact ⟨rfl, same⟩
  | .done, .next joint _ _ =>
    -- The chain that is done would be followed by a joint, which continues it.
    simp only [Repetition.tokens, List.nil_append, List.cons_append] at same
    rw [same] at ends
    exact absurd ends (not_ends (Nat.le_of_eq joint.rank_sign))
  | .next joint _ _, .done =>
    simp only [Repetition.tokens, List.nil_append, List.cons_append] at same
    rw [← same] at ends'
    exact absurd ends' (not_ends (Nat.le_of_eq joint.rank_sign))
  | .next joint part others, .next joint' part' others' =>
    simp only [Repetition.tokens, List.cons_append, List.append_assoc] at same
    obtain ⟨sameSign, further⟩ := List.cons.inj same
    obtain rfl := Joint.sign_injective (Token.sign.inj sameSign)
    obtain ⟨rfl, later⟩ := part.eq_of_append_eq part' (others.ends_part ends)
      (others'.ends_part ends') further
    obtain ⟨rfl, rfl⟩ := others.eq_of_append_eq others' ends ends' later
    exact ⟨rfl, rfl⟩
end

/-- Tokens have at most one derivation. -/
theorem Derivation.tokens_injective {level : Level} {left right : Derivation level}
    (same : left.tokens = right.tokens) : left = right :=
  (left.eq_of_append_eq right (ends_nil level) (ends_nil level) (by rw [same])).1

end SceneMarkup.Expression
