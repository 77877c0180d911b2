import SceneMarkup.Expression.Grammar
import SceneMarkup.Proofs.Expression.Derivation

/-!
Contract: the reader of tokens finds the derivation.

Owns:
- `read`, what the reader of a level gives and leaves, without the bound on the tokens left;
- one law per level, which says what its reader takes;
- what is read has a derivation, and every derivation is read.

Does not own: which fault is reported where there is no derivation.
-/

namespace SceneMarkup.Expression

/-! ### Readers -/

/-- What a reader gives, with the tokens that it leaves. -/
def found? {bound : List Token → Prop}
    (result : Except Fault (Expression × { rest // bound rest })) :
    Option (Expression × List Token) :=
  match result with
  | .ok (expression, rest) => some (expression, rest)
  | .error _ => none

def read? : Level → List Token → Option (Expression × List Token)
  | .expression, tokens => found? (readExpression tokens)
  | .chain .fallback, tokens => found? (readFallback tokens)
  | .chain .sum, tokens => found? (readSum tokens)
  | .chain .product, tokens => found? (readProduct tokens)
  | .signed, tokens => found? (readSigned tokens)
  | .operand, tokens => found? (readOperand tokens)

/-- The same for the readers of what follows the first part of a chain. -/
def readOthers? : Chain → Expression → List Token → Option (Expression × List Token)
  | .fallback, left, tokens => found? (readFallbackTail left tokens)
  | .sum, left, tokens => found? (readSumTail left tokens)
  | .product, left, tokens => found? (readProductTail left tokens)

/-- What follows the condition of a conditional. -/
def readBranches? (condition : Expression) (tokens : List Token) :
    Option (Expression × List Token) :=
  (read? .expression tokens).bind fun consequence =>
    match consequence.2 with
    | .sign .colon :: afterColon =>
      (read? .expression afterColon).map fun alternative =>
        (.conditional condition consequence.1 alternative.1, alternative.2)
    | _ => none

section Laws

variable (tokens rest : List Token) (left : Expression)

theorem read?_expression :
    read? .expression tokens = (read? (.chain .fallback) tokens).bind fun condition =>
      match condition.2 with
      | .sign .question :: afterQuestion => readBranches? condition.1 afterQuestion
      | _ => some condition := by
  rw [read?, readExpression, read?]
  cases readFallback tokens with
  | error fault => rfl
  | ok first =>
    obtain ⟨condition, behind, shorter⟩ := first
    dsimp only [found?, Option.bind_some]
    cases behind with
    | nil => rfl
    | cons token afterToken =>
      cases token with
      | name _ => rfl
      | literal _ => rfl
      | sign sign =>
        cases sign with
        | question =>
          dsimp only [readBranches?, read?]
          cases readExpression afterToken with
          | error fault => rfl
          | ok second =>
            obtain ⟨consequence, behind, shorter⟩ := second
            dsimp only [found?, Option.bind_some]
            cases behind with
            | nil => rfl
            | cons token afterToken =>
              cases token with
              | name _ => rfl
              | literal _ => rfl
              | sign sign =>
                cases sign with
                | colon =>
                  dsimp only
                  cases readExpression afterToken <;> rfl
                | _ => rfl
        | _ => rfl

/-- A reader of one part, and then a reader of the others onto it. -/
theorem found?_then {tokens : List Token} {bound : List Token → Prop}
    (shorten : ∀ behind rest : List Token, behind.length < tokens.length →
      rest.length ≤ behind.length → bound rest)
    (part : Except Fault (Expression × Behind tokens))
    (others : Expression → (behind : List Token) → Except Fault (Expression × BehindTail behind)) :
    @found? bound (match part with
      | .error fault => .error fault
      | .ok (expression, ⟨behind, shorter⟩) =>
        match others expression behind with
        | .error fault => .error fault
        | .ok (whole, ⟨rest, notLonger⟩) =>
          .ok (whole, ⟨rest, shorten behind rest shorter notLonger⟩)) =
      (found? part).bind fun read => found? (others read.1 read.2) := by
  cases part with
  | error fault => rfl
  | ok read =>
    obtain ⟨expression, behind, shorter⟩ := read
    dsimp only [found?, Option.bind_some]
    cases others expression behind <;> rfl

theorem read?_chain (chain : Chain) :
    read? (.chain chain) tokens =
      (read? chain.part tokens).bind fun first => readOthers? chain first.1 first.2 := by
  cases chain with
  | fallback =>
    rw [read?, readFallback]
    exact found?_then _ (readSum tokens) readFallbackTail
  | sum =>
    rw [read?, readSum]
    exact found?_then _ (readProduct tokens) readSumTail
  | product =>
    rw [read?, readProduct]
    exact found?_then _ (readSigned tokens) readProductTail

theorem readOthers?_joint {chain : Chain} (joint : Joint chain) :
    readOthers? chain left (.sign joint.sign :: rest) =
      (read? chain.part rest).bind fun right =>
        readOthers? chain (joint.join left right.1) right.2 := by
  cases joint with
  | fallback =>
    rw [readOthers?, Joint.sign, readFallbackTail]
    exact found?_then _ (readSum rest) fun right => readFallbackTail (.fallback left right)
  | plus =>
    rw [readOthers?, Joint.sign, readSumTail]
    exact found?_then _ (readProduct rest) fun right => readSumTail (.arithmetic .plus left right)
  | minus =>
    rw [readOthers?, Joint.sign, readSumTail]
    exact found?_then _ (readProduct rest) fun right => readSumTail (.arithmetic .minus left right)
  | times =>
    rw [readOthers?, Joint.sign, readProductTail]
    exact found?_then _ (readSigned rest) fun right =>
      readProductTail (.arithmetic .times left right)
  | dividedBy =>
    rw [readOthers?, Joint.sign, readProductTail]
    exact found?_then _ (readSigned rest) fun right =>
      readProductTail (.arithmetic .dividedBy left right)

/-- A chain ends before anything but a joint. -/
theorem readOthers?_end {chain : Chain}
    (last : ∀ (joint : Joint chain) (rest : List Token), tokens ≠ .sign joint.sign :: rest) :
    readOthers? chain left tokens = some (left, tokens) := by
  cases chain with
  | fallback =>
    rw [readOthers?, readFallbackTail]
    · rfl
    · exact last .fallback
  | sum =>
    rw [readOthers?, readSumTail.eq_def]
    split
    · rename_i sign rest
      have other : sumOperator? sign = none := by
        cases sign with
        | plus => exact absurd rfl (last .plus rest)
        | minus => exact absurd rfl (last .minus rest)
        | _ => rfl
      rw [other]
      rfl
    · rfl
  | product =>
    rw [readOthers?, readProductTail.eq_def]
    split
    · rename_i sign rest
      have other : productOperator? sign = none := by
        cases sign with
        | times => exact absurd rfl (last .times rest)
        | dividedBy => exact absurd rfl (last .dividedBy rest)
        | _ => rfl
      rw [other]
      rfl
    · rfl

theorem read?_signed_minus :
    read? .signed (.sign .minus :: rest) =
      (read? .signed rest).map fun operand => (.negation operand.1, operand.2) := by
  rw [read?, readSigned, read?]
  cases readSigned rest <;> rfl

theorem read?_signed (unsigned : ∀ rest : List Token, tokens ≠ .sign .minus :: rest) :
    read? .signed tokens = read? .operand tokens := by
  rw [read?, readSigned, read?]
  exact fun rest => unsigned rest

theorem read?_operand :
    read? .operand tokens =
      match tokens with
      | .name name :: rest => some (.attributeValue name, rest)
      | .literal text :: rest => some (.literal text, rest)
      | .sign .opening :: rest =>
        (read? .expression rest).bind fun inner =>
          match inner.2 with
          | .sign .closing :: behind => some (inner.1, behind)
          | _ => none
      | _ => none := by
  rw [read?, readOperand.eq_def]
  cases tokens with
  | nil => rfl
  | cons token rest =>
    cases token with
    | name _ => rfl
    | literal _ => rfl
    | sign sign =>
      cases sign with
      | opening =>
        dsimp only [read?]
        cases readExpression rest with
        | error fault => rfl
        | ok read =>
          obtain ⟨inner, behind, shorter⟩ := read
          dsimp only [found?, Option.bind_some]
          cases behind with
          | nil => rfl
          | cons token behind =>
            cases token with
            | name _ => rfl
            | literal _ => rfl
            | sign sign => cases sign <;> rfl
      | _ => rfl

end Laws

/-! ### Derivations are read -/

mutual
/-- The reader of a level takes a derivation, up to what ends it. -/
theorem Derivation.read?_tokens {level : Level} (derivation : Derivation level)
    {behind : List Token} (ends : Ends level behind) :
    read? level (derivation.tokens ++ behind) = some (derivation.expression, behind) := by
  match derivation with
  | .plain only =>
    rw [Derivation.tokens, read?_expression, only.read?_tokens ends.condition, Option.bind_some]
    dsimp only
    split
    · exact absurd ends (not_ends (by decide))
    · rfl
  | .conditional condition consequence alternative =>
    rw [Derivation.tokens, List.append_assoc, List.cons_append, List.append_assoc,
      List.cons_append, read?_expression, condition.read?_tokens (ends_sign (by decide) _),
      Option.bind_some]
    dsimp only
    rw [readBranches?, consequence.read?_tokens (ends_sign (by decide) _), Option.bind_some]
    dsimp only
    rw [alternative.read?_tokens ends]
    rfl
  | .chain first others =>
    rw [Derivation.tokens, List.append_assoc, read?_chain,
      first.read?_tokens (others.ends_part ends), Option.bind_some]
    exact others.readOthers?_tokens first.expression ends
  | .negated operand =>
    rw [Derivation.tokens, List.cons_append, read?_signed_minus, operand.read?_tokens ends]
    rfl
  | .unsigned operand =>
    rw [Derivation.tokens, read?_signed _ (operand.tokens_operand_ne behind)]
    exact operand.read?_tokens ends
  | .name _ => exact read?_operand _
  | .literal _ => exact read?_operand _
  | .enclosed inner =>
    rw [Derivation.tokens, List.cons_append, List.append_assoc, List.singleton_append,
      read?_operand]
    dsimp only
    rw [inner.read?_tokens (ends_sign (by decide) _)]
    rfl

theorem Repetition.readOthers?_tokens {chain : Chain} (others : Repetition chain)
    (left : Expression) {behind : List Token} (ends : Ends (.chain chain) behind) :
    readOthers? chain left (others.tokens ++ behind) = some (others.onto left, behind) := by
  match others with
  | .done =>
    rw [Repetition.tokens, List.nil_append, Repetition.onto]
    apply readOthers?_end
    rintro joint rest rfl
    exact not_ends (Nat.le_of_eq joint.rank_sign) ends
  | .next joint part others =>
    rw [Repetition.tokens, List.cons_append, List.append_assoc, readOthers?_joint,
      part.read?_tokens (others.ends_part ends), Option.bind_some]
    exact others.readOthers?_tokens (joint.join left part.expression) ends
end

/-! ### What is read has a derivation -/

/-- Whatever the reader of a level takes from these tokens has a derivation. -/
def Justified (level : Level) (tokens : List Token) : Prop :=
  ∀ expression rest, read? level tokens = some (expression, rest) →
    ∃ derivation : Derivation level,
      tokens = derivation.tokens ++ rest ∧ derivation.expression = expression

def JustifiedBelow (level : Level) (tokens : List Token) : Prop :=
  ∀ shorter, shorter.length < tokens.length → Justified level shorter

theorem JustifiedBelow.of_length_le {level : Level} {tokens behind : List Token}
    (below : JustifiedBelow level tokens) (notLonger : behind.length ≤ tokens.length) :
    JustifiedBelow level behind :=
  fun shorter less => below shorter (Nat.lt_of_lt_of_le less notLonger)

theorem Derivation.length_lt {level : Level} (derivation : Derivation level)
    (behind : List Token) : behind.length < (derivation.tokens ++ behind).length := by
  have := List.length_pos_iff.mpr derivation.tokens_ne_nil
  rw [List.length_append]
  omega

section Justified

variable {tokens rest : List Token} {expression : Expression}

theorem justified_expression (first : Justified (.chain .fallback) tokens)
    (below : JustifiedBelow .expression tokens) : Justified .expression tokens := by
  intro expression rest found
  rw [read?_expression] at found
  obtain ⟨⟨_, behind⟩, read, further⟩ := Option.bind_eq_some_iff.mp found
  obtain ⟨condition, rfl, rfl⟩ := first _ _ read
  dsimp only at further
  split at further
  · rename_i afterQuestion
    obtain ⟨⟨_, behind⟩, read, branched⟩ := Option.bind_eq_some_iff.mp further
    have shorter := condition.length_lt (.sign .question :: afterQuestion)
    rw [List.length_cons] at shorter
    obtain ⟨consequence, rfl, rfl⟩ := below _ (Nat.lt_of_succ_lt shorter) _ _ read
    dsimp only at branched
    split at branched
    · rename_i afterColon _
      obtain ⟨⟨_, behind⟩, read, same⟩ := Option.map_eq_some_iff.mp branched
      have shorterStill := consequence.length_lt (.sign .colon :: afterColon)
      rw [List.length_cons] at shorterStill
      obtain ⟨alternative, rfl, rfl⟩ := below _ (by omega) _ _ read
      cases same
      refine ⟨.conditional condition consequence alternative, ?_, rfl⟩
      simp
    · cases branched
  · cases further
    exact ⟨.plain condition, rfl, rfl⟩

theorem exists_repetition {chain : Chain} (below : JustifiedBelow chain.part tokens)
    {left : Expression} (found : readOthers? chain left tokens = some (expression, rest)) :
    ∃ others : Repetition chain,
      tokens = others.tokens ++ rest ∧ others.onto left = expression := by
  induction length : tokens.length using Nat.strongRecOn generalizing tokens left with
  | _ length inductionHypothesis =>
    by_cases further : ∃ (joint : Joint chain) (behind : List Token),
        tokens = .sign joint.sign :: behind
    · -- The part behind a joint is joined to the left operand, onto which the others are read.
      obtain ⟨joint, behind, rfl⟩ := further
      rw [readOthers?_joint] at found
      obtain ⟨⟨_, later⟩, read, found⟩ := Option.bind_eq_some_iff.mp found
      obtain ⟨part, rfl, rfl⟩ := below _ (Nat.lt_succ_self _) _ _ read
      have shorter := Nat.lt_succ_of_lt (part.length_lt later)
      obtain ⟨others, rfl, rfl⟩ := inductionHypothesis later.length (by rwa [← length])
        (below.of_length_le (Nat.le_of_lt shorter)) found rfl
      refine ⟨.next joint part others, ?_, rfl⟩
      rw [Repetition.tokens, List.cons_append, List.append_assoc]
    · have last : ∀ (joint : Joint chain) (rest : List Token), tokens ≠ .sign joint.sign :: rest :=
        fun joint rest same => further ⟨joint, rest, same⟩
      rw [readOthers?_end _ _ last] at found
      cases found
      exact ⟨.done, rfl, rfl⟩

theorem justified_chain {chain : Chain} (first : Justified chain.part tokens)
    (below : JustifiedBelow chain.part tokens) : Justified (.chain chain) tokens := by
  intro expression rest found
  rw [read?_chain] at found
  obtain ⟨⟨_, behind⟩, read, further⟩ := Option.bind_eq_some_iff.mp found
  obtain ⟨part, rfl, rfl⟩ := first _ _ read
  have shorter := part.length_lt behind
  obtain ⟨others, rfl, rfl⟩ := exists_repetition (below.of_length_le (Nat.le_of_lt shorter)) further
  refine ⟨.chain part others, ?_, rfl⟩
  rw [Derivation.tokens, List.append_assoc]

theorem justified_operand (below : JustifiedBelow .expression tokens) :
    Justified .operand tokens := by
  intro expression rest found
  rw [read?_operand] at found
  split at found
  · rename_i name _
    cases found
    exact ⟨.name name, rfl, rfl⟩
  · rename_i text _
    cases found
    exact ⟨.literal text, rfl, rfl⟩
  · obtain ⟨⟨_, behind⟩, read, closed⟩ := Option.bind_eq_some_iff.mp found
    obtain ⟨inner, rfl, rfl⟩ := below _ (Nat.lt_succ_self _) _ _ read
    dsimp only at closed
    split at closed
    · cases closed
      refine ⟨.enclosed inner, ?_, rfl⟩
      simp
    · cases closed
  · cases found

theorem justified_signed (operand : Justified .operand tokens)
    (below : JustifiedBelow .signed tokens) : Justified .signed tokens := by
  intro expression rest found
  by_cases negative : ∃ rest, tokens = .sign .minus :: rest
  · obtain ⟨behind, rfl⟩ := negative
    rw [read?_signed_minus] at found
    obtain ⟨⟨_, rest⟩, read, same⟩ := Option.map_eq_some_iff.mp found
    obtain ⟨negated, rfl, rfl⟩ := below _ (Nat.lt_succ_self _) _ _ read
    cases same
    exact ⟨.negated negated, rfl, rfl⟩
  · rw [read?_signed _ fun rest same => negative ⟨rest, same⟩] at found
    obtain ⟨unsigned, rfl, rfl⟩ := operand _ _ found
    exact ⟨.unsigned unsigned, rfl, rfl⟩

/-- From the deepest level up, over longer and longer tokens. -/
theorem justified (level : Level) (tokens : List Token) : Justified level tokens := by
  induction length : tokens.length using Nat.strongRecOn generalizing level tokens with
  | _ length inductionHypothesis =>
    have below (level : Level) : JustifiedBelow level tokens := fun shorter less =>
      inductionHypothesis shorter.length (by rwa [← length]) level shorter rfl
    -- On the same tokens a level only calls the next deeper one.
    have operand := justified_operand (below _)
    have signed := justified_signed operand (below _)
    have product := @justified_chain tokens .product signed (below _)
    have sum := @justified_chain tokens .sum product (below _)
    have fallback := @justified_chain tokens .fallback sum (below _)
    match level with
    | .expression => exact justified_expression fallback (below _)
    | .chain .fallback => exact fallback
    | .chain .sum => exact sum
    | .chain .product => exact product
    | .signed => exact signed
    | .operand => exact operand

end Justified

/-! ### All tokens -/

theorem ofTokens_eq_ok_iff_read? {tokens : List Token} {expression : Expression} :
    ofTokens tokens = .ok expression ↔ read? .expression tokens = some (expression, []) := by
  rw [ofTokens, read?]
  cases readExpression tokens with
  | error fault => simp [found?]
  | ok read =>
    obtain ⟨other, rest, shorter⟩ := read
    cases rest <;> simp [found?]

/-- All tokens together make an expression exactly when it has a derivation. -/
theorem ofTokens_eq_ok_iff {tokens : List Token} {expression : Expression} :
    ofTokens tokens = .ok expression ↔
      ∃ derivation : Derivation .expression,
        derivation.tokens = tokens ∧ derivation.expression = expression := by
  rw [ofTokens_eq_ok_iff_read?]
  constructor
  · intro found
    obtain ⟨derivation, split, same⟩ := justified .expression tokens expression [] found
    rw [List.append_nil] at split
    exact ⟨derivation, split.symm, same⟩
  · rintro ⟨derivation, rfl, rfl⟩
    have read := derivation.read?_tokens (ends_nil .expression)
    rwa [List.append_nil] at read

end SceneMarkup.Expression
