import SceneMarkup.Expression.Basic
import SceneMarkup.Expression.Token

/-!
Contract: the grammar of expressions.

Owns:
- the precedence of the signs, from conditionals down to single operands;
- `parse`, the expression of a row of tokens, or the reason why there is none.

Does not own: what expressions stand for.

The levels are, from the loosest: a conditional, whose parts after the question mark are
expressions again; fallbacks, sums and products, which group to the left; negations; and names,
literals and expressions in parentheses.
-/

namespace SceneMarkup.Expression

/-- Why tokens make no expression. -/
inductive Fault where
  | unrecognised
  | empty
  | colonExpected
  | endOfExpression
  | parenthesisExpected
  | operandExpected
  | trailing
deriving DecidableEq, Repr

def Fault.message : Fault → String
  | unrecognised => "unrecognized character"
  | empty => "empty expression"
  | colonExpected => "expected ':' in conditional"
  | endOfExpression => "unexpected end of expression"
  | parenthesisExpected => "expected ')'"
  | operandExpected => "expected a value"
  | trailing => "unexpected trailing input"

/-- The tokens behind an expression, which takes at least one. -/
abbrev Behind (tokens : List Token) := { rest : List Token // rest.length < tokens.length }

/-- The tokens behind what continues an expression, which may take none. -/
abbrev BehindTail (tokens : List Token) := { rest : List Token // rest.length ≤ tokens.length }

def sumOperator? : Sign → Option Operator
  | .plus => some .plus
  | .minus => some .minus
  | _ => none

def productOperator? : Sign → Option Operator
  | .times => some .times
  | .dividedBy => some .dividedBy
  | _ => none

mutual
/-- A fallback chain, or a conditional on it. -/
def readExpression (tokens : List Token) : Except Fault (Expression × Behind tokens) :=
  match readFallback tokens with
  | .error fault => .error fault
  | .ok (condition, ⟨.sign .question :: afterQuestion, shorter⟩) =>
    match readExpression afterQuestion with
    | .error fault => .error fault
    | .ok (consequence, ⟨.sign .colon :: afterColon, shorterThen⟩) =>
      match readExpression afterColon with
      | .error fault => .error fault
      | .ok (alternative, ⟨rest, shorterElse⟩) =>
        .ok (.conditional condition consequence alternative,
          ⟨rest, by simp only [List.length_cons] at *; omega⟩)
    | .ok _ => .error .colonExpected
  | .ok (expression, rest) => .ok (expression, rest)
termination_by (tokens.length, 5)
decreasing_by
  · exact Prod.Lex.right _ (by decide)
  · exact Prod.Lex.left _ _ (by simp only [List.length_cons] at *; omega)
  · exact Prod.Lex.left _ _ (by simp only [List.length_cons] at *; omega)

/-- Sums with fallback signs between them. -/
def readFallback (tokens : List Token) : Except Fault (Expression × Behind tokens) :=
  match readSum tokens with
  | .error fault => .error fault
  | .ok (first, ⟨behind, shorter⟩) =>
    match readFallbackTail first behind with
    | .error fault => .error fault
    | .ok (expression, ⟨rest, notLonger⟩) => .ok (expression, ⟨rest, by omega⟩)
termination_by (tokens.length, 4)
decreasing_by
  · exact Prod.Lex.right _ (by decide)
  · exact Prod.Lex.left _ _ shorter

/-- Further sums behind fallback signs, onto a left operand. -/
def readFallbackTail (left : Expression) (tokens : List Token) :
    Except Fault (Expression × BehindTail tokens) :=
  match tokens with
  | .sign .fallback :: rest =>
    match readSum rest with
    | .error fault => .error fault
    | .ok (right, ⟨behind, shorter⟩) =>
      match readFallbackTail (.fallback left right) behind with
      | .error fault => .error fault
      | .ok (expression, ⟨rest', notLonger⟩) =>
        .ok (expression, ⟨rest', by simp only [List.length_cons]; omega⟩)
  | tokens => .ok (left, ⟨tokens, Nat.le_refl _⟩)
termination_by (tokens.length, 4)
decreasing_by
  · exact Prod.Lex.left _ _ (by simp)
  · exact Prod.Lex.left _ _ (by simp only [List.length_cons]; omega)

/-- Products with plus and minus signs between them. -/
def readSum (tokens : List Token) : Except Fault (Expression × Behind tokens) :=
  match readProduct tokens with
  | .error fault => .error fault
  | .ok (first, ⟨behind, shorter⟩) =>
    match readSumTail first behind with
    | .error fault => .error fault
    | .ok (expression, ⟨rest, notLonger⟩) => .ok (expression, ⟨rest, by omega⟩)
termination_by (tokens.length, 3)
decreasing_by
  · exact Prod.Lex.right _ (by decide)
  · exact Prod.Lex.left _ _ shorter

/-- Further products behind plus and minus signs, onto a left operand. -/
def readSumTail (left : Expression) (tokens : List Token) :
    Except Fault (Expression × BehindTail tokens) :=
  match tokens with
  | .sign sign :: rest =>
    match sumOperator? sign with
    | none => .ok (left, ⟨.sign sign :: rest, Nat.le_refl _⟩)
    | some operator =>
      match readProduct rest with
      | .error fault => .error fault
      | .ok (right, ⟨behind, shorter⟩) =>
        match readSumTail (.arithmetic operator left right) behind with
        | .error fault => .error fault
        | .ok (expression, ⟨rest', notLonger⟩) =>
          .ok (expression, ⟨rest', by simp only [List.length_cons]; omega⟩)
  | tokens => .ok (left, ⟨tokens, Nat.le_refl _⟩)
termination_by (tokens.length, 3)
decreasing_by
  · exact Prod.Lex.left _ _ (by simp)
  · exact Prod.Lex.left _ _ (by simp only [List.length_cons]; omega)

/-- Signed operands with times and division signs between them. -/
def readProduct (tokens : List Token) : Except Fault (Expression × Behind tokens) :=
  match readSigned tokens with
  | .error fault => .error fault
  | .ok (first, ⟨behind, shorter⟩) =>
    match readProductTail first behind with
    | .error fault => .error fault
    | .ok (expression, ⟨rest, notLonger⟩) => .ok (expression, ⟨rest, by omega⟩)
termination_by (tokens.length, 2)
decreasing_by
  · exact Prod.Lex.right _ (by decide)
  · exact Prod.Lex.left _ _ shorter

/-- Further signed operands behind times and division signs, onto a left operand. -/
def readProductTail (left : Expression) (tokens : List Token) :
    Except Fault (Expression × BehindTail tokens) :=
  match tokens with
  | .sign sign :: rest =>
    match productOperator? sign with
    | none => .ok (left, ⟨.sign sign :: rest, Nat.le_refl _⟩)
    | some operator =>
      match readSigned rest with
      | .error fault => .error fault
      | .ok (right, ⟨behind, shorter⟩) =>
        match readProductTail (.arithmetic operator left right) behind with
        | .error fault => .error fault
        | .ok (expression, ⟨rest', notLonger⟩) =>
          .ok (expression, ⟨rest', by simp only [List.length_cons]; omega⟩)
  | tokens => .ok (left, ⟨tokens, Nat.le_refl _⟩)
termination_by (tokens.length, 2)
decreasing_by
  · exact Prod.Lex.left _ _ (by simp)
  · exact Prod.Lex.left _ _ (by simp only [List.length_cons]; omega)

/-- An operand behind any number of minus signs. -/
def readSigned (tokens : List Token) : Except Fault (Expression × Behind tokens) :=
  match tokens with
  | .sign .minus :: rest =>
    match readSigned rest with
    | .error fault => .error fault
    | .ok (operand, ⟨behind, shorter⟩) =>
      .ok (.negation operand, ⟨behind, by simp only [List.length_cons]; omega⟩)
  | tokens => readOperand tokens
termination_by (tokens.length, 1)
decreasing_by
  · exact Prod.Lex.left _ _ (by simp)
  · exact Prod.Lex.right _ (by decide)

/-- A name, a literal, or an expression in parentheses. -/
def readOperand (tokens : List Token) : Except Fault (Expression × Behind tokens) :=
  match tokens with
  | [] => .error .endOfExpression
  | .name name :: rest => .ok (.attributeValue name, ⟨rest, by simp⟩)
  | .literal text :: rest => .ok (.literal text, ⟨rest, by simp⟩)
  | .sign .opening :: rest =>
    match readExpression rest with
    | .error fault => .error fault
    | .ok (inner, ⟨.sign .closing :: behind, shorter⟩) =>
      .ok (inner, ⟨behind, by simp only [List.length_cons] at *; omega⟩)
    | .ok _ => .error .parenthesisExpected
  | _ => .error .operandExpected
termination_by (tokens.length, 0)
decreasing_by exact Prod.Lex.left _ _ (by simp)
end

/-- The expression that all tokens together make. -/
def ofTokens (tokens : List Token) : Except Fault Expression :=
  match readExpression tokens with
  | .error fault => .error fault
  | .ok (expression, ⟨[], _⟩) => .ok expression
  | .ok _ => .error .trailing

/-- The expression of a text. -/
def parse (text : List Char) : Except Fault Expression :=
  match tokens? text with
  | none => .error .unrecognised
  | some [] => .error .empty
  | some tokens => ofTokens tokens

end SceneMarkup.Expression
