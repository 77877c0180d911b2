import SceneMarkup.Attribute.Basic
import SceneMarkup.Number.Reading
import SceneMarkup.Text.Blank

/-!
Contract: placeholder expressions and their values.

Owns:
- `Expression`, the tree of an expression;
- whole numbers of 64 bits in text, and arithmetic on them;
- `Expression.value`, what an expression stands for given some attributes.

Does not own: the written form of expressions.
-/

namespace SceneMarkup

open SceneMarkup.Text

inductive Operator where
  | plus
  | minus
  | times
  | dividedBy
deriving DecidableEq, Repr

/-- An expression over attributes. -/
inductive Expression where
  | attributeValue (name : String)
  | literal (text : String)
  | negation (operand : Expression)
  | arithmetic (operator : Operator) (left right : Expression)
  /-- The left operand, or the right one where the left is missing or empty. -/
  | fallback (left right : Expression)
  | conditional (condition consequence alternative : Expression)
deriving DecidableEq, Repr

/-- Whether a value counts as true: it is the word `true`, up to ASCII case and surrounding
blanks. -/
def isTruthy (value : Option String) : Bool :=
  value.any fun text => sameWord (trimmed text) "true"

namespace Operand

/-- Whether a whole number fits 64 bits. -/
def fits (number : Int) : Bool := -0x8000000000000000 ≤ number && number < 0x8000000000000000

/-- Digits after an optional sign, as a whole number of any size. -/
def unbounded? (text : List Char) : Option Int :=
  let (negative, digits) := Number.Reading.signOf text
  if digits.isEmpty || !digits.all Number.isDigit then none
  else
    let size : Int := Number.readDigits 0 digits
    some (if negative then -size else size)

/-- The whole number that a value stands for, if it is one and fits 64 bits; blanks may surround
it. -/
def read? (value : Option String) : Option Int :=
  value.bind fun text => (unbounded? (trim text.toList)).filter fits

end Operand

namespace Operator

/-- The exact result of an operation; a division cuts off its fraction, and by zero has no
result. -/
def result? : Operator → Int → Int → Option Int
  | plus, left, right => some (left + right)
  | minus, left, right => some (left - right)
  | times, left, right => some (left * right)
  | dividedBy, left, right => if right = 0 then none else some (left.tdiv right)

/-- The result of an operation on values as text: zero where an operand is no number or the result
does not fit. -/
def apply (operator : Operator) (left right : Option String) : String :=
  match Operand.read? left, Operand.read? right with
  | some left, some right =>
    toString (((operator.result? left right).filter Operand.fits).getD 0)
  | _, _ => "0"

end Operator

namespace Expression

/-- What an expression stands for; an attribute that is missing has no value. -/
def value (attributes : Attributes) : Expression → Option String
  | attributeValue name => attributes.value? name
  | literal text => some text
  | negation operand => some (Operator.minus.apply (some "0") (operand.value attributes))
  | arithmetic operator left right =>
    some (operator.apply (left.value attributes) (right.value attributes))
  | fallback left right =>
    match left.value attributes with
    | none => right.value attributes
    | some text => if text = "" then right.value attributes else some text
  | conditional condition consequence alternative =>
    if isTruthy (condition.value attributes) then consequence.value attributes
    else alternative.value attributes

end Expression

end SceneMarkup
