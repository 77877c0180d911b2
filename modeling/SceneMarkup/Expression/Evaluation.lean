import SceneMarkup.Expression.Grammar

/-!
Contract: the text a placeholder stands for.

Owns:
- `evaluate`, from the text of an expression and some attributes to a value;
- why a placeholder has no value, with messages.

Does not own: where placeholders occur.
-/

namespace SceneMarkup

open SceneMarkup.Text

/-- Why a placeholder has no value. -/
inductive PlaceholderError where
  | malformed (expression : String) (fault : Expression.Fault)
  | unresolved (expression : String)
deriving DecidableEq, Repr

def PlaceholderError.message : PlaceholderError → String
  | malformed expression fault =>
    "cannot parse placeholder \x7b" ++ expression ++ "\x7d: " ++ fault.message
  | unresolved expression => "placeholder \x7b" ++ expression ++ "\x7d has no value"

/-- The value of the expression that a text writes. -/
def Expression.evaluate (text : String) (attributes : Attributes) :
    Except PlaceholderError String :=
  match Expression.parse text.toList with
  | .error fault => .error (.malformed (trimmed text) fault)
  | .ok expression =>
    match expression.value attributes with
    | some value => .ok value
    | none => .error (.unresolved (trimmed text))

end SceneMarkup
