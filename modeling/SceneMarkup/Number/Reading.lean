import SceneMarkup.Number.Binary
import SceneMarkup.Number.Shortest

/-!
Contract: reading a decimal number as a 32-bit float.

Owns:
- the grammar of number text: an optional sign, then digits with an optional point and an
  optional exponent, or one of the words `inf`, `infinity` and `nan`;
- the conversion to the nearest 32-bit float, halves going to the even neighbour.

Does not own: units and surrounding blanks, which the attribute binder handles.
-/

namespace SceneMarkup.Number

def isDigit (character : Char) : Bool := '0' ≤ character && character ≤ '9'

/-- The value of a row of digits read on from a number. -/
def readDigits (start : Nat) (digits : List Char) : Nat :=
  digits.foldl (fun value digit => 10 * value + (digit.toNat - '0'.toNat)) start

/-- What number text denotes before rounding. -/
inductive Reading where
  | undefined
  | infinite (negative : Bool)
  | exact (negative : Bool) (number : Decimal)
deriving DecidableEq, Repr

namespace Reading

/-- An optional sign: whether it is a minus, and the text behind it. -/
def signOf : List Char → Bool × List Char
  | '-' :: rest => (true, rest)
  | '+' :: rest => (false, rest)
  | text => (false, text)

/-- The exponent part, which may be missing: nothing, or `e` with an optional sign and at least
one digit. -/
def exponentOf? : List Char → Option Int
  | [] => some 0
  | mark :: rest =>
    if mark = 'e' ∨ mark = 'E' then
      let (negative, digits) := signOf rest
      if digits.isEmpty || !digits.all isDigit then none
      else
        let size : Int := readDigits 0 digits
        some (if negative then -size else size)
    else none

/-- Digits with an optional point and exponent. There is a digit before or behind the point. -/
def decimal? (text : List Char) : Option Decimal :=
  let whole := text.takeWhile isDigit
  let rest := text.dropWhile isDigit
  let (fraction, rest) :=
    match rest with
    | '.' :: behind => (behind.takeWhile isDigit, behind.dropWhile isDigit)
    | _ => ([], rest)
  if whole.isEmpty && fraction.isEmpty then none
  else
    (exponentOf? rest).map fun exponent =>
      ⟨readDigits (readDigits 0 whole) fraction, exponent - fraction.length⟩

def read? (text : List Char) : Option Reading :=
  let (negative, body) := signOf text
  match decimal? body with
  | some number => some (.exact negative number)
  | none =>
    let word := String.ofList (body.map Char.toLower)
    if word = "inf" ∨ word = "infinity" then some (.infinite negative)
    else if word = "nan" then some .undefined
    else none

def toFloat32 : Reading → Float32
  | .undefined => Float32.ofBits 0x7FC00000
  | .infinite negative => Float32.ofBits (if negative then 0xFF800000 else 0x7F800000)
  | .exact negative number =>
    let size := Float32.ofScientific number.digits (number.exponent < 0) number.exponent.natAbs
    if negative then -size else size

end Reading

/-- Reads number text as a 32-bit float. -/
def readFloat32? (text : List Char) : Option Float32 := (Reading.read? text).map Reading.toFloat32

end SceneMarkup.Number
