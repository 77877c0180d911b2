import SceneMarkup.Number.Shortest

/-!
Contract: the text of binary floating-point values.

Owns:
- `Format`, the decisions of one kind of number text;
- the writers for both float widths.

Does not own: the formats of documents, which live with the documents.
-/

namespace SceneMarkup.Number

/-- How the shortest digits of a value are laid out. -/
structure Format where
  /-- Whether a number whose first digit stands for that power of ten is written without an
  exponent. -/
  positional : Int → Bool
  /-- Whether a whole number keeps a point and a zero. -/
  keepPoint : Bool
  /-- The choice between two equally near digits. -/
  tie : Tie

namespace Format

def digitsOf (number : Nat) : List Char := Nat.toDigits 10 number

def zeros (count : Nat) : List Char := List.replicate count '0'

/-- Digits without an exponent, the point where the places demand it. -/
def writePositional (format : Format) (digits : List Char) (exponent : Int) : List Char :=
  match exponent with
  | .ofNat shift => digits ++ zeros shift ++ if format.keepPoint then ['.', '0'] else []
  | .negSucc shift =>
    let places := shift + 1
    if places < digits.length then
      digits.take (digits.length - places) ++ '.' :: digits.drop (digits.length - places)
    else '0' :: '.' :: (zeros (places - digits.length) ++ digits)

/-- One digit before the point and an exponent that always has a sign. -/
def writeScientific (digits : List Char) (power : Int) : List Char :=
  let mantissa :=
    match digits with
    | first :: second :: rest => first :: '.' :: second :: rest
    | short => short
  let sign := if power < 0 then '-' else '+'
  mantissa ++ 'e' :: sign :: digitsOf power.natAbs

/-- The text of a positive number or of zero. -/
def writeDecimal (format : Format) (number : Decimal) : List Char :=
  let digits := digitsOf number.digits
  let power := number.exponent + digits.length - 1
  if format.positional power then format.writePositional digits number.exponent
  else writeScientific digits power

def write (format : Format) (width : BinaryFormat) : Binary → String
  | .notANumber => "NaN"
  | .infinite negative => if negative then "-inf" else "inf"
  | .finite negative mantissa exponent =>
    let body := format.writeDecimal (shortest width format.tie mantissa exponent)
    String.ofList (if negative then '-' :: body else body)

def writeFloat32 (format : Format) (value : Float32) : String :=
  format.write .single (.ofFloat32 value)

def writeFloat (format : Format) (value : Float) : String :=
  format.write .double (.ofFloat value)

/-- Plain numbers: no exponent whatever the size, no point in a whole number, and of two equally
near numbers the larger. -/
def plain : Format where
  positional := fun _ => true
  keepPoint := false
  tie := .upwards

end Format

end SceneMarkup.Number
