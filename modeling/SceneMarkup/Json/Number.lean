import SceneMarkup.Json.Value
import SceneMarkup.Number.Format
import SceneMarkup.Number.Reading
import SceneMarkup.Text.Suffix

/-!
Contract: numbers in JSON text.

Owns:
- the reader of a number at the beginning of a text;
- the rule by which digits become a value: up to 64 bits of them are kept, further ones only count
  as places, and a float is made by one multiplication or division by a power of ten;
- the formats in which numbers are written.

Does not own: the place of numbers in a value.
-/

namespace SceneMarkup.Json

open SceneMarkup.Number SceneMarkup.Text

/-- Numbers of scene literals as property text: the shortest digits, positional while the first
stands for a power of ten between -5 and 15. -/
def propertyFormat : Format where
  positional := fun power => -5 ≤ power && power ≤ 15
  keepPoint := true
  tie := .toEven

/-- Numbers of emitted scenes: the shortest digits, positional while the first stands for a power
of ten between -6 and 12. -/
def emittedFormat : Format where
  positional := fun power => -6 ≤ power && power ≤ 12
  keepPoint := true
  tie := .toEven

def Number.text : Number → String
  | whole value => toString value
  | real value => propertyFormat.writeFloat value

namespace NumberText

/-- The least number that does not fit 64 bits. -/
def limit : Nat := 0x10000000000000000

/-- Reads digits on from a number for as long as the result fits 64 bits, and returns the digits
that are left. -/
def accumulate (value : Nat) : List Char → Nat × List Char
  | [] => (value, [])
  | digit :: rest =>
    let next := 10 * value + (digit.toNat - '0'.toNat)
    if next < limit then accumulate next rest else (value, digit :: rest)

/-- The greatest power of ten by which a float is scaled at once. -/
def largestPower : Nat := 308

def powerOfTen (power : Nat) : Float := Float.ofScientific 1 false power

/-- A float divided by a power of ten, in several steps where the power is large. -/
def divide (value : Float) (power : Nat) : Float :=
  if power ≤ largestPower then value / powerOfTen power
  else if value == 0 then value
  else divide (value / powerOfTen largestPower) (power - largestPower)
termination_by power
decreasing_by
  simp only [largestPower] at *
  omega

/-- A float multiplied by a power of ten, unless the product is too large. -/
def multiply? (value : Float) (power : Nat) : Option Float :=
  if power ≤ largestPower then
    let product := value * powerOfTen power
    if product.isInf then none else some product
  else if value == 0 then some value
  else none

/-- The float of digits and a power of ten. -/
def scaled? (negative : Bool) (digits : Nat) (exponent : Int) : Option Number :=
  let value := digits.toFloat
  let size :=
    match exponent with
    | .ofNat power => multiply? value power
    | .negSucc power => some (divide value (power + 1))
  size.map fun size => .real (if negative then -size else size)

/-- A whole number, where 64 bits hold it; minus zero is a float. -/
def whole (negative : Bool) (digits : Nat) : Number :=
  if negative then
    if digits = 0 ∨ 0x8000000000000000 < digits then .real (-digits.toFloat) else .whole (-digits)
  else .whole digits

/-- The parts of a number as written: the digits before the point, those behind it where there is
a point, and the exponent where there is one. -/
structure Written where
  negative : Bool
  integer : List Char
  fraction : Option (List Char)
  exponent : Option Int
deriving DecidableEq, Repr

/-- The fraction at the beginning of a text: none without a point, and an error without digits
behind it. -/
def fraction? : List Char → Option (Option (List Char) × List Char)
  | '.' :: rest =>
    let digits := rest.takeWhile isDigit
    if digits = [] then none else some (some digits, rest.dropWhile isDigit)
  | text => some (none, text)

/-- The exponent at the beginning of a text: none without its letter, and an error without digits
behind it. -/
def exponent? (text : List Char) : Option (Option Int × List Char) :=
  match text with
  | mark :: rest =>
    if mark = 'e' ∨ mark = 'E' then
      let (negative, behind) := Reading.signOf rest
      let digits := behind.takeWhile isDigit
      if digits = [] then none
      else
        let size : Int := readDigits 0 digits
        some (some (if negative then -size else size), behind.dropWhile isDigit)
    else some (none, text)
  | [] => some (none, [])

/-- The digits before the point; a zero stands alone. -/
def integer? (text : List Char) : Option (List Char × List Char) :=
  match text.takeWhile isDigit with
  | [] => none
  | ['0'] => some (['0'], text.dropWhile isDigit)
  | '0' :: _ => none
  | digits => some (digits, text.dropWhile isDigit)

/-- The sign at the beginning of a text; only a minus is one. -/
def sign : List Char → Bool × List Char
  | '-' :: rest => (true, rest)
  | text => (false, text)

/-- The number at the beginning of a text in its parts, and the text behind it. -/
def written? (text : List Char) : Option (Written × List Char) := do
  let (negative, text) := sign text
  let (integer, text) ← integer? text
  let (fraction, text) ← fraction? text
  let (exponent, text) ← exponent? text
  return (⟨negative, integer, fraction, exponent⟩, text)

/-- The value of a number as written; a number beyond the floats has none. -/
def Written.value? (written : Written) : Option Number :=
  let (digits, dropped) := accumulate 0 written.integer
  match written.fraction, written.exponent with
  | none, none =>
    if dropped = [] then some (whole written.negative digits)
    else scaled? written.negative digits dropped.length
  | fraction, exponent =>
    let places := fraction.getD []
    let (digits, ignored) := accumulate digits places
    scaled? written.negative digits
      (dropped.length - (places.length - ignored.length : Nat) + exponent.getD 0)

theorem sign_suffix (text : List Char) : (sign text).2 <:+ text := by
  unfold sign
  split
  · exact List.suffix_cons _ _
  · exact List.suffix_rfl

theorem signOf_suffix (text : List Char) : (Reading.signOf text).2 <:+ text := by
  unfold Reading.signOf
  split
  · exact List.suffix_cons _ _
  · exact List.suffix_cons _ _
  · exact List.suffix_rfl

theorem properSuffix_of_integer? {text digits behind : List Char}
    (read : integer? text = some (digits, behind)) : ProperSuffix behind text := by
  unfold integer? at read
  split at read
  · cases read
  · rename_i zero
    cases read
    exact properSuffix_dropWhile (by simp [zero])
  · cases read
  · rename_i nonempty _ _
    cases read
    exact properSuffix_dropWhile nonempty

theorem suffix_of_fraction? {text behind : List Char} {digits : Option (List Char)}
    (read : fraction? text = some (digits, behind)) : behind <:+ text := by
  unfold fraction? at read
  split at read
  · simp only at read
    split at read
    · cases read
    · cases read
      exact (List.dropWhile_suffix isDigit).trans (List.suffix_cons _ _)
  · cases read
    exact List.suffix_rfl

theorem suffix_of_exponent? {text behind : List Char} {exponent : Option Int}
    (read : exponent? text = some (exponent, behind)) : behind <:+ text := by
  unfold exponent? at read
  split at read
  · split at read
    · simp only at read
      split at read
      · cases read
      · cases read
        exact ((List.dropWhile_suffix isDigit).trans (signOf_suffix _)).trans
          (List.suffix_cons _ _)
    · cases read
      exact List.suffix_rfl
  · cases read
    exact List.suffix_rfl

theorem properSuffix_of_written? {text behind : List Char} {parts : Written}
    (read : written? text = some (parts, behind)) : ProperSuffix behind text := by
  obtain ⟨⟨integer, afterInteger⟩, readInteger, read⟩ := Option.bind_eq_some_iff.mp read
  obtain ⟨⟨fraction, afterFraction⟩, readFraction, read⟩ := Option.bind_eq_some_iff.mp read
  obtain ⟨⟨exponent, afterExponent⟩, readExponent, read⟩ := Option.bind_eq_some_iff.mp read
  cases read
  exact ((properSuffix_of_integer? readInteger).trans_suffix (sign_suffix text)).suffix_trans
    ((suffix_of_exponent? readExponent).trans (suffix_of_fraction? readFraction))

end NumberText

/-- The number at the beginning of a text, and the text behind it. -/
def number? (text : List Char) : Option (Number × List Char) := do
  let (written, behind) ← NumberText.written? text
  return (← written.value?, behind)

theorem properSuffix_of_number? {text behind : List Char} {number : Number}
    (read : number? text = some (number, behind)) : ProperSuffix behind text := by
  obtain ⟨⟨parts, rest⟩, readParts, read⟩ := Option.bind_eq_some_iff.mp read
  obtain ⟨value, _, read⟩ := Option.bind_eq_some_iff.mp read
  cases read
  exact NumberText.properSuffix_of_written? readParts

end SceneMarkup.Json
