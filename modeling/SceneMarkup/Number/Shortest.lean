import SceneMarkup.Number.Binary

/-!
Contract: the shortest decimal that reads back as a given binary value.

Owns:
- the interval of numbers that round to a value;
- the search for the coarsest decimal grid with a point in that interval, and on that grid the
  point nearest the value;
- `Decimal`, a sequence of digits with an exponent.

Does not own: the layout of the digits as text, which `Number.Format` decides.
-/

namespace SceneMarkup.Number

/-- Which of two equally near points is taken. -/
inductive Tie where
  | upwards
  | toEven
deriving DecidableEq, Repr

/-- The number `digits * 10 ^ exponent`. -/
structure Decimal where
  digits : Nat
  exponent : Int
deriving DecidableEq, Repr

namespace Shortest

/-- The neighbourhood of a positive value on one decimal grid: the value and the two ends of
its interval as multiples of the fraction `1 / scale`, in which a grid point is a multiple of
`step`. -/
structure Neighbourhood where
  low : Nat
  value : Nat
  high : Nat
  step : Nat
  /-- Whether the ends belong to the interval. -/
  closed : Bool
deriving Repr

/-- The neighbourhood of `mantissa * 2 ^ exponent` on the grid of multiples of `10 ^ place`.
Quarters of the last place hold both ends; below a power of two the next value is nearer. -/
def neighbourhood (format : BinaryFormat) (mantissa : Nat) (exponent : Int) (place : Int) :
    Neighbourhood :=
  let narrow := mantissa = twoPower format.fractionBits ∧ format.leastExponent < exponent
  let quarter := exponent - 2
  let unit := twoPower quarter.toNat * tenPower (-place).toNat
  { low := (4 * mantissa - if narrow then 1 else 2) * unit
    value := 4 * mantissa * unit
    high := (4 * mantissa + 2) * unit
    step := twoPower (-quarter).toNat * tenPower place.toNat
    closed := mantissa % 2 = 0 }

/-- Whether a grid point reads back as the value. -/
def Neighbourhood.holds (around : Neighbourhood) (point : Nat) : Bool :=
  let position := point * around.step
  if around.closed then around.low ≤ position && position ≤ around.high
  else around.low < position && position < around.high

/-- The grid point nearest the value among those that read back as it. Only the two neighbours
of the value need a look: if any point of the grid lies in the interval, one of them does. -/
def Neighbourhood.nearest? (around : Neighbourhood) (tie : Tie) : Option Nat :=
  let below := around.value / around.step
  let above := below + 1
  match around.holds below, around.holds above with
  | false, false => none
  | true, false => some below
  | false, true => some above
  | true, true =>
    let down := around.value - below * around.step
    let up := above * around.step - around.value
    if down < up then some below
    else if up < down then some above
    else
      match tie with
      | .upwards => some above
      | .toEven => some (if below % 2 = 0 then below else above)

/-- A decimal place at which the grid is too coarse for a positive value. -/
def topPlace (mantissa : Nat) (exponent : Int) : Int :=
  (((mantissa.log2 : Int) + 1 + exponent) * 30103) / 100000 + 1

/-- The first hit on the grids `place`, `place - 1`, and so on, for at most `count` of them;
with none left, the grid point below the value. -/
def search (format : BinaryFormat) (tie : Tie) (mantissa : Nat) (exponent : Int) :
    (count : Nat) → (place : Int) → Decimal
  | 0, place =>
    let around := neighbourhood format mantissa exponent place
    ⟨around.value / around.step, place⟩
  | count + 1, place =>
    match (neighbourhood format mantissa exponent place).nearest? tie with
    | some digits => ⟨digits, place⟩
    | none => search format tie mantissa exponent count (place - 1)

end Shortest

/-- The decimal with the fewest digits that reads back as `mantissa * 2 ^ exponent` in the
format, and of those the nearest. Seventeen digits always suffice; the search allows for the two
places by which its start may lie too high. -/
def shortest (format : BinaryFormat) (tie : Tie) (mantissa : Nat) (exponent : Int) : Decimal :=
  if mantissa = 0 then ⟨0, 0⟩
  else Shortest.search format tie mantissa exponent 20 (Shortest.topPlace mantissa exponent)

end SceneMarkup.Number
