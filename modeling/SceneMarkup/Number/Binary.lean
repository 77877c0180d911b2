/-!
Contract: binary floating-point values as exact numbers.

Owns:
- powers of two and of ten;
- the two interchange formats in use and the decoding of their bit patterns;
- `Binary`, a decoded value, with its rounding to a natural number.

Does not own: arithmetic, which is that of `Float32` and `Float`, and decimal text.
-/

namespace SceneMarkup.Number

def twoPower (exponent : Nat) : Nat := Nat.pow 2 exponent

def tenPower (exponent : Nat) : Nat := Nat.pow 10 exponent

/-- The widths of a binary interchange format. -/
structure BinaryFormat where
  /-- The number of stored bits of the significand. -/
  fractionBits : Nat
  /-- The number of bits of the biased exponent. -/
  exponentBits : Nat
deriving DecidableEq, Repr

namespace BinaryFormat

def single : BinaryFormat := ⟨23, 8⟩

def double : BinaryFormat := ⟨52, 11⟩

/-- The exponent of the last place of the smallest values. -/
def leastExponent (format : BinaryFormat) : Int :=
  2 - twoPower (format.exponentBits - 1) - format.fractionBits

end BinaryFormat

/-- What a bit pattern stands for. -/
inductive Binary where
  | notANumber
  | infinite (negative : Bool)
  /-- The number `mantissa * 2 ^ exponent`, negated where `negative` says so. -/
  | finite (negative : Bool) (mantissa : Nat) (exponent : Int)
deriving DecidableEq, Repr

namespace Binary

/-- The value of a bit pattern in a format. -/
def decode (format : BinaryFormat) (bits : Nat) : Binary :=
  let fraction := bits % twoPower format.fractionBits
  let biased := bits / twoPower format.fractionBits % twoPower format.exponentBits
  let negative := bits / twoPower (format.fractionBits + format.exponentBits) % 2 == 1
  if biased = twoPower format.exponentBits - 1 then
    if fraction = 0 then .infinite negative else .notANumber
  else if biased = 0 then .finite negative fraction format.leastExponent
  else
    .finite negative (twoPower format.fractionBits + fraction)
      (format.leastExponent + (biased - 1 : Nat))

def ofFloat32 (value : Float32) : Binary := decode .single value.toBits.toNat

def ofFloat (value : Float) : Binary := decode .double value.toBits.toNat

/-- The nearest natural number, a half counting upwards; zero for what is negative or no number.
The infinite value has no nearest number and gives zero as well. -/
def roundToNat : Binary → Nat
  | .finite false mantissa exponent =>
    match exponent with
    | .ofNat shift => mantissa * twoPower shift
    | .negSucc shift => (2 * mantissa + twoPower (shift + 1)) / twoPower (shift + 2)
  | _ => 0

end Binary

/-- Whether a 32-bit float is neither infinite nor undefined. -/
def isFiniteNumber (value : Float32) : Bool :=
  match Binary.ofFloat32 value with
  | .finite .. => true
  | _ => false

end SceneMarkup.Number
