/-!
Contract: hexadecimal digits.

Owns:
- `hexValue?`, the value of a digit of either case;
- `hexDigit`, the upper-case digit of a value.

Does not own: numbers of several digits, whose width depends on what they write.
-/

namespace SceneMarkup.Number

/-- The value of a hexadecimal digit of either case. -/
def hexValue? (digit : Char) : Option Nat :=
  if '0' ≤ digit ∧ digit ≤ '9' then some (digit.toNat - '0'.toNat)
  else if 'a' ≤ digit ∧ digit ≤ 'f' then some (digit.toNat - 'a'.toNat + 10)
  else if 'A' ≤ digit ∧ digit ≤ 'F' then some (digit.toNat - 'A'.toNat + 10)
  else none

def hexDigit (value : Nat) : Char :=
  if value < 10 then Char.ofNat ('0'.toNat + value) else Char.ofNat ('A'.toNat + (value - 10))

end SceneMarkup.Number
