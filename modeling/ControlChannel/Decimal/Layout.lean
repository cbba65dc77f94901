import ControlChannel.Decimal.Shortest

/-!
# Written numbers

How a number in scientific form is laid out as text: with a plain decimal point while its
exponent stays within bounds, and with an exponent outside them.
-/

namespace ControlChannel.Decimal

/-- The decisions of a number format. -/
structure Layout where
  /-- The least exponent written with a plain point. -/
  leastPlain : Int
  /-- The greatest exponent written with a plain point. -/
  greatestPlain : Int
  /-- What ends a whole number that is written plainly. -/
  wholeEnding : List Char
  /-- The sign of an exponent that is not negative. -/
  exponentSign : List Char

namespace Layout

/-- The digits with a point after the first `whole` of them, filled up with zeros. -/
def plain (layout : Layout) (digits : List Char) (whole : Nat) : List Char :=
  if digits.length ≤ whole then
    digits ++ List.replicate (whole - digits.length) '0' ++ layout.wholeEnding
  else digits.take whole ++ '.' :: digits.drop whole

/-- The first digit, a point if more follow, and the exponent. -/
def withExponent (layout : Layout) (number : Scientific) : List Char :=
  let fraction := number.digits.drop 1
  number.digits.take 1 ++ (if fraction.isEmpty then [] else '.' :: fraction) ++ 'e' ::
    ((if number.exponent < 0 then ['-'] else layout.exponentSign) ++
      Nat.toDigits 10 number.exponent.natAbs)

/-- The text of a positive number. -/
def write (layout : Layout) (number : Scientific) : List Char :=
  if layout.leastPlain ≤ number.exponent ∧ number.exponent ≤ layout.greatestPlain then
    if number.exponent < 0 then
      ['0', '.'] ++ List.replicate (number.exponent.natAbs - 1) '0' ++ number.digits
    else layout.plain number.digits (number.exponent.toNat + 1)
  else layout.withExponent number

end Layout

end ControlChannel.Decimal
