/-!
# The shortest decimal that reads back

A finite binary floating-point value stands for every real number that rounds to it. The
shortest decimal in that interval has the fewest digits; among those with as few it is the one
nearest to the value, and of two that are equally near the one with an even last digit.

A grid of `n` digits has the points `c · 10 ^ k` for one `k`. If any point of a grid lies in the
interval then so does one of the two neighbours of the value on it, so it is enough to try
those two for `n = 1, 2, …, 17`; seventeen digits always suffice.
-/

namespace ControlChannel.Decimal

/-- The decimal number `d₀.d₁d₂… · 10 ^ exponent`, with `digits = [d₀, d₁, d₂, …]` as characters
    and no zero at the end. -/
structure Scientific where
  digits : List Char
  exponent : Int
  deriving DecidableEq, Repr

/-- The reals that round to one value, as multiples of `scaleUp / scaleDown`: from `lower` through
    `middle`, which is the value itself, to `upper`. -/
structure Interval where
  lower : Nat
  middle : Nat
  upper : Nat
  closed : Bool
  scaleUp : Nat
  scaleDown : Nat
  deriving DecidableEq, Repr

namespace Interval

/-- The number of fractions that a significand can have beside its leading digit. -/
def fractions : Nat := 1 <<< 52

/-- The power of two with an exponent that is not negative; one if it is. -/
def twoTo (e : Int) : Nat := 1 <<< e.toNat

/-- The power of ten with an exponent that is not negative; one if it is. -/
def tenTo (e : Int) : Nat := Nat.pow 10 e.toNat

/-- The interval of the magnitude with the given bits. The ends lie half a step from the value,
    but only a quarter below a power of two, where the steps become finer; they belong to the
    interval when the significand is even. -/
def ofBits (bits : UInt64) : Interval :=
  let field : Nat := (bits.toNat / fractions) % 2048
  let fraction : Nat := bits.toNat % fractions
  let significand := if field = 0 then fraction else fraction + fractions
  let power : Int := if field = 0 then -1074 else (field : Int) - 1075
  { lower := 4 * significand - (if fraction = 0 ∧ 1 < field then 1 else 2)
    middle := 4 * significand
    upper := 4 * significand + 2
    closed := decide (significand % 2 = 0)
    scaleUp := twoTo (power - 2)
    scaleDown := twoTo (2 - power) }

/-- The decimal exponent of the value's first digit. No positive value lies below
    `10 ^ (-350)`, so the value times `10 ^ 350` has as many digits as its whole part. -/
def firstExponent (i : Interval) : Int :=
  ((Nat.toDigits 10 (i.middle * i.scaleUp * tenTo 350 / i.scaleDown)).length : Int) - 351

/-- The point `c · 10 ^ k` lies in the interval. -/
def contains (i : Interval) (k : Int) (c : Nat) : Bool :=
  let point := c * (tenTo k * i.scaleDown)
  let unit := i.scaleUp * tenTo (-k)
  if i.closed then i.lower * unit ≤ point && point ≤ i.upper * unit
  else i.lower * unit < point && point < i.upper * unit

/-- The neighbour of the value on the grid `10 ^ k` that lies in the interval; of two the nearer
    one. -/
def neighbour? (i : Interval) (k : Int) : Option Nat :=
  let step := tenTo k * i.scaleDown
  let value := i.middle * (i.scaleUp * tenTo (-k))
  let below := value / step
  match i.contains k below, i.contains k (below + 1) with
  | true, true =>
      if 2 * value < (2 * below + 1) * step then some below
      else if (2 * below + 1) * step < 2 * value then some (below + 1)
      else some (if below % 2 = 0 then below else below + 1)
  | true, false => some below
  | false, true => some (below + 1)
  | false, false => none

/-- The decimal number `c · 10 ^ k` in scientific form. -/
def scientific (k : Int) (c : Nat) : Scientific :=
  let digits := Nat.toDigits 10 c
  { digits := (digits.reverse.dropWhile (· == '0')).reverse
    exponent := k + (digits.length : Int) - 1 }

/-- The first of the grids with `n`, `n + 1`, … digits that has a point in the interval, out of
    `tries` grids. -/
def search (i : Interval) (first : Int) : Nat → Nat → Scientific
  | 0, _ => scientific 0 0
  | tries + 1, n =>
      let k := first + 1 - (n : Int)
      match i.neighbour? k with
      | some c => scientific k c
      | none => i.search first tries (n + 1)

end Interval

/-- The shortest decimal that reads back as the magnitude of the finite, nonzero value `x`. -/
def shortest (x : Float) : Scientific :=
  let i := Interval.ofBits x.toBits
  i.search i.firstExponent 17 1

end ControlChannel.Decimal
