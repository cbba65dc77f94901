import ControlChannel.Json.Stop

/-!
# Number literals

A literal is scanned for its form first: sign, whole digits, fraction, exponent. Its value comes
second. Without fraction and exponent it is an integer while it fits 64 bits, signed if it is
negative and unsigned if not. Any other literal is a binary floating-point value: its digits
are gathered into a 64-bit significand, digits that would overflow it only move the point, and
the significand is multiplied or divided once by a power of ten. The result may therefore lie
next to the value nearest to the literal.
-/

namespace ControlChannel

/-- The form of a number literal. -/
structure Literal where
  negative : Bool
  whole : List Char
  fraction : Option (List Char)
  /-- Whether the exponent has a minus sign, and its digits. -/
  exponent : Option (Bool × List Char)
  deriving DecidableEq, Repr

/-- The value of a decimal digit. -/
def digitValue (c : Char) : Nat :=
  c.toNat - '0'.toNat

namespace Literal

/-- The digits in front of a text, and the rest of it. -/
def digits (s : List Char) : List Char × List Char :=
  s.span Char.isDigit

/-- The digits of the whole part: one zero, or a digit other than zero with any that follow. -/
def scanWhole : Reader (List Char)
  | [] => .error (.on .endInValue [])
  | c :: rest =>
      if c = '0' then
        match rest with
        | d :: _ =>
            if d.isDigit then .error (.on .invalidNumber rest) else .ok (['0'], rest)
        | [] => .ok (['0'], rest)
      else if c.isDigit then
        let (more, rest) := digits rest
        .ok (c :: more, rest)
      else .error (.on .invalidNumber (c :: rest))

/-- The digits after a point, at least one. -/
def scanFraction : Reader (List Char) := fun s =>
  match digits s with
  | ([], []) => .error (.on .endInValue [])
  | ([], rest) => .error (.on .invalidNumber rest)
  | (ds, rest) => .ok (ds, rest)

/-- The sign and the digits of an exponent, at least one. -/
def scanExponent : Reader (Bool × List Char) := fun s =>
  let (negative, s) :=
    match s with
    | '+' :: rest => (false, rest)
    | '-' :: rest => (true, rest)
    | _ => (false, s)
  match digits s with
  | ([], []) => .error (.on .endInValue [])
  | ([], rest) => .error (.on .invalidNumber rest)
  | (ds, rest) => .ok ((negative, ds), rest)

/-- The literal in front of a text. -/
def scan : Reader Literal := fun s => do
  let (negative, s) :=
    match s with
    | '-' :: rest => (true, rest)
    | _ => (false, s)
  let (whole, s) ← scanWhole s
  let (fraction, s) ←
    match s with
    | '.' :: rest => do
        let (ds, rest) ← scanFraction rest
        pure (some ds, rest)
    | _ => pure (none, s)
  let (exponent, s) ←
    match s with
    | 'e' :: rest | 'E' :: rest => do
        let (e, rest) ← scanExponent rest
        pure (some e, rest)
    | _ => pure (none, s)
  pure (⟨negative, whole, fraction, exponent⟩, s)

/-- The greatest significand. -/
def greatestSignificand : Nat := UInt64.size - 1

/-- The greatest exponent that is counted. -/
def greatestExponent : Nat := 2147483647

/-- Gathers digits while they fit the significand; the second part is the number of digits that
    were gathered. -/
def gather (significand : Nat) : List Char → Nat × Nat
  | [] => (significand, 0)
  | d :: rest =>
      let next := significand * 10 + digitValue d
      if next ≤ greatestSignificand then
        let (result, count) := gather next rest
        (result, count + 1)
      else (significand, 0)

/-- The significand of the literal and the power of ten that scales it, its exponent apart. -/
def significand (l : Literal) : Nat × Int :=
  let (whole, kept) := gather 0 l.whole
  let (result, taken) := gather whole (l.fraction.getD [])
  (result, (l.whole.length : Int) - kept - taken)

/-- The value of an exponent's digits, or the digits that come after the one with which it grows
    too great to be counted. -/
def exponentValue (value : Nat) : List Char → Nat ⊕ List Char
  | [] => .inl value
  | d :: rest =>
      let next := value * 10 + digitValue d
      if next ≤ greatestExponent then exponentValue next rest else .inr rest

/-- `x · 10 ^ e`, rounded after one multiplication or division; a power below `10 ^ (-308)` is
    divided off in steps. There is no value if the result is infinite. `steps` bounds the
    number of divisions. -/
def scaleByTen (x : Float) (e : Int) : Nat → Option Float
  | 0 => some x
  | steps + 1 =>
      if e.natAbs ≤ 308 then
        let power := Float.ofScientific 1 false e.natAbs
        if 0 ≤ e then
          let scaled := x * power
          if scaled.isInf then none else some scaled
        else some (x / power)
      else if x == 0 then some x
      else if 0 ≤ e then none
      else scaleByTen (x / Float.ofScientific 1 false 308) (e + 308) steps

/-- The floating-point value of the literal. If there is none, the digits of its exponent that
    were left when this was seen. -/
def real (l : Literal) : Except (List Char) Float :=
  let (significand, power) := l.significand
  let (negative, digits) := l.exponent.getD (false, [])
  let signed (x : Float) : Float := if l.negative then -x else x
  match exponentValue 0 digits with
  | .inr rest =>
      if significand ≠ 0 ∧ ¬ negative then .error rest else .ok (signed 0)
  | .inl e =>
      let power := if negative then power - (e : Int) else power + (e : Int)
      match scaleByTen significand.toUInt64.toFloat power (power.natAbs / 308 + 1) with
      | some x => .ok (signed x)
      | none => .error []

/-- The integer that the literal writes, if it writes one that fits 64 bits; minus zero is not
    an integer. -/
def integer? (l : Literal) : Option Int :=
  if l.fraction.isSome ∨ l.exponent.isSome then none
  else
    let n := l.whole.foldl (fun n d => n * 10 + digitValue d) 0
    if l.negative then
      if 0 < n ∧ n ≤ UInt64.size / 2 then some (-(n : Int)) else none
    else if n < UInt64.size then some (n : Int) else none

end Literal

/-- The number in front of a text. -/
def readNumber : Reader Number := fun s => do
  let (literal, rest) ← Literal.scan s
  match literal.integer? with
  | some n => pure (.integer n, rest)
  | none =>
      match literal.real with
      | .ok x => pure (.real x, rest)
      | .error digits => .error (.after .numberOutOfRange (digits ++ rest))

end ControlChannel
