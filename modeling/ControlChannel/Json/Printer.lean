import ControlChannel.Decimal.Layout
import ControlChannel.Json.Basic

/-!
# JSON text

The one written form of a value: no blanks, members in the order they have in the value, and in
a string an escape only where a character cannot stand for itself.
-/

namespace ControlChannel.Json

/-- A digit in base sixteen, lower case. -/
def hexDigit (n : Nat) : Char :=
  Nat.digitChar (n % 16)

/-- How one character is written inside a string. -/
def escapedChar (c : Char) : List Char :=
  match c with
  | '"' => ['\\', '"']
  | '\\' => ['\\', '\\']
  | '\x08' => ['\\', 'b']
  | '\t' => ['\\', 't']
  | '\n' => ['\\', 'n']
  | '\x0c' => ['\\', 'f']
  | '\r' => ['\\', 'r']
  | _ =>
      if c.toNat < 0x20 then ['\\', 'u', '0', '0', hexDigit (c.toNat / 16), hexDigit c.toNat]
      else [c]

/-- A string with its quotation marks. -/
def renderString (s : String) : List Char :=
  '"' :: (s.toList.flatMap escapedChar ++ ['"'])

/-- An integer in base ten. -/
def renderInteger (n : Int) : List Char :=
  if n < 0 then '-' :: Nat.toDigits 10 n.natAbs else Nat.toDigits 10 n.natAbs

/-- Numbers keep a plain point down to `0.00001` and below `10 ^ 16`, a whole number then ends
    in `.0`, and a positive exponent has its sign. -/
def realLayout : Decimal.Layout :=
  { leastPlain := -5, greatestPlain := 15, wholeEnding := ['.', '0'], exponentSign := ['+'] }

/-- A finite binary floating-point value by its shortest decimal. -/
def renderFinite (x : Float) : List Char :=
  let sign := if x.toBits.toNat < UInt64.size / 2 then [] else ['-']
  let magnitude := if x == 0 then ['0', '.', '0'] else realLayout.write (Decimal.shortest x)
  sign ++ magnitude

/-- A number; what is not finite has no number to stand for it. -/
def renderNumber : Number → List Char
  | .integer n => renderInteger n
  | .real x => if x.isFinite then renderFinite x else ['n', 'u', 'l', 'l']

mutual

/-- The text of a value. -/
def render : Json → List Char
  | .null => ['n', 'u', 'l', 'l']
  | .boolean true => ['t', 'r', 'u', 'e']
  | .boolean false => ['f', 'a', 'l', 's', 'e']
  | .number n => renderNumber n
  | .string s => renderString s
  | .array items => '[' :: renderItems true items
  | .object members => '\x7b' :: renderMembers true members

/-- The items that are still to come, and the closing bracket; a comma stands before each but
    the first of all. -/
def renderItems (first : Bool) : List Json → List Char
  | [] => [']']
  | item :: rest =>
      (if first then [] else [',']) ++ (item.render ++ renderItems false rest)

/-- The members that are still to come, and the closing brace. -/
def renderMembers (first : Bool) : List (String × Json) → List Char
  | [] => ['\x7d']
  | (name, value) :: rest =>
      (if first then [] else [',']) ++
        (renderString name ++ ':' :: (value.render ++ renderMembers false rest))

end

/-- The text of a value as a string. -/
def toText (value : Json) : String :=
  String.ofList value.render

end ControlChannel.Json
