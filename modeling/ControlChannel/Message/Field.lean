import ControlChannel.Json.Fault
import ControlChannel.Message.Basic

/-!
# Values of fields

Which JSON values a field takes, by the type of the field, and the fault of any other value. An
integer field takes an integer in its range and no other number, however it is written; a field for
a rate takes any number.
-/

namespace ControlChannel.Field

/-- The value is not of the wanted type. -/
def refuse {α : Type} (value : Json) (wanted : Wanted) : Except Fault α :=
  .error (.invalidType value.found wanted)

/-- A text. -/
def string : Json → Except Fault String
  | .string s => .ok s
  | value => refuse value .string

/-- A value, or `null` for none. -/
def optional {α : Type} (accept : Json → Except Fault α) : Json → Except Fault (Option α)
  | .null => .ok none
  | value => some <$> accept value

/-- A truth value. -/
def boolean : Json → Except Fault Bool
  | .boolean b => .ok b
  | value => refuse value .boolean

/-- An integer of 32 bits. -/
def int32 : Json → Except Fault Int32
  | .number (.integer n) =>
      if Int32.minValue.toInt ≤ n ∧ n ≤ Int32.maxValue.toInt then .ok (Int32.ofInt n)
      else .error (.invalidInteger n .int32)
  | value => refuse value .int32

/-- The floating-point value nearest to an integer. -/
def realOfInteger (n : Int) : Float :=
  let magnitude := n.natAbs.toUInt64.toFloat
  if n < 0 then -magnitude else magnitude

/-- A number of any form. -/
def real : Json → Except Fault Float
  | .number (.integer n) => .ok (realOfInteger n)
  | .number (.real x) => .ok x
  | value => refuse value .real

/-- A list of texts. -/
def strings : Json → Except Fault (List String)
  | .array items => items.mapM string
  | value => refuse value .sequence

/-- The class of a message. -/
def className : Json → Except Fault String
  | .string s => .ok s
  | value => refuse value .variantName

end ControlChannel.Field
