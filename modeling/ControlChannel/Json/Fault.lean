import ControlChannel.Json.Printer
import ControlChannel.Text.Quoted

/-!
# Why a text cannot be read

The causes for which reading a text fails, where in the text it failed, and the wording of both.
A place is counted in bytes of the text's UTF-8 form: the line by the newlines among the bytes
taken so far, the column by the bytes taken since the last of them.
-/

namespace ControlChannel

/-- The kind of value found where another one was wanted. -/
inductive Found where
  | null
  | boolean (value : Bool)
  | number (value : Number)
  | string (value : String)
  | sequence
  | map
  deriving DecidableEq, Repr

/-- What a place wanted. -/
inductive Wanted where
  | string
  | boolean
  | sequence
  | int32
  | real
  | variantName
  | record (name : String)
  | taggedUnion (name : String)
  deriving DecidableEq, Repr

/-- How many values a place wanted, and of what. -/
inductive Shape where
  | sequence (count : Nat)
  | record (name : String) (count : Nat)
  deriving DecidableEq, Repr

/-- A cause for which reading a text fails. -/
inductive Fault where
  | endInValue
  | endInList
  | endInObject
  | endInString
  | wantedColon
  | wantedCommaOrBracket
  | wantedCommaOrBrace
  | wantedWord
  | wantedValue
  | invalidEscape
  | invalidNumber
  | numberOutOfRange
  | loneSurrogate
  | unfinishedSurrogatePair
  | controlCharacter
  | nameNotString
  | trailingComma
  | trailingCharacters
  | tooDeep
  | invalidType (found : Found) (wanted : Wanted)
  | invalidInteger (value : Int) (wanted : Wanted)
  | invalidLength (given : Nat) (wanted : Shape)
  | missingField (name : String)
  | duplicateField (name : String)
  deriving DecidableEq, Repr

/-- A place in a text. -/
structure Position where
  line : Nat
  column : Nat
  deriving DecidableEq, Repr

/-- A text that could not be read: the cause and, where it lies in the text itself, its place. -/
structure DecodeError where
  fault : Fault
  position : Option Position
  deriving DecidableEq, Repr

/-- The kind of a value. -/
def Json.found : Json → Found
  | .null => .null
  | .boolean value => .boolean value
  | .number value => .number value
  | .string value => .string value
  | .array _ => .sequence
  | .object _ => .map

namespace Found

/-- The words for what was found. -/
def describe : Found → String
  | null => "null"
  | boolean value => "boolean `" ++ (if value then "true" else "false") ++ "`"
  | number (.integer value) => "integer `" ++ String.ofList (Json.renderInteger value) ++ "`"
  | number (.real value) => "floating point `" ++ String.ofList (Json.renderFinite value) ++ "`"
  | string value => "string " ++ Text.quoted value
  | sequence => "sequence"
  | map => "map"

end Found

namespace Wanted

/-- The words for what was wanted. -/
def describe : Wanted → String
  | string => "a string"
  | boolean => "a boolean"
  | sequence => "a sequence"
  | int32 => "i32"
  | real => "f64"
  | variantName => "variant identifier"
  | record name => "struct " ++ name
  | taggedUnion name => "internally tagged enum " ++ name

end Wanted

namespace Shape

/-- A number of elements; only one is in the singular. -/
def elements (count : Nat) : String :=
  String.ofList (Nat.toDigits 10 count) ++ (if count = 1 then " element" else " elements")

/-- The words for how much was wanted. -/
def describe : Shape → String
  | sequence count => elements count ++ " in sequence"
  | record name count => name ++ " with " ++ elements count

end Shape

namespace Fault

/-- The wording of a cause. -/
def message : Fault → String
  | endInValue => "EOF while parsing a value"
  | endInList => "EOF while parsing a list"
  | endInObject => "EOF while parsing an object"
  | endInString => "EOF while parsing a string"
  | wantedColon => "expected `:`"
  | wantedCommaOrBracket => "expected `,` or `]`"
  | wantedCommaOrBrace => "expected `,` or `\x7d`"
  | wantedWord => "expected ident"
  | wantedValue => "expected value"
  | invalidEscape => "invalid escape"
  | invalidNumber => "invalid number"
  | numberOutOfRange => "number out of range"
  | loneSurrogate => "lone leading surrogate in hex escape"
  | unfinishedSurrogatePair => "unexpected end of hex escape"
  | controlCharacter => "control character (\\u0000-\\u001F) found while parsing a string"
  | nameNotString => "key must be a string"
  | trailingComma => "trailing comma"
  | trailingCharacters => "trailing characters"
  | tooDeep => "recursion limit exceeded"
  | invalidType found wanted =>
      "invalid type: " ++ found.describe ++ ", expected " ++ wanted.describe
  | invalidInteger value wanted =>
      "invalid value: " ++ (Found.number (.integer value)).describe ++ ", expected " ++
        wanted.describe
  | invalidLength given wanted =>
      "invalid length " ++ String.ofList (Nat.toDigits 10 given) ++ ", expected " ++
        wanted.describe
  | missingField name => "missing field `" ++ name ++ "`"
  | duplicateField name => "duplicate field `" ++ name ++ "`"

end Fault

namespace Position

/-- The place after the first `count` bytes of a text, or after the whole text if it is
    shorter. -/
def after (text : String) (count : Nat) : Position :=
  let taken := text.toUTF8.toList.take count
  { line := 1 + taken.count 10
    column := (taken.reverse.takeWhile (· ≠ 10)).length }

/-- The wording of a place, as it ends a message. -/
def describe (p : Position) : String :=
  " at line " ++ String.ofList (Nat.toDigits 10 p.line) ++ " column " ++
    String.ofList (Nat.toDigits 10 p.column)

end Position

namespace DecodeError

/-- The wording of the cause, followed by the place if there is one. -/
def message (e : DecodeError) : String :=
  e.fault.message ++ (e.position.elim "" Position.describe)

end DecodeError

end ControlChannel
