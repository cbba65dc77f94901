import ControlChannel.Json.Fault

/-!
# Where reading stops

A reader takes characters off the front of the text that is left. When it fails it names the
cause, the text it had left, and how many bytes of that text still count as taken: the byte that
gave offence is one of them.

A reader that goes round a loop takes at least one character each time. The text it starts from
therefore bounds the loop: it is handed on a second time, as a budget of which every round uses up
one character, and when the budget is used up then so is the text.
-/

namespace ControlChannel

/-- A failed reading: its cause, the text left, and how many bytes of it count as taken. -/
structure Stop where
  fault : Fault
  rest : List Char
  extra : Nat
  deriving DecidableEq, Repr

/-- Takes a value off the front of a text and tells what is left of the text, or stops. -/
abbrev Reader (α : Type) := List Char → Except Stop (α × List Char)

/-- The number of bytes of a text in UTF-8 form. -/
def byteCount (cs : List Char) : Nat :=
  cs.foldr (fun c count => c.utf8Size + count) 0

namespace Stop

/-- Stopped by the byte in front of the text left. -/
def on (fault : Fault) (rest : List Char) : Stop := ⟨fault, rest, 1⟩

/-- Stopped by what was taken before the text left. -/
def after (fault : Fault) (rest : List Char) : Stop := ⟨fault, rest, 0⟩

/-- The place of a stop in the whole text. -/
def position (text : String) (stop : Stop) : Position :=
  .after text (text.utf8ByteSize - byteCount stop.rest + stop.extra)

/-- The error that a stop in a text amounts to. -/
def error (text : String) (stop : Stop) : DecodeError :=
  ⟨stop.fault, some (stop.position text)⟩

end Stop

end ControlChannel
