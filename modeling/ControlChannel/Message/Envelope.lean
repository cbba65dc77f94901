import ControlChannel.Json.Reader
import ControlChannel.Message.Printer
import ControlChannel.Message.Record

/-!
# Envelopes

An envelope is a message as its text gives it, before the class is looked into: the class, and the
body that goes with it. An object holds its class in one member, wherever it stands, and all
other members are the body; a list holds the class first and the body after it.
-/

namespace ControlChannel

/-- What a message carries besides its class. -/
inductive Body where
  | named (members : List (String × Json))
  | positional (items : List Json)
  deriving BEq, Repr

/-- A message whose class is known but not looked into. -/
structure Envelope where
  className : String
  body : Body
  deriving BEq, Repr

namespace Envelope

/-- What a text that is no message was wanted for. -/
def wanted : Wanted := .taggedUnion "BridgeMessage"

/-- How deep brackets may nest inside a member. -/
def memberDepth : Nat := Json.depthLimit - 1

/-- Reads the value in front of a text by what a field accepts. A list or an object is refused
    before it is read. -/
def readField {α : Type} (accept : Json → Except Fault α) : Reader α := fun s => do
  let (value, rest) ← Json.readScalar s
  match accept value with
  | .ok a => pure (a, rest)
  | .error fault => .error (.after fault rest)

/-- Reads what follows one name of a message: its class, which may come only once, or a member of
    the body. -/
def readEntry (state : Option String × List (String × Json)) (name : String) :
    Reader (Option String × List (String × Json)) := fun s =>
  if name = Message.classField then
    if state.1.isSome then
      .error (.after (.duplicateField Message.classField) (leaveObject s))
    else do
      let rest ← readColon s
      let (className, rest) ← readField Field.className rest
      pure ((some className, state.2), rest)
  else do
    let (members, rest) ← Json.readMember (Json.read memberDepth) state.2 name s
    pure ((state.1, members), rest)

/-- Reads an envelope after its opening brace. -/
def readNamed : Reader Envelope := fun s => do
  let ((className, members), rest) ← readMembers readEntry (none, []) s
  match className with
  | some className => pure (⟨className, .named members.reverse⟩, rest)
  | none => .error (.after (.missingField Message.classField) rest)

/-- Reads an envelope after its opening bracket. -/
def readPositional : Reader Envelope := fun s => do
  match ← nextItem true s with
  | none => .error (.after (.missingField Message.classField) (leaveList s))
  | some rest => do
      let (className, rest) ← readField Field.className rest
      let (items, rest) ← readItems (Json.readItem (Json.read memberDepth)) false [] rest
      pure (⟨className, .positional items.reverse⟩, rest)

/-- Reads the envelope in front of a text. -/
def read : Reader Envelope := fun s =>
  match skipSpaces s with
  | '\x7b' :: rest => readNamed rest
  | '[' :: rest => readPositional rest
  | rest => readField (fun value => Field.refuse value wanted) rest

end Envelope

end ControlChannel
