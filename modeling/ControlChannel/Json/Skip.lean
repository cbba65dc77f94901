import ControlChannel.Json.Reader

/-!
# Skipping values

A value that nobody wants is taken without being read. Only its form counts: brackets may nest to
any depth, a number may have any size, and escapes in a string need not make characters. The
brackets that are open stand on a stack.
-/

namespace ControlChannel

/-- A bracket that is open. -/
inductive Bracket where
  | list
  | object
  deriving DecidableEq, Repr

namespace Bracket

/-- The character that closes the bracket. -/
def close : Bracket → Char
  | list => ']'
  | object => '\x7d'

/-- The fault of a text that ends inside the bracket. -/
def endFault : Bracket → Fault
  | list => .endInList
  | object => .endInObject

/-- The fault of a character that can stand neither after an element nor close the bracket. -/
def elementFault : Bracket → Fault
  | list => .wantedCommaOrBracket
  | object => .wantedCommaOrBrace

end Bracket

namespace Skip

/-- Takes a number by its form; a text that ends inside one is a malformed number here. -/
def number (s : List Char) : Except Stop (List Char) :=
  match Literal.scan s with
  | .ok (_, rest) => .ok rest
  | .error ⟨.endInValue, rest, extra⟩ => .error ⟨.invalidNumber, rest, extra⟩
  | .error stop => .error stop

/-- Takes a name and its colon. -/
def name (s : List Char) : Except Stop (List Char) :=
  match skipSpaces s with
  | [] => .error (.on .endInObject [])
  | '"' :: rest => do
      let rest ← skipString rest
      readColon rest
  | rest => .error (.on .nameNotString rest)

/-- Takes a scalar or an opening bracket. Told with the rest are the brackets that are open now,
    and whether an element stands in front of it. -/
def begin (stack : List Bracket) : Reader (Bool × List Bracket) := fun s =>
  match skipSpaces s with
  | [] => .error (.on .endInValue [])
  | 'n' :: rest => do
      let rest ← readWord ['u', 'l', 'l'] rest
      pure ((true, stack), rest)
  | 't' :: rest => do
      let rest ← readWord ['r', 'u', 'e'] rest
      pure ((true, stack), rest)
  | 'f' :: rest => do
      let rest ← readWord ['a', 'l', 's', 'e'] rest
      pure ((true, stack), rest)
  | '"' :: rest => do
      let rest ← skipString rest
      pure ((true, stack), rest)
  | '[' :: rest => .ok ((false, .list :: stack), rest)
  | '\x7b' :: rest => .ok ((false, .object :: stack), rest)
  | c :: rest =>
      if c = '-' || c.isDigit then do
        let rest ← number (c :: rest)
        pure ((true, stack), rest)
      else .error (.on .wantedValue (c :: rest))

/-- Takes all that the open brackets still need; `filled` says whether an element stands in front.
    The first list is the budget. -/
def finish : List Char → Bool → List Bracket → List Char → Except Stop (List Char)
  | _, _, [], s => .ok s
  | [], _, bracket :: _, s => .error (.on bracket.endFault s)
  | _ :: budget, filled, bracket :: stack, s =>
      match skipSpaces s with
      | [] => .error (.on bracket.endFault [])
      | c :: rest =>
          if c = bracket.close then finish budget true stack rest
          else do
            let rest ←
              if ¬ filled then pure (c :: rest)
              else if c = ',' then pure rest
              else .error (.on bracket.elementFault (c :: rest))
            let rest ← if bracket = .object then name rest else pure rest
            let ((filled, stack), rest) ← begin (bracket :: stack) rest
            finish budget filled stack rest

end Skip

/-- Takes the value in front of a text. -/
def skipValue (s : List Char) : Except Stop (List Char) := do
  let ((filled, stack), rest) ← Skip.begin [] s
  Skip.finish rest filled stack rest

end ControlChannel
