import ControlChannel.Json.Stop

/-!
# String literals

Reading a string turns its escapes into characters: a pair of surrogate escapes is one character,
and a surrogate outside such a pair is refused. Skipping a string checks the form of its escapes
only.
-/

namespace ControlChannel

namespace StringLiteral

/-- The value of a digit in base sixteen. -/
def hexValue (c : Char) : Option Nat :=
  if c.isDigit then some (c.toNat - '0'.toNat)
  else if 'a' ≤ c ∧ c ≤ 'f' then some (c.toNat - 'a'.toNat + 10)
  else if 'A' ≤ c ∧ c ≤ 'F' then some (c.toNat - 'A'.toNat + 10)
  else none

/-- The value of four digits in base sixteen. -/
def hexValue4 (a b c d : Char) : Option Nat := do
  pure (((← hexValue a) * 16 + (← hexValue b)) * 256 + ((← hexValue c) * 16 + (← hexValue d)))

/-- Four digits that are not all in base sixteen are refused together; a text that ends before
    four bytes is refused at its end. -/
def hexStop (s : List Char) : Stop :=
  if byteCount s < 4 then .after .endInString [] else ⟨.invalidEscape, s, 4⟩

/-- The four digits of a character code. -/
def readHex : Reader Nat := fun s =>
  match s with
  | a :: b :: c :: d :: rest =>
      match hexValue4 a b c d with
      | some n => .ok (n, rest)
      | none => .error (hexStop s)
  | _ => .error (hexStop s)

/-- The code belongs to the first half of a surrogate pair. -/
def isHighSurrogate (n : Nat) : Bool :=
  0xD800 ≤ n && n ≤ 0xDBFF

/-- The code belongs to the second half of a surrogate pair. -/
def isLowSurrogate (n : Nat) : Bool :=
  0xDC00 ≤ n && n ≤ 0xDFFF

/-- The second half of a surrogate pair, in front of a text, completed to a character. -/
def readLowSurrogate (high : Nat) : Reader Char
  | [] | ['\\'] => .error (.on .endInString [])
  | '\\' :: 'u' :: rest => do
      let (low, rest) ← readHex rest
      if isLowSurrogate low then
        pure (Char.ofNat (0x10000 + (high - 0xD800) * 0x400 + (low - 0xDC00)), rest)
      else .error (.after .loneSurrogate rest)
  | '\\' :: rest => .error (.on .unfinishedSurrogatePair rest)
  | rest => .error (.on .unfinishedSurrogatePair rest)

/-- The character that an escape with a code stands for, after its `u`. -/
def readCode : Reader Char := fun s => do
  let (code, rest) ← readHex s
  if isLowSurrogate code then .error (.after .loneSurrogate rest)
  else if isHighSurrogate code then readLowSurrogate code rest
  else pure (Char.ofNat code, rest)

/-- The character that an escape of one letter stands for. -/
def simpleEscape : Char → Option Char
  | '"' => some '"'
  | '\\' => some '\\'
  | '/' => some '/'
  | 'b' => some '\x08'
  | 'f' => some '\x0c'
  | 'n' => some '\n'
  | 'r' => some '\r'
  | 't' => some '\t'
  | _ => none

/-- The character that an escape stands for, after its backslash. -/
def readEscape : Reader Char
  | [] => .error (.on .endInString [])
  | 'u' :: rest => readCode rest
  | c :: rest =>
      match simpleEscape c with
      | some e => .ok (e, rest)
      | none => .error (.on .invalidEscape (c :: rest))

/-- A character that a string cannot hold as it is. -/
def isControl (c : Char) : Bool :=
  c.toNat < 0x20

/-- The characters of a string up to its closing mark, added in reverse to those read before. The
    first list is the budget. -/
def readChars (read : List Char) : List Char → Reader (List Char)
  | [], s => .error (.on .endInString s)
  | _, [] => .error (.on .endInString [])
  | _, '"' :: rest => .ok (read.reverse, rest)
  | _ :: budget, '\\' :: rest => do
      let (c, rest) ← readEscape rest
      readChars (c :: read) budget rest
  | _ :: budget, c :: rest =>
      if isControl c then .error (.on .controlCharacter (c :: rest))
      else readChars (c :: read) budget rest

/-- Takes an escape after its backslash. -/
def skipEscape : List Char → Except Stop (List Char)
  | [] => .error (.on .endInString [])
  | 'u' :: rest => do
      let (_, rest) ← readHex rest
      pure rest
  | c :: rest =>
      if (simpleEscape c).isSome then .ok rest else .error (.on .invalidEscape (c :: rest))

/-- Takes the characters of a string and its closing mark. The first list is the budget. -/
def skipChars : List Char → List Char → Except Stop (List Char)
  | [], s => .error (.on .endInString s)
  | _, [] => .error (.on .endInString [])
  | _, '"' :: rest => .ok rest
  | _ :: budget, '\\' :: rest => do
      let rest ← skipEscape rest
      skipChars budget rest
  | _ :: budget, c :: rest =>
      if isControl c then .error (.after .controlCharacter (c :: rest))
      else skipChars budget rest

end StringLiteral

/-- The string whose opening mark was taken. -/
def readString : Reader String := fun s => do
  let (cs, rest) ← StringLiteral.readChars [] s s
  pure (String.ofList cs, rest)

/-- Takes the string whose opening mark was taken. -/
def skipString (s : List Char) : Except Stop (List Char) :=
  StringLiteral.skipChars s s

end ControlChannel
