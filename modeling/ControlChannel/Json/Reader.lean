import ControlChannel.Json.Literal
import ControlChannel.Json.StringLiteral

/-!
# Reading values

The grammar of values, one function for each of its forms. Items and members are read by loops
that leave it to the caller what an element or an entry is, so that a reader that wants a
certain field looks at it while the text is still being read, and stops where that field stops.
-/

namespace ControlChannel

/-- The characters that may stand between the parts of a value. -/
def isSpace (c : Char) : Bool :=
  c == ' ' || c == '\n' || c == '\t' || c == '\r'

/-- The text from its first character that is not a space. -/
def skipSpaces (s : List Char) : List Char :=
  s.dropWhile isSpace

/-- Takes a word letter by letter. -/
def readWord : List Char → List Char → Except Stop (List Char)
  | [], s => .ok s
  | _ :: _, [] => .error (.on .endInValue [])
  | w :: word, c :: rest =>
      if w = c then readWord word rest else .error (.on .wantedWord (c :: rest))

/-- Looks for an item of a list. `none`: the closing bracket is in front. Otherwise the text from
    the item on; the comma before it, which all items but the first have, is taken. -/
def nextItem (first : Bool) (s : List Char) : Except Stop (Option (List Char)) :=
  match skipSpaces s with
  | [] => .error (.on .endInList [])
  | ']' :: _ => .ok none
  | c :: rest =>
      if first then .ok (some (c :: rest))
      else if c = ',' then
        match skipSpaces rest with
        | [] => .error (.on .endInValue [])
        | ']' :: rest => .error (.on .trailingComma (']' :: rest))
        | rest => .ok (some rest)
      else .error (.on .wantedCommaOrBracket (c :: rest))

/-- Looks for a member of an object. `none`: the closing brace is in front. Otherwise the name and
    the text after it; the comma before it, which all members but the first have, is taken. -/
def nextName (first : Bool) (s : List Char) : Except Stop (Option (String × List Char)) :=
  match skipSpaces s with
  | [] => .error (.on .endInObject [])
  | '\x7d' :: _ => .ok none
  | c :: rest =>
      if first then
        if c = '"' then some <$> readString rest
        else .error (.on .nameNotString (c :: rest))
      else if c = ',' then
        match skipSpaces rest with
        | [] => .error (.on .endInValue [])
        | '"' :: rest => some <$> readString rest
        | '\x7d' :: rest => .error (.on .trailingComma ('\x7d' :: rest))
        | rest => .error (.on .nameNotString rest)
      else .error (.on .wantedCommaOrBrace (c :: rest))

/-- Takes the colon between a name and its value. -/
def readColon (s : List Char) : Except Stop (List Char) :=
  match skipSpaces s with
  | [] => .error (.on .endInObject [])
  | ':' :: rest => .ok rest
  | rest => .error (.on .wantedColon rest)

/-- The text left when a list is given up for a fault of its content: the closing bracket is taken
    if it is next. -/
def leaveList (s : List Char) : List Char :=
  match skipSpaces s with
  | ']' :: rest => rest
  | rest => rest

/-- The text left when an object is given up for a fault of its content: the closing brace is taken
    if it is next. -/
def leaveObject (s : List Char) : List Char :=
  match skipSpaces s with
  | '\x7d' :: rest => rest
  | rest => rest

/-- Goes round the items of a list and takes its closing bracket, `item` reading one at a time. The
    first list is the budget. -/
def itemLoop {σ : Type} (item : σ → Reader σ) : List Char → Bool → σ → Reader σ
  | [], _, _, s => .error (.on .endInList s)
  | _ :: budget, first, state, s => do
      match ← nextItem first s with
      | none => pure (state, leaveList s)
      | some rest => do
          let (state, rest) ← item state rest
          itemLoop item budget false state rest

/-- Reads the items that a list still has, and its closing bracket. -/
def readItems {σ : Type} (item : σ → Reader σ) (first : Bool) (state : σ) : Reader σ := fun s =>
  itemLoop item s first state s

/-- Goes round the members of an object and takes its closing brace, `entry` reading what follows
    each name. The first list is the budget. -/
def memberLoop {σ : Type} (entry : σ → String → Reader σ) : List Char → Bool → σ → Reader σ
  | [], _, _, s => .error (.on .endInObject s)
  | _ :: budget, first, state, s => do
      match ← nextName first s with
      | none => pure (state, leaveObject s)
      | some (name, rest) => do
          let (state, rest) ← entry state name rest
          memberLoop entry budget false state rest

/-- Reads the members of an object after its opening brace, and its closing brace. -/
def readMembers {σ : Type} (entry : σ → String → Reader σ) (state : σ) : Reader σ := fun s =>
  memberLoop entry s true state s

namespace Json

/-- Reads a value by its first character; `list` and `object` read on after an opening bracket or
    brace. -/
def readWith (list object : Reader Json) : Reader Json := fun s =>
  match skipSpaces s with
  | [] => .error (.on .endInValue [])
  | 'n' :: rest => do
      let rest ← readWord ['u', 'l', 'l'] rest
      pure (.null, rest)
  | 't' :: rest => do
      let rest ← readWord ['r', 'u', 'e'] rest
      pure (.boolean true, rest)
  | 'f' :: rest => do
      let rest ← readWord ['a', 'l', 's', 'e'] rest
      pure (.boolean false, rest)
  | '"' :: rest => do
      let (text, rest) ← readString rest
      pure (.string text, rest)
  | '[' :: rest => list rest
  | '\x7b' :: rest => object rest
  | c :: rest =>
      if c = '-' || c.isDigit then do
        let (n, rest) ← readNumber (c :: rest)
        pure (.number n, rest)
      else .error (.on .wantedValue (c :: rest))

/-- Reads an item and adds it to those read before. -/
def readItem (value : Reader Json) (items : List Json) : Reader (List Json) := fun s => do
  let (item, rest) ← value s
  pure (item :: items, rest)

/-- Reads a list after its opening bracket with the given reader of items. -/
def readList (value : Reader Json) : Reader Json := fun s => do
  let (items, rest) ← readItems (readItem value) true [] s
  pure (.array items.reverse, rest)

/-- Reads what follows a name, a colon and a value, and adds the member to those read before. -/
def readMember (value : Reader Json) (members : List (String × Json)) (name : String) :
    Reader (List (String × Json)) := fun s => do
  let rest ← readColon s
  let (item, rest) ← value rest
  pure ((name, item) :: members, rest)

/-- Reads an object after its opening brace with the given reader of values. -/
def readObject (value : Reader Json) : Reader Json := fun s => do
  let (members, rest) ← readMembers (readMember value) [] s
  pure (.object members.reverse, rest)

/-- Reads the value in front of a text, in which brackets may nest `depth` deep. -/
def read : Nat → Reader Json
  | 0 =>
      readWith (fun s => .error (.on .tooDeep ('[' :: s)))
        (fun s => .error (.on .tooDeep ('\x7b' :: s)))
  | depth + 1 => readWith (readList (read depth)) (readObject (read depth))

/-- Reads the value in front of a text unless it is a list or an object; of those it only tells
    which of the two comes, and takes nothing. -/
def readScalar : Reader Json :=
  readWith (fun s => .ok (.array [], '[' :: s)) (fun s => .ok (.object [], '\x7b' :: s))

/-- How deep the brackets of a text may nest. -/
def depthLimit : Nat := 127

end Json

/-- A text in front of which a value was read must have nothing but spaces left. -/
def expectEnd (s : List Char) : Except Stop Unit :=
  match skipSpaces s with
  | [] => .ok ()
  | rest => .error (.on .trailingCharacters rest)

/-- The value that a text holds. -/
def Json.ofText (text : String) : Except DecodeError Json :=
  Except.mapError (Stop.error text) do
    let (value, rest) ← Json.read Json.depthLimit text.toList
    expectEnd rest
    pure value

end ControlChannel
