import ControlChannel.Text.Blank

/-!
# Settings

The limits of a transport, as variables set them. A variable holds a positive numeral: digits,
perhaps after a plus sign, perhaps between white space. The first variable that holds anything else
is refused, with its text as it stands.
-/

namespace ControlChannel

/-- The limits of a transport. -/
structure Config where
  /-- The number of frames that wait for a socket. -/
  sendBuffer : Nat := 256
  /-- The number of bytes that an inbound text may have. -/
  maxInboundBytes : Nat := 65536
  /-- The frame height that an endpoint takes before it asks for one. -/
  maxFrameHeight : Int32 := 2160
  deriving DecidableEq, Repr

/-- A setting that a variable can change. -/
inductive Setting where
  | sendBuffer
  | maxInboundBytes
  | maxFrameHeight
  deriving DecidableEq, Repr

namespace Setting

/-- The variable that holds a setting. -/
def variableName : Setting → String
  | sendBuffer => "BRIDGE_SOCKET_SEND_BUFFER"
  | maxInboundBytes => "BRIDGE_MAX_INBOUND_MESSAGE_BYTES"
  | maxFrameHeight => "BRIDGE_DEFAULT_MAX_FRAME_HEIGHT"

/-- The greatest value of a setting: that of a word of 64 bits, or of a signed one of 32. -/
def greatest : Setting → Nat
  | sendBuffer | maxInboundBytes => UInt64.size - 1
  | maxFrameHeight => 2147483647

end Setting

/-- A variable that does not hold a value of its setting. -/
structure ConfigError where
  setting : Setting
  value : String
  deriving DecidableEq, Repr

namespace ConfigError

/-- The wording of the error. -/
def message (e : ConfigError) : String :=
  "Invalid configuration value for " ++ e.setting.variableName ++ ": " ++ e.value

end ConfigError

/-- The number that decimal digits write; none if a character is no digit, or there is none. -/
def decimal? (digits : List Char) : Option Nat :=
  if digits ≠ [] ∧ digits.all Char.isDigit then
    some (digits.foldl (fun n d => n * 10 + (d.toNat - '0'.toNat)) 0)
  else none

/-- The positive number, `greatest` at most, that a text holds. -/
def positive? (greatest : Nat) (text : String) : Option Nat :=
  let digits :=
    match Text.trim text.toList with
    | '+' :: rest => rest
    | other => other
  (decimal? digits).filter fun n => 0 < n ∧ n ≤ greatest

namespace Setting

/-- The value that the variables give a setting, if its variable is there. -/
def read (vars : String → Option String) (setting : Setting) : Except ConfigError (Option Nat) :=
  match vars setting.variableName with
  | none => .ok none
  | some text =>
      match positive? setting.greatest text with
      | some n => .ok (some n)
      | none => .error ⟨setting, text⟩

end Setting

namespace Config

/-- The limits that the variables set; a variable that is not there leaves its default. -/
def ofVars (vars : String → Option String) : Except ConfigError Config := do
  let buffer ← Setting.sendBuffer.read vars
  let bytes ← Setting.maxInboundBytes.read vars
  let height ← Setting.maxFrameHeight.read vars
  let default : Config := {}
  pure
    { sendBuffer := buffer.getD default.sendBuffer
      maxInboundBytes := bytes.getD default.maxInboundBytes
      maxFrameHeight := (height.map fun n => Int32.ofNat n).getD default.maxFrameHeight }

end Config

end ControlChannel
