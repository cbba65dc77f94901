import ControlChannel.Json.Skip
import ControlChannel.Message.Envelope

/-!
# Reading messages

A text is read into its envelope first, so that every fault of the text itself comes before any
fault of its content; then the class is looked into, and its fields are taken from the body. An
endpoint message or constraints that stand alone are read field by field, so that a fault of their
content has a place in the text.
-/

namespace ControlChannel

namespace Kind

/-- The name that a fault of a kind's body gives the kind. -/
def variant : Kind → String
  | clientHello => "ClientHello"
  | serverHello => "ServerHello"
  | pinnedEndpoint => "PinnedEndpoint"
  | pinnedEndpoints => "PinnedEndpoints"
  | selectedEndpoint => "SelectedEndpoint"
  | selectedEndpoints => "SelectedEndpoints"
  | receiverVideoConstraint => "ReceiverVideoConstraint"
  | lastN => "LastN"
  | endpointMessage => "EndpointMessage"
  | dominantSpeaker => "DominantSpeaker"
  | connectivityStatus => "EndpointConnectivityStatus"
  | lastNEndpoints => "LastNEndpoints"
  | senderVideoConstraints => "SenderVideoConstraints"
  | unknown => "Unknown"

/-- The length that the list of a kind's values should have. -/
def shape (kind : Kind) (count : Nat) : Shape :=
  .record ("struct variant BridgeMessage::" ++ kind.variant) count

end Kind

namespace Body

/-- The body of a kind without fields: any object, or an empty list. -/
def empty : Body → Except Fault Unit
  | named _ => .ok ()
  | positional [] => .ok ()
  | positional items => .error (.invalidLength items.length (.sequence 0))

/-- The body of a kind with one field. A field that may be absent has a value for that case. -/
def one {α : Type} (kind : Kind) (field : String) (accept : Json → Except Fault α)
    (absent : Option α) : Body → Except Fault α
  | named members => do
      match ← (Record.single field accept).gather none members, absent with
      | some value, _ => pure value
      | none, some value => pure value
      | none, none => .error (.missingField field)
  | positional [] =>
      match absent with
      | some value => .ok value
      | none => .error (.invalidLength 0 (kind.shape 1))
  | positional (item :: rest) => do
      let value ← accept item
      if rest.isEmpty then pure value
      else .error (.invalidLength (rest.length + 1) (.sequence 1))

/-- The members of a connectivity notice that were given so far. -/
structure StatusFields where
  endpoint : Option String := none
  active : Option Bool := none

/-- The fields of a connectivity notice. -/
def statusRecord : Record StatusFields where
  given := fun fields name =>
    match name with
    | "endpoint" => fields.endpoint.isSome
    | "active" => fields.active.isSome
    | _ => false
  put := fun fields name value =>
    match name with
    | "endpoint" => do pure { fields with endpoint := some (← Field.string value) }
    | "active" => do pure { fields with active := some (← Field.boolean value) }
    | _ => .ok fields

/-- The body of a connectivity notice: an endpoint and whether it is active. -/
def status : Body → Except Fault (String × Bool)
  | named members => do
      let fields ← statusRecord.gather {} members
      match fields.endpoint, fields.active with
      | some id, some active => pure (id, active)
      | none, _ => .error (.missingField "endpoint")
      | some _, none => .error (.missingField "active")
  | positional items => do
      match items with
      | [] => .error (.invalidLength 0 (Kind.connectivityStatus.shape 2))
      | [id] => do
          let _ ← Field.string id
          .error (.invalidLength 1 (Kind.connectivityStatus.shape 2))
      | id :: active :: rest => do
          let id ← Field.string id
          let active ← Field.boolean active
          if rest.isEmpty then pure (id, active)
          else .error (.invalidLength (rest.length + 2) (.sequence 2))

/-- The body of an endpoint message, which can only be an object. -/
def endpointMessage : Body → Except Fault EndpointMessage
  | named members => EndpointMessage.ofMembers members
  | positional _ => .error (.invalidType .sequence EndpointMessage.wanted)

end Body

namespace Message

/-- The message of a kind with the given body. -/
def ofBody (kind : Kind) (body : Body) : Except Fault Message :=
  match kind with
  | .clientHello => (fun _ => clientHello) <$> body.empty
  | .serverHello =>
      serverHello <$> body.one kind "version" (Field.optional Field.string) (some none)
  | .pinnedEndpoint =>
      pinnedEndpoint <$> body.one kind "pinnedEndpoint" (Field.optional Field.string) (some none)
  | .pinnedEndpoints =>
      pinnedEndpoints <$> body.one kind "pinnedEndpoints" Field.strings (some [])
  | .selectedEndpoint =>
      selectedEndpoint <$>
        body.one kind "selectedEndpoint" (Field.optional Field.string) (some none)
  | .selectedEndpoints =>
      selectedEndpoints <$> body.one kind "selectedEndpoints" Field.strings (some [])
  | .receiverVideoConstraint =>
      receiverVideoConstraint <$> body.one kind "maxFrameHeight" Field.int32 none
  | .lastN => lastN <$> body.one kind "lastN" Field.int32 none
  | .endpointMessage => endpointMessage <$> body.endpointMessage
  | .dominantSpeaker =>
      dominantSpeaker <$> body.one kind "dominantSpeakerEndpoint" Field.string none
  | .connectivityStatus => (fun (id, active) => connectivityStatus id active) <$> body.status
  | .lastNEndpoints => lastNEndpoints <$> body.one kind "lastNEndpoints" Field.strings none
  | .senderVideoConstraints =>
      senderVideoConstraints <$> body.one kind "videoConstraints" VideoConstraints.ofJson none
  | .unknown => (fun _ => unknown) <$> body.empty

/-- The message that an envelope makes. -/
def ofEnvelope (envelope : Envelope) : Except Fault Message :=
  ofBody (Kind.ofName envelope.className) envelope.body

/-- The message that a text holds. -/
def decode (text : String) : Except DecodeError Message := do
  let (envelope, rest) ← (Envelope.read text.toList).mapError (Stop.error text)
  let message ← (ofEnvelope envelope).mapError fun fault => ⟨fault, none⟩
  (expectEnd rest).mapError (Stop.error text)
  pure message

end Message

/-- Reads what follows one name of a record that stands alone: a field that may come only once, or a
    member that `other` reads. -/
def Record.readEntry {σ : Type} (record : Record σ) (isField : String → Bool)
    (other : σ → String → Reader σ) (fields : σ) (name : String) : Reader σ := fun s =>
  if record.given fields name then .error (.after (.duplicateField name) (leaveObject s))
  else do
    let rest ← readColon s
    if isField name then Envelope.readField (record.put fields name) rest
    else other fields name rest

namespace EndpointMessage

/-- Reads the value of a member of the payload. -/
def readOther (fields : Fields) (name : String) : Reader Fields := fun s => do
  let (value, rest) ← Json.read Envelope.memberDepth s
  pure ({ fields with payload := (name, value) :: fields.payload }, rest)

/-- Reads the endpoint message in front of a text. -/
def read : Reader EndpointMessage := fun s =>
  match skipSpaces s with
  | '\x7b' :: rest => do
      let (fields, rest) ← readMembers (record.readEntry isField readOther) {} rest
      pure (ofFields fields, rest)
  | rest => Envelope.readField (fun value => Field.refuse value wanted) rest

/-- The endpoint message that a text holds. -/
def decode (text : String) : Except DecodeError EndpointMessage :=
  Except.mapError (Stop.error text) do
    let (message, rest) ← read text.toList
    expectEnd rest
    pure message

end EndpointMessage

namespace VideoConstraints

/-- Skips the value of a member that is no field. -/
def readOther (fields : Fields) (_ : String) : Reader Fields := fun s => do
  let rest ← skipValue s
  pure (fields, rest)

/-- Reads constraints after their opening brace. -/
def readNamed : Reader VideoConstraints := fun s => do
  let (fields, rest) ← readMembers (record.readEntry isField readOther) {} s
  match ofFields fields with
  | .ok constraints => pure (constraints, rest)
  | .error fault => .error (.after fault rest)

/-- Reads an item that a list may have; there is none if the closing bracket is in front. -/
def readItem {α : Type} (accept : Json → Except Fault α) : Reader (Option α) := fun s => do
  match ← nextItem false s with
  | none => pure (none, s)
  | some rest => do
      let (value, rest) ← Envelope.readField accept rest
      pure (some value, rest)

/-- Takes the closing bracket of a list that has all its items. -/
def closeList (s : List Char) : Except Stop (List Char) :=
  match skipSpaces s with
  | [] => .error (.on .endInList [])
  | ']' :: rest => .ok rest
  | ',' :: rest =>
      match skipSpaces rest with
      | ']' :: rest => .error (.on .trailingComma (']' :: rest))
      | rest => .error (.on .trailingCharacters rest)
  | rest => .error (.on .trailingCharacters rest)

/-- Reads constraints after their opening bracket. -/
def readPositional : Reader VideoConstraints := fun s => do
  match ← nextItem true s with
  | none => .error (.after (.invalidLength 0 shape) (leaveList s))
  | some rest => do
      let (height, rest) ← Envelope.readField Field.int32 rest
      let (preferredHeight, rest) ← readItem (Field.optional Field.int32) rest
      let (preferredFps, rest) ←
        if preferredHeight.isSome then readItem (Field.optional Field.real) rest
        else pure (none, rest)
      let rest ← closeList rest
      pure (⟨height, preferredHeight.join, preferredFps.join⟩, rest)

/-- Reads the constraints in front of a text. -/
def read : Reader VideoConstraints := fun s =>
  match skipSpaces s with
  | '\x7b' :: rest => readNamed rest
  | '[' :: rest => readPositional rest
  | rest => Envelope.readField (fun value => Field.refuse value wanted) rest

/-- The constraints that a text holds. -/
def decode (text : String) : Except DecodeError VideoConstraints :=
  Except.mapError (Stop.error text) do
    let (constraints, rest) ← read text.toList
    expectEnd rest
    pure constraints

end VideoConstraints

end ControlChannel
