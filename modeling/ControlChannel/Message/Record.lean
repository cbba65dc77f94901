import ControlChannel.Message.Field

/-!
# Records

A record gathers the members of an object into named fields. The members come in any order; one
that no field is named for is passed over or kept, as the record decides, and a field that is given
twice is a fault, found before the second value is looked at.
-/

namespace ControlChannel

/-- How the members of an object are gathered: whether a name was already given, and what becomes of
    a member. -/
structure Record (σ : Type) where
  given : σ → String → Bool
  put : σ → String → Json → Except Fault σ

namespace Record

/-- Gathers one member. -/
def enter {σ : Type} (record : Record σ) (fields : σ) (member : String × Json) : Except Fault σ :=
  if record.given fields member.1 then .error (.duplicateField member.1)
  else record.put fields member.1 member.2

/-- Gathers the members of an object, in their order. -/
def gather {σ : Type} (record : Record σ) (empty : σ) (members : List (String × Json)) :
    Except Fault σ :=
  members.foldlM record.enter empty

/-- The record of a single field; other members are passed over. -/
def single {α : Type} (field : String) (accept : Json → Except Fault α) : Record (Option α) where
  given := fun value name => name == field && value.isSome
  put := fun value name json => if name = field then some <$> accept json else .ok value

end Record

namespace VideoConstraints

/-- The members of a constraints object that were given so far. -/
structure Fields where
  idealHeight : Option Int32 := none
  preferredHeight : Option (Option Int32) := none
  preferredFps : Option (Option Float) := none

/-- The fields of constraints. -/
def record : Record Fields where
  given := fun fields name =>
    match name with
    | "idealHeight" => fields.idealHeight.isSome
    | "preferredHeight" => fields.preferredHeight.isSome
    | "preferredFps" => fields.preferredFps.isSome
    | _ => false
  put := fun fields name value =>
    match name with
    | "idealHeight" => do pure { fields with idealHeight := some (← Field.int32 value) }
    | "preferredHeight" => do
        pure { fields with preferredHeight := some (← Field.optional Field.int32 value) }
    | "preferredFps" => do
        pure { fields with preferredFps := some (← Field.optional Field.real value) }
    | _ => .ok fields

/-- A field is named so. -/
def isField (name : String) : Bool :=
  name == "idealHeight" || name == "preferredHeight" || name == "preferredFps"

/-- The constraints that the fields make; only the ideal height has to be given. -/
def ofFields (fields : Fields) : Except Fault VideoConstraints :=
  match fields.idealHeight with
  | none => .error (.missingField "idealHeight")
  | some height => .ok ⟨height, fields.preferredHeight.join, fields.preferredFps.join⟩

/-- The length that a list of constraints' values should have. -/
def shape : Shape := .record "struct VideoConstraints" 3

/-- The constraints whose values stand in a list, in the order of the fields. -/
def ofItems : List Json → Except Fault VideoConstraints
  | [] => .error (.invalidLength 0 shape)
  | height :: rest => do
      let height ← Field.int32 height
      let preferredHeight ← (rest[0]?.map (Field.optional Field.int32)).getD (.ok none)
      let preferredFps ← (rest[1]?.map (Field.optional Field.real)).getD (.ok none)
      if 2 < rest.length then .error (.invalidLength (rest.length + 1) (.sequence 3))
      else pure ⟨height, preferredHeight, preferredFps⟩

/-- What a value that is no constraints was wanted for. -/
def wanted : Wanted := .record "VideoConstraints"

/-- The constraints that a value writes, as an object or as a list. -/
def ofJson : Json → Except Fault VideoConstraints
  | .object members => do ofFields (← record.gather {} members)
  | .array items => ofItems items
  | value => Field.refuse value wanted

end VideoConstraints

namespace EndpointMessage

/-- The members of an endpoint message that were given so far; those of the payload, latest
    first. -/
structure Fields where
  sender : Option (Option String) := none
  recipient : Option (Option String) := none
  payload : List (String × Json) := []

/-- The fields of an endpoint message. All other members make its payload. -/
def record : Record Fields where
  given := fun fields name =>
    match name with
    | "from" => fields.sender.isSome
    | "to" => fields.recipient.isSome
    | _ => false
  put := fun fields name value =>
    match name with
    | "from" => do pure { fields with sender := some (← Field.optional Field.string value) }
    | "to" => do pure { fields with recipient := some (← Field.optional Field.string value) }
    | _ => .ok { fields with payload := (name, value) :: fields.payload }

/-- A field is named so. -/
def isField (name : String) : Bool :=
  name == "from" || name == "to"

/-- The message that the fields make; none has to be given. -/
def ofFields (fields : Fields) : EndpointMessage :=
  ⟨fields.sender.join, fields.recipient.join, .ofMembers fields.payload.reverse⟩

/-- What a value that is no endpoint message was wanted for. -/
def wanted : Wanted := .record "EndpointMessage"

/-- The message that the members of an object make. -/
def ofMembers (members : List (String × Json)) : Except Fault EndpointMessage :=
  ofFields <$> record.gather {} members

end EndpointMessage

end ControlChannel
