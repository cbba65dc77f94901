import ControlChannel.Proofs.Json.RoundTrip
import ControlChannel.Proofs.Message.Envelope
import ControlChannel.Proofs.Message.Record

/-!
# Messages over the wire

The text of a message is read back as that message, if its numbers are integers that every reader
takes, its brackets do not nest too deep, and its payload stays clear of the names that a message
has a use for. Whatever can be read is such a message: reading brings a message into a form that
writing and reading again do not change.
-/

namespace ControlChannel

namespace Field

theorem optional_string_ofOption (id : Option String) :
    optional string (.ofOption id) = .ok id := by
  cases id <;> rfl

theorem strings_ofStrings (ids : List String) : strings (.ofStrings ids) = .ok ids := by
  have taken : (ids.map Json.string).mapM string = .ok ids := by
    induction ids with
    | nil => rfl
    | cons id ids ih => simp [string, ih]
  exact taken

theorem int32_ofInt32 (n : Int32) : int32 (.ofInt32 n) = .ok n := by
  rw [Json.ofInt32, int32, if_pos ⟨Int32.minValue_le_toInt n, Int32.toInt_le n⟩, Int32.ofInt_toInt]

end Field

namespace Body

theorem one_single {α : Type} {kind : Kind} {field : String} {accept : Json → Except Fault α}
    {absent : Option α} {value : Json} {a : α} (h : accept value = .ok a) :
    one kind field accept absent (.named [(field, value)]) = .ok a := by
  simp [one, Record.gather, Record.enter, Record.single, h]

end Body

namespace VideoConstraints

theorem record_put_idealHeight (fields : Fields) (n : Int32) :
    record.put fields "idealHeight" (.ofInt32 n) = .ok { fields with idealHeight := some n } := by
  show (do pure { fields with idealHeight := some (← Field.int32 (.ofInt32 n)) }) = _
  rw [Field.int32_ofInt32]
  rfl

theorem record_put_preferredHeight (fields : Fields) (n : Int32) :
    record.put fields "preferredHeight" (.ofInt32 n) =
      .ok { fields with preferredHeight := some (some n) } := by
  show (do pure { fields with
    preferredHeight := some (← some <$> Field.int32 (.ofInt32 n)) }) = _
  rw [Field.int32_ofInt32]
  rfl

theorem ofJson_toJson {c : VideoConstraints} (h : c.preferredFps = none) :
    ofJson c.toJson = .ok c := by
  obtain ⟨height, preferred, fps⟩ := c
  obtain rfl : fps = none := h
  have gathered : record.gather {} (("idealHeight", .ofInt32 height) ::
      (preferred.toList.map fun n => ("preferredHeight", .ofInt32 n))) =
      .ok { idealHeight := some height, preferredHeight := preferred.map some } := by
    refine Record.gather_cons.2 ⟨_, rfl, record_put_idealHeight {} height, ?_⟩
    cases preferred with
    | none => rfl
    | some n => exact Record.gather_cons.2 ⟨_, rfl, record_put_preferredHeight _ n, rfl⟩
  have joined : (preferred.map some).join = preferred := by cases preferred <;> rfl
  simp [toJson, ofJson, gathered, ofFields, joined]

end VideoConstraints

namespace Json

/-- The text of the value is read back by a reader that goes `limit` deep. -/
def Returns (limit : Nat) (value : Json) : Prop :=
  value.IsIntegral ∧ value.depth ≤ limit

theorem returns_object {limit : Nat} {members : List (String × Json)} :
    (Json.object members).Returns (limit + 1) ↔ ∀ member ∈ members, member.2.Returns limit := by
  rw [Returns, IsIntegral, everywhere_object, depth_object_le]
  constructor
  · rintro ⟨⟨-, integral⟩, shallow⟩ member mem
    exact ⟨integral member mem, shallow member mem⟩
  · intro h
    exact ⟨⟨trivial, fun member mem => (h member mem).1⟩, fun member mem => (h member mem).2⟩

theorem returns_string (limit : Nat) (text : String) : (Json.string text).Returns limit :=
  ⟨trivial, Nat.zero_le _⟩

theorem returns_ofOption (limit : Nat) (id : Option String) : (Json.ofOption id).Returns limit := by
  cases id with
  | none => exact ⟨trivial, Nat.zero_le _⟩
  | some id => exact returns_string limit id

theorem returns_ofStrings (limit : Nat) (ids : List String) :
    (Json.ofStrings ids).Returns (limit + 1) := by
  constructor
  · refine everywhere_array.2 ⟨trivial, fun item mem => ?_⟩
    obtain ⟨id, -, rfl⟩ := List.mem_map.1 mem
    trivial
  · refine depth_array_le.2 fun item mem => ?_
    obtain ⟨id, -, rfl⟩ := List.mem_map.1 mem
    exact Nat.zero_le _

theorem returns_ofInt32 (limit : Nat) (n : Int32) : (Json.ofInt32 n).Returns limit := by
  have least : (-2147483648 : Int) ≤ n.toInt := Int32.minValue_le_toInt n
  have greatest : n.toInt ≤ 2147483647 := Int32.toInt_le n
  refine ⟨⟨?_, ?_⟩, Nat.zero_le _⟩
  · have wider : -((UInt64.size / 2 : Nat) : Int) ≤ -2147483648 := by decide
    exact Int.le_trans wider least
  · have wider : (2147483647 : Int) < (UInt64.size : Int) := by decide
    exact Int.lt_of_le_of_lt greatest wider

end Json

theorem VideoConstraints.returns_toJson {limit : Nat} {c : VideoConstraints}
    (h : c.preferredFps = none) : c.toJson.Returns (limit + 1) := by
  obtain ⟨height, preferred, fps⟩ := c
  obtain rfl : fps = none := h
  refine Json.returns_object.2 (List.forall_mem_cons.2 ⟨Json.returns_ofInt32 _ height, ?_⟩)
  intro member mem
  obtain ⟨n, -, rfl⟩ :
      ∃ n, n ∈ preferred.toList ∧ ("preferredHeight", Json.ofInt32 n) = member := by
    simpa using mem
  exact Json.returns_ofInt32 _ n

namespace Message

/-- The names that a message has a use for itself; a payload that has them would be mistaken. -/
def reservedNames : List String := [classField, "from", "to"]

/-- The text of the message gives it back. The conditions are on what the message carries through
    unread and on floating-point values, for which reading may take a neighbouring one. -/
def IsExact : Message → Prop
  | endpointMessage m =>
      (∀ member ∈ m.payload.members, member.1 ∉ reservedNames) ∧
        (Json.object m.payload.members).IsIntegral ∧
        (Json.object m.payload.members).depth ≤ Json.depthLimit
  | senderVideoConstraints c => c.preferredFps = none
  | _ => True

theorem IsExact.payload {m : EndpointMessage} (h : (endpointMessage m).IsExact)
    {member : String × Json} (mem : member ∈ m.payload.members) :
    member.1 ≠ classField ∧ EndpointMessage.isField member.1 = false ∧
      member.2.Returns (Json.depthLimit - 1) := by
  obtain ⟨apart, integral, shallow⟩ := h
  have free : member.1 ≠ classField ∧ member.1 ≠ "from" ∧ member.1 ≠ "to" := by
    simpa [reservedNames] using apart member mem
  refine ⟨free.1, by simp [EndpointMessage.isField, free.2], ?_⟩
  exact Json.returns_object.1 ⟨integral, shallow⟩ member mem

/-- No member after the class is a class, and every one of them is read back. -/
theorem IsExact.members {m : Message} (h : m.IsExact) :
    ∀ member ∈ m.members, member.1 ≠ classField ∧ member.2.Returns (Json.depthLimit - 1) := by
  have single {name : String} {value : Json} (apart : name ≠ classField)
      (returns : value.Returns (Json.depthLimit - 1)) :
      ∀ member ∈ [(name, value)], member.1 ≠ classField ∧
        member.2.Returns (Json.depthLimit - 1) := by
    simpa using ⟨apart, returns⟩
  have optional (name : String) (apart : name ≠ classField) (id : Option String) :
      ∀ member ∈ id.toList.map fun id => (name, Json.string id),
        member.1 ≠ classField ∧ member.2.Returns (Json.depthLimit - 1) := by
    intro member mem
    obtain ⟨id, -, rfl⟩ := List.mem_map.1 mem
    exact ⟨apart, Json.returns_string _ id⟩
  cases m with
  | clientHello => simp [Message.members]
  | serverHello version => exact optional "version" (by decide) version
  | pinnedEndpoint id => exact single (by decide) (Json.returns_ofOption _ id)
  | pinnedEndpoints ids => exact single (by decide) (Json.returns_ofStrings _ ids)
  | selectedEndpoint id => exact single (by decide) (Json.returns_ofOption _ id)
  | selectedEndpoints ids => exact single (by decide) (Json.returns_ofStrings _ ids)
  | receiverVideoConstraint height => exact single (by decide) (Json.returns_ofInt32 _ height)
  | lastN value => exact single (by decide) (Json.returns_ofInt32 _ value)
  | endpointMessage m =>
    intro member mem
    rcases List.mem_append.1 mem with mem | mem
    · rcases List.mem_append.1 mem with mem | mem
      · exact optional "from" (by decide) m.sender member mem
      · exact optional "to" (by decide) m.recipient member mem
    · obtain ⟨apart, -, returns⟩ := h.payload mem
      exact ⟨apart, returns⟩
  | dominantSpeaker id => exact single (by decide) (Json.returns_string _ id)
  | connectivityStatus id active =>
    have apart : "endpoint" ≠ classField := by decide
    exact List.forall_mem_cons.2 ⟨⟨apart, Json.returns_string _ id⟩,
      single (by decide) ⟨trivial, Nat.zero_le _⟩⟩
  | lastNEndpoints ids => exact single (by decide) (Json.returns_ofStrings _ ids)
  | senderVideoConstraints c =>
    exact single (by decide) (VideoConstraints.returns_toJson h)
  | unknown => simp [Message.members]

/-- The members of a message make it again. -/
theorem ofEnvelope_members {m : Message} (h : m.IsExact) :
    ofEnvelope ⟨m.kind.name, .named m.members⟩ = .ok m := by
  rw [ofEnvelope, Kind.ofName_name]
  cases m with
  | clientHello => rfl
  | serverHello version => cases version <;> rfl
  | pinnedEndpoint id =>
    simp only [kind, Message.members, ofBody, Body.one_single (Field.optional_string_ofOption id),
      map_ok]
  | pinnedEndpoints ids =>
    simp only [kind, Message.members, ofBody, Body.one_single (Field.strings_ofStrings ids), map_ok]
  | selectedEndpoint id =>
    simp only [kind, Message.members, ofBody, Body.one_single (Field.optional_string_ofOption id),
      map_ok]
  | selectedEndpoints ids =>
    simp only [kind, Message.members, ofBody, Body.one_single (Field.strings_ofStrings ids), map_ok]
  | receiverVideoConstraint height =>
    simp only [kind, Message.members, ofBody, Body.one_single (Field.int32_ofInt32 height), map_ok]
  | lastN value =>
    simp only [kind, Message.members, ofBody, Body.one_single (Field.int32_ofInt32 value), map_ok]
  | endpointMessage m =>
    have back := EndpointMessage.ofMembers_members fun member mem => (h.payload mem).2.1
    simp only [kind, Message.members, ofBody, Body.endpointMessage, back, map_ok]
  | dominantSpeaker id => rfl
  | connectivityStatus id active => rfl
  | lastNEndpoints ids =>
    simp only [kind, Message.members, ofBody, Body.one_single (Field.strings_ofStrings ids), map_ok]
  | senderVideoConstraints c =>
    simp only [kind, Message.members, ofBody, Body.one_single (VideoConstraints.ofJson_toJson h),
      map_ok]
  | unknown => rfl

/-- The object that writes a message is the message's envelope. -/
theorem envelope_toJson {m : Message} (h : m.IsExact) :
    Envelope.ofJson m.toJson = some ⟨m.kind.name, .named m.members⟩ := by
  have apart : ∀ member ∈ m.members, ¬ member.1 = classField := fun member mem =>
    (h.members member mem).1
  have none : m.members.filter (·.1 = classField) = [] := by simpa using apart
  have all : m.members.filter (·.1 ≠ classField) = m.members := by simpa using apart
  refine Envelope.ofJson_object.2 ⟨by simp [none], ?_⟩
  rw [List.filter_cons_of_neg (by simp), all]

/-- The text of a message is read as the object that writes it. -/
theorem ofText_encode {m : Message} (h : m.IsExact) : Json.ofText m.encode = .ok m.toJson := by
  have returns : m.toJson.Returns Json.depthLimit := Json.returns_object.2
    (List.forall_mem_cons.2 ⟨Json.returns_string _ _, fun member mem => (h.members member mem).2⟩)
  exact Json.ofText_toText returns.1 returns.2

/-- The text of a message gives the message back. -/
theorem decode_encode {m : Message} (h : m.IsExact) : decode m.encode = .ok m :=
  decode_of_object (ofText_encode h) (envelope_toJson h) (ofEnvelope_members h)

/-- Reading undoes writing, and the text is an object that has its class in front. -/
theorem encode_roundTrip (m : Message) (h : m.IsExact) :
    decode m.encode = .ok m ∧
      ∃ members, Json.ofText m.encode =
        .ok (.object (("colibriClass", .string m.kind.name) :: members)) :=
  ⟨decode_encode h, m.members, ofText_encode h⟩

/-- A message whose payload has a name to be escaped, the greatest of the integers, and a reserved
    name where it does no harm. -/
def nestedMessage : Message :=
  endpointMessage ⟨some "a", none,
    .ofMembers [("b\n", .array [.object [("from", .number (.integer 18446744073709551615))]])]⟩

theorem encode_roundTrip_nested :
    nestedMessage.IsExact ∧ decode nestedMessage.encode = .ok nestedMessage ∧
      ∃ members, Json.ofText nestedMessage.encode =
        .ok (.object (("colibriClass", .string nestedMessage.kind.name) :: members)) := by
  have exact : nestedMessage.IsExact := by
    refine ⟨?_, ?_, ?_⟩
    · intro member mem
      obtain ⟨source, inMembers, rfl⟩ := Json.of_mem_canonicalMembers_nil mem
      obtain rfl := List.mem_singleton.1 inMembers
      decide
    · simp [Json.IsIntegral, Json.Everywhere, Json.EverywhereMembers, Json.EverywhereItems,
        Json.NumberFits, Payload.ofMembers, Json.canonicalMembers, Json.canonical,
        Json.canonicalItems, insertEntry, UInt64.size]
    · decide
  exact ⟨exact, encode_roundTrip nestedMessage exact⟩

end Message

end ControlChannel
