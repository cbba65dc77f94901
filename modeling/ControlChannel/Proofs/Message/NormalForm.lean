import ControlChannel.Proofs.Message.RoundTrip

/-!
# What reading can produce

Every message that is read from a text can be written and read again. The payload of an endpoint
message is the point: it comes from an arbitrary text, with repeated members, in any order, and
leaves reading as a map that has none of the names of the message itself.
-/

namespace ControlChannel

open Record

theorem Kind.name_of_ofName {className : String} {kind : Kind} (h : Kind.ofName className = kind)
    (named : kind ≠ .unknown) : className = kind.name := by
  unfold Kind.ofName at h
  cases found : Kind.all.find? (·.name == className) with
  | none => exact absurd (by rw [← h, found]; rfl) named
  | some k =>
    rw [found] at h
    cases h
    exact (by simpa using List.find?_some found : k.name = className).symm

namespace Json

theorem Returns.canonical {limit : Nat} {value : Json} (h : value.Returns limit) :
    value.canonical.Returns limit :=
  ⟨h.1.canonical, depth_canonical_le h.2⟩

/-- The value of a text nests no deeper than the reader goes. -/
theorem returns_of_ofText {text : String} {value : Json} (h : ofText text = .ok value)
    (integral : value.IsIntegral) : value.Returns depthLimit := by
  obtain ⟨rest, valueRead, -⟩ := ofText_eq_ok.1 h
  exact ⟨integral, depth_le_of_read valueRead⟩

end Json

namespace Message

/-- A body makes a message of its own kind. -/
theorem kind_of_ofBody {kind : Kind} {body : Body} {m : Message} (h : ofBody kind body = .ok m) :
    m.kind = kind := by
  cases kind <;>
    · obtain ⟨_, -, rfl⟩ := map_eq_ok.1 h
      rfl

theorem ofBody_endpointMessage {kind : Kind} {body : Body} {e : EndpointMessage}
    (h : ofBody kind body = .ok (endpointMessage e)) :
    kind = .endpointMessage ∧ ∃ members, body = .named members ∧
      EndpointMessage.ofMembers members = .ok e := by
  obtain rfl := kind_of_ofBody h
  obtain ⟨_, made, same⟩ := map_eq_ok.1 h
  cases same
  cases body with
  | named members => exact ⟨rfl, members, rfl, made⟩
  | positional items => cases made

/-- The members besides the class and the fields of an endpoint message. -/
theorem filter_unreserved (members : List (String × Json)) :
    (members.filter (·.1 ≠ classField)).filter (!EndpointMessage.isField ·.1) =
      members.filter (·.1 ∉ reservedNames) := by
  rw [List.filter_filter]
  refine List.filter_congr fun member _ => ?_
  rw [Bool.eq_iff_iff]
  simp [reservedNames, EndpointMessage.isField, and_comm]

/-- An endpoint message is read from an object with one class, at most one sender and recipient, and
    all other members for a payload. -/
theorem endpointMessage_of_decode {text : String} {e : EndpointMessage}
    (h : decode text = .ok (endpointMessage e)) :
    ∃ members, Json.ofText text = .ok (.object members) ∧
      members.filter (·.1 = classField) = [(classField, .string Kind.endpointMessage.name)] ∧
      (∃ sender, Gives (Field.optional Field.string) "from" members sender ∧
        e.sender = sender.join) ∧
      (∃ recipient, Gives (Field.optional Field.string) "to" members recipient ∧
        e.recipient = recipient.join) ∧
      e.payload = .ofMembers (members.filter (·.1 ∉ reservedNames)) := by
  obtain ⟨value, envelope, held, enveloped, made⟩ := json_of_decode h
  obtain ⟨isEndpointMessage, body, named, made⟩ := ofBody_endpointMessage made
  obtain ⟨members, rfl⟩ := Envelope.object_of_named enveloped named
  obtain ⟨alone, same⟩ := Envelope.ofJson_object.1 enveloped
  obtain rfl : body = members.filter (·.1 ≠ classField) := by
    rw [named] at same
    exact Body.named.inj same
  obtain ⟨⟨sender, hsender, senderIs⟩, ⟨recipient, hrecipient, recipientIs⟩, payload⟩ :=
    EndpointMessage.ofMembers_eq_ok.1 made
  rw [Kind.name_of_ofName isEndpointMessage (by decide)] at alone
  refine ⟨members, held, alone, ⟨sender, ?_, senderIs⟩, ⟨recipient, ?_, recipientIs⟩, ?_⟩
  · exact hsender.of_filter (by decide)
  · exact hrecipient.of_filter (by decide)
  · rw [payload, filter_unreserved]

/-- The payload of a message that was read has no name that the message has a use for. -/
theorem payload_notMem_reservedNames {text : String} {e : EndpointMessage}
    (h : decode text = .ok (endpointMessage e)) {member : String × Json}
    (mem : member ∈ e.payload.members) : member.1 ∉ reservedNames := by
  obtain ⟨members, -, -, -, -, payload⟩ := endpointMessage_of_decode h
  rw [payload] at mem
  obtain ⟨source, inMembers, rfl⟩ := Json.of_mem_canonicalMembers_nil mem
  simpa using (List.mem_filter.1 inMembers).2

/-- The rate that a message asks for. -/
def preferredFps : Message → Option Float
  | senderVideoConstraints c => c.preferredFps
  | _ => none

/-- What was read from a text with integers only can be written and read again. -/
theorem isExact_of_decode {text : String} {m : Message} {value : Json} (h : decode text = .ok m)
    (held : Json.ofText text = .ok value) (integral : value.IsIntegral)
    (noRate : m.preferredFps = none) : m.IsExact := by
  cases m with
  | endpointMessage e =>
    obtain ⟨members, sameHeld, -, -, -, payload⟩ := endpointMessage_of_decode h
    obtain rfl : value = .object members := Except.ok.inj (held.symm.trans sameHeld)
    have inside := Json.returns_object.1 (Json.returns_of_ofText held integral)
    have carried : (Json.object e.payload.members).Returns Json.depthLimit := by
      refine Json.returns_object.2 fun member mem => ?_
      rw [payload] at mem
      obtain ⟨source, inMembers, rfl⟩ := Json.of_mem_canonicalMembers_nil mem
      exact (inside source (List.mem_filter.1 inMembers).1).canonical
    exact ⟨fun member mem => payload_notMem_reservedNames h mem, carried.1, carried.2⟩
  | senderVideoConstraints c => exact noRate
  | _ => trivial

/-! ## No name twice -/

end Message

namespace Json

theorem noRepeats_ofOption (id : Option String) : (Json.ofOption id).NoRepeats := by
  cases id <;> trivial

theorem noRepeats_ofStrings (ids : List String) : (Json.ofStrings ids).NoRepeats := by
  refine everywhere_array.2 ⟨trivial, fun item mem => ?_⟩
  obtain ⟨id, -, rfl⟩ := List.mem_map.1 mem
  trivial

end Json

theorem VideoConstraints.noRepeats_toJson (c : VideoConstraints) : c.toJson.NoRepeats := by
  obtain ⟨height, preferred, fps⟩ := c
  refine Json.everywhere_object.2 ⟨?_, fun member mem => ?_⟩
  · cases preferred <;> cases fps <;> simp [Json.NamesDistinct]
  · rcases List.mem_cons.1 mem with rfl | mem
    · trivial
    · rcases List.mem_append.1 mem with mem | mem
      · obtain ⟨n, -, rfl⟩ := List.mem_map.1 mem
        trivial
      · obtain ⟨x, -, rfl⟩ := List.mem_map.1 mem
        trivial

namespace EndpointMessage

/-- The names of the sender, the recipient and the payload are all different. -/
theorem nodup_members {m : EndpointMessage}
    (h : ∀ member ∈ m.payload.members, isField member.1 = false) :
    (m.members.map (·.1)).Nodup := by
  obtain ⟨sender, recipient, payload⟩ := m
  have distinct : (payload.members.map (·.1)).Nodup :=
    List.pairwise_map.2 ((Json.isCanonical_object.1 payload.canonical).1.imp String.ne_of_lt)
  have apart (name : String) (field : isField name = true) :
      name ∉ payload.members.map (·.1) := by
    intro mem
    obtain ⟨member, inPayload, rfl⟩ := List.mem_map.1 mem
    rw [h member inPayload] at field
    cases field
  have noFrom := apart "from" (by decide)
  have noTo := apart "to" (by decide)
  cases sender with
  | none =>
    cases recipient with
    | none => exact distinct
    | some id => exact List.nodup_cons.2 ⟨noTo, distinct⟩
  | some id =>
    cases recipient with
    | none => exact List.nodup_cons.2 ⟨noFrom, distinct⟩
    | some id' =>
      have apart' : "from" ∉ "to" :: payload.members.map (·.1) :=
        List.not_mem_cons_of_ne_of_not_mem (by decide) noFrom
      exact List.nodup_cons.2 ⟨apart', List.nodup_cons.2 ⟨noTo, distinct⟩⟩

theorem noRepeats_of_mem {m : EndpointMessage} {member : String × Json}
    (mem : member ∈ m.members) : member.2.NoRepeats := by
  rcases List.mem_append.1 mem with mem | mem
  · rcases List.mem_append.1 mem with mem | mem
    · obtain ⟨id, -, rfl⟩ := List.mem_map.1 mem
      trivial
    · obtain ⟨id, -, rfl⟩ := List.mem_map.1 mem
      trivial
  · exact Json.noRepeats_of_isCanonical
      ((Json.isCanonical_object.1 m.payload.canonical).2 member mem)

end EndpointMessage

namespace Message

/-- The text of a message has no name twice in any object. -/
theorem noRepeats_toJson {m : Message} (h : m.IsExact) : m.toJson.NoRepeats := by
  have classApart : classField ∉ m.members.map (·.1) := by
    intro mem
    obtain ⟨member, inMembers, same⟩ := List.mem_map.1 mem
    exact (h.members member inMembers).1 same
  have rest : (m.members.map (·.1)).Nodup ∧ ∀ member ∈ m.members, member.2.NoRepeats := by
    have single {name : String} {value : Json} (returns : value.NoRepeats) :
        ([(name, value)].map (·.1)).Nodup ∧ ∀ member ∈ [(name, value)], member.2.NoRepeats :=
      ⟨by simp, by simpa using returns⟩
    cases m with
    | clientHello => exact ⟨List.nodup_nil, by simp [Message.members]⟩
    | serverHello version =>
      cases version with
      | none => exact ⟨List.nodup_nil, by simp [Message.members]⟩
      | some version => exact single trivial
    | pinnedEndpoint id => exact single (Json.noRepeats_ofOption id)
    | pinnedEndpoints ids => exact single (Json.noRepeats_ofStrings ids)
    | selectedEndpoint id => exact single (Json.noRepeats_ofOption id)
    | selectedEndpoints ids => exact single (Json.noRepeats_ofStrings ids)
    | receiverVideoConstraint height => exact single trivial
    | lastN value => exact single trivial
    | endpointMessage m =>
      exact ⟨EndpointMessage.nodup_members fun member mem => (h.payload mem).2.1,
        fun member mem => EndpointMessage.noRepeats_of_mem mem⟩
    | dominantSpeaker id => exact single trivial
    | connectivityStatus id active =>
      have names : ["endpoint", "active"].Nodup := by decide
      have scalar : (Json.boolean active).NoRepeats := trivial
      exact ⟨names, List.forall_mem_cons.2 ⟨trivial, (single scalar).2⟩⟩
    | lastNEndpoints ids => exact single (Json.noRepeats_ofStrings ids)
    | senderVideoConstraints c => exact single c.noRepeats_toJson
    | unknown => exact ⟨List.nodup_nil, by simp [Message.members]⟩
  exact Json.everywhere_object.2 ⟨List.nodup_cons.2 ⟨classApart, rest.1⟩,
    List.forall_mem_cons.2 ⟨trivial, rest.2⟩⟩

/-- Reading brings a message into a form that writing and reading keep: its payload has no reserved
    name, and if the text has integers only, the message's own text repeats no name, is read as the
    same message, and is written the same again. -/
theorem decode_normalForm {text : String} {m : Message} (h : decode text = .ok m) :
    (∀ e, m = endpointMessage e →
      ∀ member ∈ e.payload.members, member.1 ∉ ["colibriClass", "from", "to"]) ∧
    ∃ value, Json.ofText text = .ok value ∧
      (value.IsIntegral → m.preferredFps = none →
        (∃ written, Json.ofText m.encode = .ok written ∧ written.NoRepeats) ∧
        decode m.encode = .ok m ∧
        ∀ again, decode m.encode = .ok again → again.encode = m.encode) := by
  obtain ⟨value, _, held, -, -⟩ := json_of_decode h
  refine ⟨?_, value, held, fun integral noRate => ?_⟩
  · rintro e rfl member mem
    exact payload_notMem_reservedNames h mem
  · have exact := isExact_of_decode h held integral noRate
    have back := decode_encode exact
    refine ⟨⟨m.toJson, ofText_encode exact, noRepeats_toJson exact⟩, back, fun again same => ?_⟩
    rw [back] at same
    rw [Except.ok.inj same]

/-- An object with a member twice, its text, and the message that is kept of it. -/
def repeatedObject : Json :=
  .object [("x", .number (.integer 1)), ("colibriClass", .string "EndpointMessage"), ("to", .null),
    ("x", .array [.number (.integer 2)])]

def repeatedText : String :=
  "\x7b\"x\":1,\"colibriClass\":\"EndpointMessage\",\"to\":null,\"x\":[2]\x7d"

def repeatedMessage : Message :=
  endpointMessage ⟨none, none, .ofMembers [("x", .array [.number (.integer 2)])]⟩

theorem decode_normalForm_repeated :
    decode repeatedText = .ok repeatedMessage ∧
      decode repeatedMessage.encode = .ok repeatedMessage ∧
      ∀ again, decode repeatedMessage.encode = .ok again →
        again.encode = repeatedMessage.encode := by
  have integral : repeatedObject.IsIntegral := by
    simp [repeatedObject, Json.IsIntegral, Json.Everywhere, Json.EverywhereMembers,
      Json.EverywhereItems, Json.NumberFits]
  have written : repeatedText = repeatedObject.toText := rfl
  have held : Json.ofText repeatedText = .ok repeatedObject := by
    rw [written]
    exact Json.ofText_toText integral (by decide)
  have decoded : decode repeatedText = .ok repeatedMessage := decode_of_object held rfl rfl
  obtain ⟨-, value, sameHeld, keeps⟩ := decode_normalForm decoded
  rw [held] at sameHeld
  cases sameHeld
  exact ⟨decoded, (keeps integral rfl).2⟩

end Message

end ControlChannel
