import ControlChannel.Proofs.Json.Integer
import ControlChannel.Proofs.Message.Class
import ControlChannel.Proofs.Message.Gathering

/-!
# What a class declares

A class declares the fields of its messages. An object of the class is decoded if and only if its
members are as these fields ask, and then the message carries the values of the fields. All other
members are passed over, but for those of an endpoint message, which are its payload; there the last
member of a name counts.
-/

namespace ControlChannel

/-- Constraints, as an object or as a list. -/
def FieldType.constraints : FieldType VideoConstraints :=
  ⟨VideoConstraints.ofJson, VideoConstraints.WrittenAs, VideoConstraints.ofJson_eq_ok⟩

def Message.videoConstraintsField : DeclaredField VideoConstraints :=
  ⟨"videoConstraints", .constraints, none⟩

/-- An integer of 32 bits is written by its digits alone, so without a fraction or an exponent, and
    zero without a sign. -/
theorem FieldType.int32_writes_iff {depth : Nat} {s rest : List Char} {value : Json}
    (h : Json.read depth s = .ok (value, rest)) (a : Int32) :
    int32.Writes value a ↔ ∃ n : Int, (-2147483648 ≤ n ∧ n ≤ 2147483647) ∧ a = Int32.ofInt n ∧
      skipSpaces s = Json.renderInteger n ++ rest ∧ Delimited rest := by
  constructor
  · rintro rfl
    obtain ⟨digits, delimited, -⟩ := Json.read_eq_integer.1 h
    exact ⟨a.toInt, ⟨Int32.minValue_le_toInt a, Int32.toInt_le a⟩, (Int32.ofInt_toInt a).symm,
      digits, delimited⟩
  · rintro ⟨n, inRange, rfl, digits, delimited⟩
    have fits : Json.NumberFits (.number (.integer n)) := by
      have wide : (UInt64.size : Int) = 18446744073709551616 := rfl
      exact ⟨by omega, by omega⟩
    have again : Json.read depth s = .ok (.number (.integer n), rest) :=
      Json.read_eq_integer.2 ⟨digits, delimited, fits⟩
    rw [h] at again
    have same : value = .number (.integer n) := (Prod.mk.inj (Except.ok.inj again)).1
    have back : (Int32.ofInt n).toInt = n :=
      Int32.toInt_ofInt_of_le inRange.1 (Int.lt_add_one_of_le inRange.2)
    show value = .number (.integer (Int32.ofInt n).toInt)
    rw [same, back]

/-! ## Declarations -/

/-- The members of an object are as the declared fields of a class ask. -/
def Kind.MetBy (members : List (String × Json)) : Kind → Prop
  | clientHello | unknown => True
  | serverHello => Message.versionField.MetBy members
  | pinnedEndpoint => Message.pinnedEndpointField.MetBy members
  | pinnedEndpoints => Message.pinnedEndpointsField.MetBy members
  | selectedEndpoint => Message.selectedEndpointField.MetBy members
  | selectedEndpoints => Message.selectedEndpointsField.MetBy members
  | receiverVideoConstraint => Message.maxFrameHeightField.MetBy members
  | lastN => Message.lastNField.MetBy members
  | endpointMessage =>
      EndpointMessage.senderField.MetBy members ∧ EndpointMessage.recipientField.MetBy members
  | dominantSpeaker => Message.dominantSpeakerField.MetBy members
  | connectivityStatus => Message.endpointField.MetBy members ∧ Message.activeField.MetBy members
  | lastNEndpoints => Message.lastNEndpointsField.MetBy members
  | senderVideoConstraints => Message.videoConstraintsField.MetBy members

/-- The payload is what the members hold under names that are not declared: under each name the value
    of the last such member, with every object in it as a map. -/
def Payload.LeftBy (members : List (String × Json)) (payload : Payload) : Prop :=
  ∀ name, payload.members.lookup name =
    if name ∈ ["colibriClass", "from", "to"] then none
    else (members.reverse.lookup name).map Json.canonical

/-- The message carries what the members of an object hold for the declared fields of its class. -/
def Message.DeclaredBy (members : List (String × Json)) : Message → Prop
  | clientHello | unknown => True
  | serverHello version => versionField.Holds members version
  | pinnedEndpoint id => pinnedEndpointField.Holds members id
  | pinnedEndpoints ids => pinnedEndpointsField.Holds members ids
  | selectedEndpoint id => selectedEndpointField.Holds members id
  | selectedEndpoints ids => selectedEndpointsField.Holds members ids
  | receiverVideoConstraint height => maxFrameHeightField.Holds members height
  | lastN value => lastNField.Holds members value
  | endpointMessage m =>
      EndpointMessage.senderField.Holds members m.sender ∧
        EndpointMessage.recipientField.Holds members m.recipient ∧ m.payload.LeftBy members
  | dominantSpeaker id => dominantSpeakerField.Holds members id
  | connectivityStatus id status =>
      endpointField.Holds members id ∧ activeField.Holds members status
  | lastNEndpoints ids => lastNEndpointsField.Holds members ids
  | senderVideoConstraints constraints =>
      videoConstraintsField.Holds members constraints

namespace Message

variable {members : List (String × Json)}

/-- The payload that the members leave. -/
theorem payload_leftBy (members : List (String × Json)) :
    (Payload.ofMembers (members.filter (·.1 ∉ reservedNames))).LeftBy members := by
  intro name
  rw [Payload.lookup_ofMembers, ← List.filter_reverse,
    lookup_filter_key members.reverse (· ∉ reservedNames)]
  by_cases reserved : name ∈ reservedNames
  · have listed : name ∈ ["colibriClass", "from", "to"] := reserved
    simp [reserved, listed]
  · have free : name ∉ ["colibriClass", "from", "to"] := reserved
    rw [if_neg free, if_pos (decide_eq_true reserved)]

theorem leftBy_iff {payload : Payload} :
    payload.LeftBy members ↔ payload = .ofMembers (members.filter (·.1 ∉ reservedNames)) := by
  constructor
  · intro left
    refine Payload.ext_lookup fun name => ?_
    rw [left name, payload_leftBy members name]
  · rintro rfl
    exact payload_leftBy members

/-- The object of a message's class has what the message's fields ask. -/
theorem metBy_of_declaredBy {m : Message} (declared : m.DeclaredBy members) :
    m.kind.MetBy members := by
  cases m with
  | clientHello => trivial
  | unknown => trivial
  | endpointMessage m =>
    exact ⟨DeclaredField.metBy_iff.2 ⟨_, declared.1⟩, DeclaredField.metBy_iff.2 ⟨_, declared.2.1⟩⟩
  | connectivityStatus id status =>
    exact ⟨DeclaredField.metBy_iff.2 ⟨_, declared.1⟩, DeclaredField.metBy_iff.2 ⟨_, declared.2⟩⟩
  | _ => exact DeclaredField.metBy_iff.2 ⟨_, declared⟩

/-- If the members are as the fields of a class ask, they make a message of the class. -/
theorem exists_declaredBy {kind : Kind} (met : kind.MetBy members) :
    ∃ m : Message, m.kind = kind ∧ m.DeclaredBy members := by
  have single {α : Type} {field : DeclaredField α} (make : α → Message)
      (met : field.MetBy members) (ofKind : ∀ a, (make a).kind = kind)
      (declared : ∀ a, field.Holds members a → (make a).DeclaredBy members) :
      ∃ m : Message, m.kind = kind ∧ m.DeclaredBy members := by
    obtain ⟨a, holds⟩ := DeclaredField.metBy_iff.1 met
    exact ⟨make a, ofKind a, declared a holds⟩
  cases kind with
  | clientHello => exact ⟨clientHello, rfl, trivial⟩
  | serverHello => exact single serverHello met (fun _ => rfl) fun _ => id
  | pinnedEndpoint => exact single pinnedEndpoint met (fun _ => rfl) fun _ => id
  | pinnedEndpoints => exact single pinnedEndpoints met (fun _ => rfl) fun _ => id
  | selectedEndpoint => exact single selectedEndpoint met (fun _ => rfl) fun _ => id
  | selectedEndpoints => exact single selectedEndpoints met (fun _ => rfl) fun _ => id
  | receiverVideoConstraint => exact single receiverVideoConstraint met (fun _ => rfl) fun _ => id
  | lastN => exact single lastN met (fun _ => rfl) fun _ => id
  | endpointMessage =>
    obtain ⟨sender, fromSender⟩ := DeclaredField.metBy_iff.1 met.1
    obtain ⟨recipient, toRecipient⟩ := DeclaredField.metBy_iff.1 met.2
    exact ⟨endpointMessage ⟨sender, recipient, _⟩, rfl, fromSender, toRecipient,
      payload_leftBy members⟩
  | dominantSpeaker => exact single dominantSpeaker met (fun _ => rfl) fun _ => id
  | connectivityStatus =>
    obtain ⟨id, ofEndpoint⟩ := DeclaredField.metBy_iff.1 met.1
    obtain ⟨status, isActive⟩ := DeclaredField.metBy_iff.1 met.2
    exact ⟨connectivityStatus id status, rfl, ofEndpoint, isActive⟩
  | lastNEndpoints => exact single lastNEndpoints met (fun _ => rfl) fun _ => id
  | senderVideoConstraints => exact single senderVideoConstraints met (fun _ => rfl) fun _ => id
  | unknown => exact ⟨unknown, rfl, trivial⟩

/-! ## Bodies -/

/-- The body of a class with one field. -/
theorem single_eq_ok {α : Type} (field : DeclaredField α) (apart : field.name ≠ classField)
    (kind : Kind) (make : α → Message) {m : Message} :
    make <$> Body.one kind field.name field.type.accept field.absent
        (.named (members.filter (·.1 ≠ classField))) = .ok m ↔
      ∃ a, field.Holds members a ∧ make a = m := by
  simp only [map_eq_ok, field.one_eq_ok, DeclaredField.holds_filter apart]

theorem status_eq_ok {m : Message} :
    (fun (id, active) => connectivityStatus id active) <$>
        Body.status (.named (members.filter (·.1 ≠ classField))) = .ok m ↔
      ∃ id status, (endpointField.Holds members id ∧
        activeField.Holds members status) ∧ connectivityStatus id status = m := by
  rw [map_eq_ok, Prod.exists]
  refine exists_congr fun id => exists_congr fun status => and_congr_left fun _ => ?_
  rw [Body.status_eq_ok, DeclaredField.holds_filter (by decide),
    DeclaredField.holds_filter (by decide)]

theorem endpointMessage_eq_ok {m : Message} :
    endpointMessage <$> Body.endpointMessage (.named (members.filter (·.1 ≠ classField))) = .ok m ↔
      ∃ e, (endpointMessage e).DeclaredBy members ∧ endpointMessage e = m := by
  rw [map_eq_ok]
  refine exists_congr fun e => and_congr_left fun _ => ?_
  rw [Body.endpointMessage, EndpointMessage.ofMembers_iff, DeclaredField.holds_filter (by decide),
    DeclaredField.holds_filter (by decide), filter_unreserved, ← leftBy_iff, DeclaredBy]

/-- What is made from the body of a class carries what the fields of the class hold. -/
theorem declaredBy_of_ofBody {kind : Kind} {m : Message}
    (made : ofBody kind (.named (members.filter (·.1 ≠ classField))) = .ok m) :
    m.DeclaredBy members := by
  cases kind with
  | clientHello =>
    obtain ⟨_, -, rfl⟩ := map_eq_ok.1 made
    trivial
  | serverHello =>
    obtain ⟨_, holds, rfl⟩ := (single_eq_ok versionField (by decide) _ _).1 made
    exact holds
  | pinnedEndpoint =>
    obtain ⟨_, holds, rfl⟩ := (single_eq_ok pinnedEndpointField (by decide) _ _).1 made
    exact holds
  | pinnedEndpoints =>
    obtain ⟨_, holds, rfl⟩ := (single_eq_ok pinnedEndpointsField (by decide) _ _).1 made
    exact holds
  | selectedEndpoint =>
    obtain ⟨_, holds, rfl⟩ := (single_eq_ok selectedEndpointField (by decide) _ _).1 made
    exact holds
  | selectedEndpoints =>
    obtain ⟨_, holds, rfl⟩ := (single_eq_ok selectedEndpointsField (by decide) _ _).1 made
    exact holds
  | receiverVideoConstraint =>
    obtain ⟨_, holds, rfl⟩ := (single_eq_ok maxFrameHeightField (by decide) _ _).1 made
    exact holds
  | lastN =>
    obtain ⟨_, holds, rfl⟩ := (single_eq_ok lastNField (by decide) _ _).1 made
    exact holds
  | endpointMessage =>
    obtain ⟨_, declared, rfl⟩ := endpointMessage_eq_ok.1 made
    exact declared
  | dominantSpeaker =>
    obtain ⟨_, holds, rfl⟩ := (single_eq_ok dominantSpeakerField (by decide) _ _).1 made
    exact holds
  | connectivityStatus =>
    obtain ⟨_, _, holds, rfl⟩ := status_eq_ok.1 made
    exact holds
  | lastNEndpoints =>
    obtain ⟨_, holds, rfl⟩ := (single_eq_ok lastNEndpointsField (by decide) _ _).1 made
    exact holds
  | senderVideoConstraints =>
    obtain ⟨_, holds, rfl⟩ := (single_eq_ok videoConstraintsField (by decide) _ _).1 made
    exact holds
  | unknown =>
    obtain ⟨_, -, rfl⟩ := map_eq_ok.1 made
    trivial

/-- A message that carries what the fields of its class hold is made from the body. -/
theorem ofBody_of_declaredBy {m : Message} (declared : m.DeclaredBy members) :
    ofBody m.kind (.named (members.filter (·.1 ≠ classField))) = .ok m := by
  cases m with
  | clientHello => rfl
  | serverHello version => exact (single_eq_ok versionField (by decide) _ _).2 ⟨_, declared, rfl⟩
  | pinnedEndpoint id =>
    exact (single_eq_ok pinnedEndpointField (by decide) _ _).2 ⟨_, declared, rfl⟩
  | pinnedEndpoints ids =>
    exact (single_eq_ok pinnedEndpointsField (by decide) _ _).2 ⟨_, declared, rfl⟩
  | selectedEndpoint id =>
    exact (single_eq_ok selectedEndpointField (by decide) _ _).2 ⟨_, declared, rfl⟩
  | selectedEndpoints ids =>
    exact (single_eq_ok selectedEndpointsField (by decide) _ _).2 ⟨_, declared, rfl⟩
  | receiverVideoConstraint height =>
    exact (single_eq_ok maxFrameHeightField (by decide) _ _).2 ⟨_, declared, rfl⟩
  | lastN value => exact (single_eq_ok lastNField (by decide) _ _).2 ⟨_, declared, rfl⟩
  | endpointMessage m => exact endpointMessage_eq_ok.2 ⟨_, declared, rfl⟩
  | dominantSpeaker id =>
    exact (single_eq_ok dominantSpeakerField (by decide) _ _).2 ⟨_, declared, rfl⟩
  | connectivityStatus id status => exact status_eq_ok.2 ⟨_, _, declared, rfl⟩
  | lastNEndpoints ids =>
    exact (single_eq_ok lastNEndpointsField (by decide) _ _).2 ⟨_, declared, rfl⟩
  | senderVideoConstraints constraints =>
    exact (single_eq_ok videoConstraintsField (by decide) _ _).2 ⟨_, declared, rfl⟩
  | unknown => rfl

/-- An object with one class is decoded if and only if its members are as the fields of the class
    ask, and into the message of the class that carries what they hold. A member holds an integer of
    32 bits if the digits of that integer are its text. -/
theorem decode_declared {text : String} {members : List (String × Json)} {kind : Kind}
    (held : Json.ofText text = .ok (.object members))
    (alone : members.filter (·.1 = "colibriClass") = [("colibriClass", .string kind.name)]) :
    ((∃ m, decode text = .ok m) ↔ kind.MetBy members) ∧
    (∀ m, decode text = .ok m ↔ m.kind = kind ∧ m.DeclaredBy members) ∧
    ∀ depth s value rest, Json.read depth s = .ok (value, rest) → ∀ a,
      FieldType.int32.Writes value a ↔ ∃ n : Int, (-2147483648 ≤ n ∧ n ≤ 2147483647) ∧
        a = Int32.ofInt n ∧ skipSpaces s = Json.renderInteger n ++ rest ∧ Delimited rest := by
  have carried (m : Message) : decode text = .ok m ↔ m.kind = kind ∧ m.DeclaredBy members := by
    rw [decode_object_eq_ok held]
    constructor
    · rintro ⟨className, found, made⟩
      rw [show members.filter (·.1 = classField) = _ from alone] at found
      cases found
      rw [Kind.ofName_name] at made
      exact ⟨kind_of_ofBody made, declaredBy_of_ofBody made⟩
    · rintro ⟨rfl, declared⟩
      refine ⟨m.kind.name, alone, ?_⟩
      rw [Kind.ofName_name]
      exact ofBody_of_declaredBy declared
  refine ⟨?_, carried, fun depth s value rest h => FieldType.int32_writes_iff h⟩
  constructor
  · rintro ⟨m, decoded⟩
    obtain ⟨rfl, declared⟩ := (carried m).1 decoded
    exact metBy_of_declaredBy declared
  · intro met
    obtain ⟨m, declared⟩ := exists_declaredBy met
    exact ⟨m, (carried m).2 declared⟩

/-- The least number that can be asked for, with its class after it and a member that is passed
    over. -/
def leastLastN : List (String × Json) :=
  [("x", .null), ("lastN", .number (.integer (-2147483648))),
    ("colibriClass", .string "LastNChangedEvent")]

theorem decode_declared_leastLastN :
    Kind.lastN.MetBy leastLastN ∧
      decode "\x7b\"x\":null,\"lastN\":-2147483648,\"colibriClass\":\"LastNChangedEvent\"\x7d" =
        .ok (.lastN (-2147483648)) := by
  have integral : (Json.object leastLastN).IsIntegral := by
    simp [leastLastN, Json.IsIntegral, Json.Everywhere, Json.EverywhereMembers, Json.NumberFits,
      UInt64.size]
  have held : Json.ofText (Json.object leastLastN).toText = .ok (.object leastLastN) :=
    Json.ofText_toText integral (by decide)
  have alone : leastLastN.filter (·.1 = "colibriClass") =
      [("colibriClass", .string Kind.lastN.name)] := rfl
  obtain ⟨met, carried, -⟩ := decode_declared held alone
  have decoded : decode (Json.object leastLastN).toText = .ok (.lastN (-2147483648)) :=
    (carried _).2 ⟨rfl, .written rfl rfl⟩
  exact ⟨met.1 ⟨_, decoded⟩, decoded⟩

end Message

end ControlChannel
