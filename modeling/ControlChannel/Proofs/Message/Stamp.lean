import ControlChannel.Proofs.Message.NormalForm
import ControlChannel.Route

/-!
# Stamped messages

A bridge passes an endpoint message on in its own words: it reads a text, sets the sender, and
writes the message again. The text that comes out names that sender and no other, whatever was in
the text that came in. Its recipient and its payload are the ones that came in.
-/

namespace ControlChannel

open Record Message

namespace EndpointMessage

/-- The message is what the members of a text say, in the name of `sender`. A recipient that is
    `null` is no recipient; of members with the same name the last one counts. -/
structure Restates (sender : String) (members : List (String × Json)) (m : EndpointMessage) :
    Prop where
  sender_eq : m.sender = some sender
  recipient_eq : (members.lookup "to").getD .null = .ofOption m.recipient
  payload_lookup (name : String) :
    m.payload.members.lookup name =
      if name ∈ ["colibriClass", "from", "to"] then none
      else (members.reverse.lookup name).map Json.canonical

/-- The text of the message is an object of one class with one sender, and it gives the message
    back. -/
structure WrittenBy (sender : String) (m : EndpointMessage) : Prop where
  members_eq : ∃ members,
    Json.ofText (Message.endpointMessage m).encode = .ok (.object members) ∧
      members.filter (·.1 = "from") = [("from", .string sender)] ∧
      members.filter (·.1 = "colibriClass") = [("colibriClass", .string "EndpointMessage")]
  decode_eq : Message.decode (Message.endpointMessage m).encode = .ok (.endpointMessage m)

/-- The message is passed on for a text that came in from `sender`. The text names no class, sender
    or recipient twice, and the message restates it. The text of the message is written by the
    sender, if the numbers in the payload that came in are all integers. -/
def PassedOn (sender text : String) (m : EndpointMessage) : Prop :=
  ∃ members, Json.ofText text = .ok (.object members) ∧
    (∀ name ∈ ["colibriClass", "from", "to"], (members.filter (·.1 = name)).length ≤ 1) ∧
    Restates sender members m ∧
    ((∀ member ∈ members, member.1 ∉ ["colibriClass", "from", "to"] → member.2.IsIntegral) →
      WrittenBy sender m)

end EndpointMessage

/-! ## Members by name -/

theorem lookup_eq_head_filter (members : List (String × Json)) (name : String) :
    members.lookup name = (members.filter (·.1 = name)).head?.map (·.2) := by
  induction members with
  | nil => rfl
  | cons member rest ih =>
    rw [lookup_cons_entry, ih]
    by_cases same : member.1 = name
    · simp [same]
    · have apart : name ≠ member.1 := Ne.symm same
      simp [same, apart]

namespace EndpointMessage

/-- What a text says of a recipient. -/
theorem lookup_of_gives {field : String} {members : List (String × Json)}
    {found : Option (Option String)}
    (h : Gives (Field.optional Field.string) field members found) :
    (members.lookup field).getD .null = .ofOption found.join := by
  rw [lookup_eq_head_filter]
  rcases h with ⟨none, rfl⟩ | ⟨value, id, alone, accepted, rfl⟩
  · rw [none]
    rfl
  · rw [alone]
    cases value with
    | null =>
      cases accepted
      rfl
    | string text =>
      cases accepted
      rfl
    | _ => cases accepted

theorem length_le_one_of_gives {α : Type} {accept : Json → Except Fault α} {field : String}
    {members : List (String × Json)} {found : Option α} (h : Gives accept field members found) :
    (members.filter (·.1 = field)).length ≤ 1 := by
  rcases h with ⟨none, -⟩ | ⟨value, a, alone, -, -⟩
  · simp [none]
  · simp [alone]

/-- A stamped message restates the members of the text that it was read from, none of which has the
    name of another one that counts. -/
theorem restates_of_decode {text : String} {m : EndpointMessage} (sender : String)
    (h : Message.decode text = .ok (.endpointMessage m)) :
    ∃ members, Json.ofText text = .ok (.object members) ∧
      (∀ name ∈ ["colibriClass", "from", "to"], (members.filter (·.1 = name)).length ≤ 1) ∧
      Restates sender members (m.stamp sender) := by
  obtain ⟨members, held, oneClass, ⟨_, fromGives, -⟩, ⟨recipient, toGives, recipientIs⟩, payload⟩ :=
    endpointMessage_of_decode h
  refine ⟨members, held, ?_, rfl, ?_, fun name => ?_⟩
  · have classOnce : (members.filter (·.1 = classField)).length ≤ 1 := by simp [oneClass]
    simpa using ⟨classOnce, length_le_one_of_gives fromGives, length_le_one_of_gives toGives⟩
  · have sameRecipient : (m.stamp sender).recipient = recipient.join := recipientIs
    rw [sameRecipient]
    exact lookup_of_gives toGives
  · have samePayload : (m.stamp sender).payload = _ := payload
    have reversed : (members.filter (·.1 ∉ reservedNames)).reverse =
        members.reverse.filter fun member => decide (member.1 ∉ reservedNames) :=
      List.filter_reverse.symm
    rw [samePayload, Payload.lookup_ofMembers, reversed,
      lookup_filter_key members.reverse fun name => decide (name ∉ reservedNames)]
    by_cases reserved : name ∈ reservedNames
    · have listed : name ∈ ["colibriClass", "from", "to"] := reserved
      simp [reserved, listed]
    · have unlisted : name ∉ ["colibriClass", "from", "to"] := reserved
      rw [if_pos (by simpa using reserved), if_neg unlisted]

/-- The members that write a message under a name that its payload leaves alone. -/
theorem filter_payload {m : EndpointMessage} (h : (Message.endpointMessage m).IsExact)
    {name : String} (reserved : name ∈ reservedNames) :
    m.payload.members.filter (·.1 = name) = [] := by
  refine List.filter_eq_nil_iff.2 fun member mem => ?_
  have apart : member.1 ≠ name := by
    rintro rfl
    exact h.1 member mem reserved
  simpa using apart

theorem writtenBy_of_isExact {m : EndpointMessage} {sender : String}
    (h : (Message.endpointMessage (m.stamp sender)).IsExact) :
    WrittenBy sender (m.stamp sender) := by
  have written : (Message.endpointMessage (m.stamp sender)).toJson =
      .object ((classField, .string "EndpointMessage") :: ("from", .string sender) ::
        ((m.recipient.toList.map fun id => ("to", .string id)) ++ m.payload.members)) := rfl
  have noOther {name : String} (reserved : name ∈ reservedNames) (apart : name ≠ "to") :
      ((m.recipient.toList.map fun id => ("to", Json.string id)) ++ m.payload.members).filter
        (·.1 = name) = [] := by
    have noPayload : m.payload.members.filter (·.1 = name) = [] := filter_payload h reserved
    rw [List.filter_append, noPayload, List.append_nil]
    cases m.recipient with
    | none => rfl
    | some id => simp [Ne.symm apart]
  have noFrom := noOther (by decide : "from" ∈ reservedNames) (by decide)
  have noClass := noOther (by decide : classField ∈ reservedNames) (by decide)
  refine ⟨⟨_, (ofText_encode h).trans (congrArg Except.ok written), ?_, ?_⟩, decode_encode h⟩
  · rw [List.filter_cons_of_neg (by simp [classField]), List.filter_cons_of_pos (by simp), noFrom]
  · rw [List.filter_cons_of_pos (by simp [classField]), List.filter_cons_of_neg (by simp)]
    exact congrArg _ noClass

/-- A member that a field takes for an optional text has no number inside. -/
theorem isIntegral_of_gives {field : String} {members : List (String × Json)}
    {found : Option (Option String)} (h : Gives (Field.optional Field.string) field members found)
    {value : Json} (mem : (field, value) ∈ members) : value.IsIntegral := by
  have inFilter : (field, value) ∈ members.filter (·.1 = field) := List.mem_filter.2 ⟨mem, by simp⟩
  rcases h with ⟨none, -⟩ | ⟨given, id, alone, accepted, -⟩
  · rw [none] at inFilter
    cases inFilter
  · rw [alone] at inFilter
    cases List.mem_singleton.1 inFilter
    cases value with
    | null => trivial
    | string text => trivial
    | _ => cases accepted

/-- A stamped message can be read again if the payload that came in had integers only. -/
theorem isExact_stamp {text : String} {m : EndpointMessage} {members : List (String × Json)}
    (sender : String) (h : Message.decode text = .ok (.endpointMessage m))
    (held : Json.ofText text = .ok (.object members))
    (integral : ∀ member ∈ members, member.1 ∉ ["colibriClass", "from", "to"] →
      member.2.IsIntegral) :
    (Message.endpointMessage (m.stamp sender)).IsExact := by
  obtain ⟨_, sameHeld, oneClass, ⟨_, fromGives, -⟩, ⟨_, toGives, -⟩, -⟩ :=
    endpointMessage_of_decode h
  cases Json.object.inj (Except.ok.inj (sameHeld.symm.trans held))
  have everyMember : ∀ member ∈ members, member.2.IsIntegral := by
    rintro ⟨name, value⟩ mem
    by_cases isFrom : name = "from"
    · subst isFrom
      exact isIntegral_of_gives fromGives mem
    · by_cases isTo : name = "to"
      · subst isTo
        exact isIntegral_of_gives toGives mem
      · by_cases isClass : name = classField
        · have inFilter : (name, value) ∈ members.filter (·.1 = classField) :=
            List.mem_filter.2 ⟨mem, by simpa using isClass⟩
          rw [oneClass] at inFilter
          cases List.mem_singleton.1 inFilter
          trivial
        · exact integral _ mem (by simpa [isFrom, isTo, classField] using isClass)
  -- Being exact does not depend on the sender.
  have unstamped : (Message.endpointMessage m).IsExact :=
    isExact_of_decode h held (Json.everywhere_object.2 ⟨trivial, everyMember⟩) rfl
  exact unstamped

theorem passedOn_of_decode {text : String} {m : EndpointMessage} (sender : String)
    (h : Message.decode text = .ok (.endpointMessage m)) :
    PassedOn sender text (m.stamp sender) := by
  obtain ⟨members, held, once, restates⟩ := restates_of_decode sender h
  refine ⟨members, held, once, restates, fun integral => ?_⟩
  exact writtenBy_of_isExact (isExact_stamp sender h held integral)

end EndpointMessage

end ControlChannel
