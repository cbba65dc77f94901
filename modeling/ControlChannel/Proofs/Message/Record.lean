import ControlChannel.Message.Decode
import ControlChannel.Proofs.Json.Tree
import ControlChannel.Proofs.Outcome

/-!
# What a record gathers

A field of a record holds what the only member of its name gives, and nothing if there is no such
member: members of other names leave it alone, and a second one of its own name is a fault. A record
of several fields gathers each of them as the record of that field alone does, whatever the order of
the members. The payload of an endpoint message is what its fields leave over.
-/

namespace ControlChannel

namespace Record

variable {σ τ α : Type}

/-- What the members say about a field: no member has its name and the field is absent, or only one
    has and its value is accepted. -/
def Gives (accept : Json → Except Fault α) (field : String) (members : List (String × Json))
    (found : Option α) : Prop :=
  members.filter (·.1 = field) = [] ∧ found = none ∨
    ∃ value a, members.filter (·.1 = field) = [(field, value)] ∧ accept value = .ok a ∧
      found = some a

/-- The members of one name are still there if those of another name are left out. -/
theorem filter_name_of_ne {field name : String} (apart : field ≠ name)
    (members : List (String × Json)) :
    (members.filter (·.1 ≠ name)).filter (·.1 = field) = members.filter (·.1 = field) := by
  rw [List.filter_filter]
  refine List.filter_congr fun member _ => ?_
  by_cases here : member.1 = field
  · simp [here, apart]
  · simp [here]

/-- Members of another name say nothing about a field. -/
theorem Gives.of_filter {accept : Json → Except Fault α} {field name : String}
    {members : List (String × Json)} {found : Option α} (apart : field ≠ name)
    (h : Gives accept field (members.filter (·.1 ≠ name)) found) :
    Gives accept field members found := by
  rwa [Gives, filter_name_of_ne apart] at h

theorem enter_eq_ok {record : Record σ} {fields next : σ} {member : String × Json} :
    record.enter fields member = .ok next ↔
      record.given fields member.1 = false ∧ record.put fields member.1 member.2 = .ok next := by
  cases taken : record.given fields member.1 <;> simp [enter, taken]

theorem gather_cons {record : Record σ} {fields final : σ} {member : String × Json}
    {members : List (String × Json)} :
    record.gather fields (member :: members) = .ok final ↔
      ∃ next, record.given fields member.1 = false ∧
        record.put fields member.1 member.2 = .ok next ∧
        record.gather next members = .ok final := by
  simp only [gather, List.foldlM_cons, bind_eq_ok, enter_eq_ok, and_assoc]

/-! ## One field -/

section Single

variable {name : String} {accept : Json → Except Fault α} {found : Option α}
  {members : List (String × Json)}

theorem single_put_other {other : String} (apart : other ≠ name) (found : Option α)
    (value : Json) : (single name accept).put found other value = .ok found :=
  if_neg apart

/-- A field that was given may not be given again. -/
theorem gather_single_some {a : α} :
    (single name accept).gather (some a) members = .ok found ↔
      members.filter (·.1 = name) = [] ∧ found = some a := by
  induction members with
  | nil => simp [gather, eq_comm]
  | cons member members ih =>
    rw [gather_cons]
    by_cases here : member.1 = name
    · simp [single, here]
    · simpa [single, here] using ih

/-- A field is given what the members say about it. -/
theorem gather_single :
    (single name accept).gather none members = .ok found ↔ Gives accept name members found := by
  induction members with
  | nil => simp [gather, Gives, eq_comm]
  | cons member members ih =>
    obtain ⟨other, value⟩ := member
    rw [gather_cons]
    by_cases here : other = name
    · subst here
      have entered : (single other accept).put none other value = some <$> accept value :=
        if_pos rfl
      have front : ((other, value) :: members).filter (·.1 = other) =
          (other, value) :: members.filter (·.1 = other) :=
        List.filter_cons_of_pos (by simp)
      rw [entered, Gives, front]
      constructor
      · rintro ⟨next, -, put, later⟩
        obtain ⟨a, accepted, rfl⟩ := map_eq_ok.1 put
        obtain ⟨none, kept⟩ := gather_single_some.1 later
        exact .inr ⟨value, a, by rw [none], accepted, kept⟩
      · rintro (⟨none, -⟩ | ⟨_, a, alone, accepted, kept⟩)
        · cases none
        · obtain ⟨same, none⟩ := List.cons.inj alone
          cases same
          exact ⟨some a, by simp [single], map_eq_ok.2 ⟨a, accepted, rfl⟩,
            gather_single_some.2 ⟨none, kept⟩⟩
    · simpa [single, here, Gives] using ih

end Single

/-! ## Records side by side -/

/-- Two records side by side; every member is gathered into both. -/
def beside (first : Record σ) (second : Record τ) : Record (σ × τ) where
  given fields name := first.given fields.1 name || second.given fields.2 name
  put fields name value := do
    let a ← first.put fields.1 name value
    let b ← second.put fields.2 name value
    pure (a, b)

section

variable {first : Record σ} {second : Record τ} {name : String} {value : Json}

/-- The member has nothing to do with the second record. -/
theorem beside_put_left {b : τ} (apart : second.put b name value = .ok b) (a : σ) :
    (first.beside second).put (a, b) name value = (·, b) <$> first.put a name value := by
  show (do let a ← first.put a name value; let b ← second.put b name value; pure (a, b)) = _
  rw [apart]
  cases first.put a name value <;> rfl

/-- The member has nothing to do with the first record. -/
theorem beside_put_right {a : σ} (apart : first.put a name value = .ok a) (b : τ) :
    (first.beside second).put (a, b) name value = (a, ·) <$> second.put b name value := by
  show (do let a ← first.put a name value; let b ← second.put b name value; pure (a, b)) = _
  rw [apart]
  cases second.put b name value <;> rfl

/-- The member has nothing to do with either record. -/
theorem beside_put_other {a : σ} {b : τ} (apart : first.put a name value = .ok a)
    (apart' : second.put b name value = .ok b) :
    (first.beside second).put (a, b) name value = .ok (a, b) := by
  rw [beside_put_left apart', apart]
  rfl

end

/-- Records side by side have nothing to do with each other. -/
theorem gather_beside {first : Record σ} {second : Record τ} {a a' : σ} {b b' : τ}
    {members : List (String × Json)} :
    (first.beside second).gather (a, b) members = .ok (a', b') ↔
      first.gather a members = .ok a' ∧ second.gather b members = .ok b' := by
  induction members generalizing a b with
  | nil => simp [gather]
  | cons member members ih =>
    simp only [gather_cons]
    constructor
    · rintro ⟨⟨next, next'⟩, new, put, later⟩
      obtain ⟨x, putFirst, put⟩ := bind_eq_ok.1 put
      obtain ⟨y, putSecond, same⟩ := bind_eq_ok.1 put
      cases same
      obtain ⟨newFirst, newSecond⟩ := Bool.or_eq_false_iff.1 new
      obtain ⟨gathered, gathered'⟩ := ih.1 later
      exact ⟨⟨_, newFirst, putFirst, gathered⟩, ⟨_, newSecond, putSecond, gathered'⟩⟩
    · rintro ⟨⟨next, newFirst, putFirst, gathered⟩, ⟨next', newSecond, putSecond, gathered'⟩⟩
      refine ⟨(next, next'), Bool.or_eq_false_iff.2 ⟨newFirst, newSecond⟩, ?_,
        ih.2 ⟨gathered, gathered'⟩⟩
      exact bind_eq_ok.2 ⟨next, putFirst, bind_eq_ok.2 ⟨next', putSecond, rfl⟩⟩

/-- A record that keeps the fields of another one in a form of its own. -/
structure Presents (record : Record σ) (form : τ → σ) (parts : Record τ) : Prop where
  given_eq (fields : τ) (name : String) :
    record.given (form fields) name = parts.given fields name
  put_eq (fields : τ) (name : String) (value : Json) :
    record.put (form fields) name value = form <$> parts.put fields name value

theorem Presents.gather {record : Record σ} {form : τ → σ} {parts : Record τ}
    (presents : record.Presents form parts) (fields : τ) (members : List (String × Json)) :
    record.gather (form fields) members = form <$> parts.gather fields members := by
  induction members generalizing fields with
  | nil => rfl
  | cons member members ih =>
    have entered : record.enter (form fields) member = form <$> parts.enter fields member := by
      rw [enter, enter, presents.given_eq, presents.put_eq]
      split <;> rfl
    rw [Record.gather, Record.gather, List.foldlM_cons, List.foldlM_cons, entered]
    cases parts.enter fields member with
    | error fault => rfl
    | ok next => exact ih next

theorem Presents.gather_eq_ok {record : Record σ} {form : τ → σ} {parts : Record τ}
    (presents : record.Presents form parts) (fields : τ) {final : σ}
    {members : List (String × Json)} :
    record.gather (form fields) members = .ok final ↔
      ∃ gathered, parts.gather fields members = .ok gathered ∧ form gathered = final := by
  rw [presents.gather, map_eq_ok]

end Record

namespace EndpointMessage

open Record

theorem record_put_other {fields : Fields} {name : String} (h : isField name = false)
    (value : Json) :
    record.put fields name value =
      .ok { fields with payload := (name, value) :: fields.payload } := by
  simp only [isField, Bool.or_eq_false_iff, beq_eq_false_iff_ne] at h
  simp only [record]
  split
  · exact absurd rfl h.1
  · exact absurd rfl h.2
  · rfl

/-- The record of the payload alone: the members that are no fields, latest first. -/
def payloadRecord : Record (List (String × Json)) where
  given _ _ := false
  put entries name value := .ok (if isField name then entries else (name, value) :: entries)

theorem put_payload_field {name : String} (named : isField name = true)
    (entries : List (String × Json)) (value : Json) :
    payloadRecord.put entries name value = .ok entries := by
  simp [payloadRecord, named]

theorem gather_payloadRecord (entries members : List (String × Json)) :
    payloadRecord.gather entries members =
      .ok ((members.filter (!isField ·.1)).reverse ++ entries) := by
  induction members generalizing entries with
  | nil => rfl
  | cons member members ih =>
    refine gather_cons.2 ⟨_, rfl, rfl, ?_⟩
    rw [ih]
    cases named : isField member.1 <;> simp [named]

/-- A sender and a recipient are gathered as fields by themselves, and the payload beside them. -/
theorem record_presents : record.Presents
    (fun fields : Option (Option String) × Option (Option String) × List (String × Json) =>
      ⟨fields.1, fields.2.1, fields.2.2⟩)
    ((single "from" (Field.optional Field.string)).beside
      ((single "to" (Field.optional Field.string)).beside payloadRecord)) where
  given_eq fields name := by
    by_cases isFrom : name = "from"
    · subst isFrom
      exact (Bool.or_false _).symm
    · by_cases isTo : name = "to"
      · subst isTo
        exact (Bool.or_false _).symm
      · simp [record, beside, single, payloadRecord, isFrom, isTo]
  put_eq fields name value := by
    obtain ⟨sender, recipient, payload⟩ := fields
    by_cases isFrom : name = "from"
    · subst isFrom
      rw [beside_put_left (beside_put_other
        (single_put_other (by decide) recipient value)
        (put_payload_field rfl payload value))]
      show (Field.optional Field.string value >>= fun id =>
          pure (Fields.mk (some id) recipient payload)) =
        _ <$> (·, recipient, payload) <$> some <$> Field.optional Field.string value
      cases Field.optional Field.string value <;> rfl
    · by_cases isTo : name = "to"
      · subst isTo
        rw [beside_put_right (single_put_other (by decide) sender value),
          beside_put_left (put_payload_field rfl payload value)]
        show (Field.optional Field.string value >>= fun id =>
            pure (Fields.mk sender (some id) payload)) =
          _ <$> (sender, ·) <$> (·, payload) <$> some <$> Field.optional Field.string value
        cases Field.optional Field.string value <;> rfl
      · have other : isField name = false := by simp [isField, isFrom, isTo]
        rw [record_put_other other,
          beside_put_right (single_put_other isFrom sender value),
          beside_put_right (single_put_other isTo recipient value)]
        simp [payloadRecord, other]

/-- An endpoint message is made from the members if they give it a sender and a recipient, and all
    other members are its payload. -/
theorem ofMembers_eq_ok {members : List (String × Json)} {m : EndpointMessage} :
    ofMembers members = .ok m ↔
      (∃ sender, Gives (Field.optional Field.string) "from" members sender ∧
        m.sender = sender.join) ∧
      (∃ recipient, Gives (Field.optional Field.string) "to" members recipient ∧
        m.recipient = recipient.join) ∧
      m.payload = .ofMembers (members.filter (!isField ·.1)) := by
  rw [ofMembers, map_eq_ok]
  constructor
  · rintro ⟨fields, gathered, rfl⟩
    obtain ⟨⟨sender, recipient, payload⟩, parts, rfl⟩ :=
      (record_presents.gather_eq_ok (none, none, [])).1 gathered
    obtain ⟨senderGathered, parts⟩ := gather_beside.1 parts
    obtain ⟨recipientGathered, payloadGathered⟩ := gather_beside.1 parts
    rw [gather_payloadRecord, List.append_nil] at payloadGathered
    cases payloadGathered
    refine ⟨⟨sender, gather_single.1 senderGathered, rfl⟩,
      ⟨recipient, gather_single.1 recipientGathered, rfl⟩, ?_⟩
    rw [ofFields, List.reverse_reverse]
  · obtain ⟨_, _, _⟩ := m
    rintro ⟨⟨sender, senderGiven, rfl⟩, ⟨recipient, recipientGiven, rfl⟩, rfl⟩
    have parts := gather_beside.2 ⟨gather_single.2 senderGiven,
      gather_beside.2 ⟨gather_single.2 recipientGiven, gather_payloadRecord [] members⟩⟩
    refine ⟨_, (record_presents.gather_eq_ok (none, none, [])).2 ⟨_, parts, rfl⟩, ?_⟩
    rw [ofFields, List.append_nil, List.reverse_reverse]

/-- A member for the text that there is gives it, and no member gives none. -/
theorem exists_gives {name : String} {members : List (String × Json)} {id : Option String}
    (alone : members.filter (·.1 = name) = id.toList.map fun id => (name, .string id)) :
    ∃ found, Gives (Field.optional Field.string) name members found ∧ id = found.join := by
  cases id with
  | none => exact ⟨none, .inl ⟨alone, rfl⟩, rfl⟩
  | some id => exact ⟨some (some id), .inr ⟨_, _, alone, rfl, rfl⟩, rfl⟩

/-- The members that write an endpoint message make that message, if its payload leaves the names of
    its fields alone. -/
theorem ofMembers_members {m : EndpointMessage}
    (h : ∀ member ∈ m.payload.members, isField member.1 = false) :
    ofMembers m.members = .ok m := by
  obtain ⟨sender, recipient, payload⟩ := m
  have apart {name : String} (named : isField name = true) :
      payload.members.filter (·.1 = name) = [] := by
    refine List.filter_eq_nil_iff.2 fun member mem same => ?_
    rw [← of_decide_eq_true same, h member mem] at named
    cases named
  have senders : (members ⟨sender, recipient, payload⟩).filter (·.1 = "from") =
      sender.toList.map fun id => ("from", .string id) := by
    cases sender <;> cases recipient <;> simpa [members] using apart rfl
  have recipients : (members ⟨sender, recipient, payload⟩).filter (·.1 = "to") =
      recipient.toList.map fun id => ("to", .string id) := by
    cases sender <;> cases recipient <;> simpa [members] using apart rfl
  have others : (members ⟨sender, recipient, payload⟩).filter (!isField ·.1) =
      payload.members := by
    have kept : payload.members.filter (!isField ·.1) = payload.members :=
      List.filter_eq_self.2 fun member mem => by rw [h member mem]; rfl
    cases sender <;> cases recipient <;> simpa [members, isField] using kept
  refine ofMembers_eq_ok.2 ⟨exists_gives senders, exists_gives recipients, ?_⟩
  rw [others, Payload.ofMembers_members]

end EndpointMessage

end ControlChannel
