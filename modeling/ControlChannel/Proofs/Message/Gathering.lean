import ControlChannel.Proofs.Message.Field

/-!
# What records make of declared fields

A record of declared fields can be made from the members of an object if and only if they give each
of its fields a value, and then it holds those values. Constraints may stand in a list as well, with
the values of their fields in order.
-/

namespace ControlChannel

variable {α : Type}

namespace DeclaredField

variable {field : DeclaredField α} {members : List (String × Json)}

/-- The record of the field alone. -/
def record (field : DeclaredField α) : Record (Option α) :=
  Record.single field.name field.type.accept

theorem record_put_other {name : String} (apart : name ≠ field.name) (found : Option α)
    (value : Json) : field.record.put found name value = .ok found :=
  Record.single_put_other apart found value

/-- The members give a field its value if they can be gathered for it and leave it with a value. -/
theorem holds_iff_gather {a : α} :
    field.Holds members a ↔
      ∃ found, field.record.gather none members = .ok found ∧ found.or field.absent = some a := by
  simp only [record, Record.gather_single]
  constructor
  · rintro (⟨alone, writes⟩ | ⟨none, default⟩)
    · exact ⟨some a, .inr ⟨_, a, alone, field.type.accept_eq_ok.2 writes, rfl⟩, rfl⟩
    · exact ⟨.none, .inl ⟨none, rfl⟩, default⟩
  · rintro ⟨found, ⟨none, rfl⟩ | ⟨value, b, alone, accepted, rfl⟩, same⟩
    · exact .absent none same
    · cases same
      exact .written alone (field.type.accept_eq_ok.1 accepted)

theorem holds_required (required : field.absent = none) {a : α} :
    field.Holds members a ↔ field.record.gather none members = .ok (some a) := by
  rw [holds_iff_gather, required]
  simp

/-- A field that may be absent as well as `null`. -/
theorem holds_optional {field : DeclaredField (Option α)} (default : field.absent = some none)
    {a : Option α} : field.Holds members a ↔
      ∃ found, field.record.gather none members = .ok found ∧ a = found.join := by
  rw [holds_iff_gather, default]
  refine exists_congr fun found => and_congr_right fun _ => ?_
  cases found <;> simp [eq_comm]

/-- The body of a class with one field is what the members give that field. -/
theorem one_eq_ok (field : DeclaredField α) (kind : Kind) {a : α} :
    Body.one kind field.name field.type.accept field.absent (.named members) = .ok a ↔
      field.Holds members a := by
  rw [holds_iff_gather, Body.one, bind_eq_ok]
  refine exists_congr fun found => and_congr_right fun _ => ?_
  cases found with
  | some value => simp
  | none => cases field.absent <;> simp

end DeclaredField

open DeclaredField

/-! ## A connectivity notice -/

namespace Body

theorem statusRecord_presents : statusRecord.Presents
    (fun fields : Option String × Option Bool => ⟨fields.1, fields.2⟩)
    (Message.endpointField.record.beside Message.activeField.record) where
  given_eq fields name := by
    by_cases isEndpoint : name = "endpoint"
    · subst isEndpoint
      exact (Bool.or_false _).symm
    · by_cases isActive : name = "active"
      · subst isActive
        rfl
      · simp [statusRecord, Record.beside, record, Record.single, Message.endpointField,
          Message.activeField, isEndpoint, isActive]
  put_eq fields name value := by
    obtain ⟨id, status⟩ := fields
    by_cases isEndpoint : name = "endpoint"
    · subst isEndpoint
      rw [Record.beside_put_left (record_put_other (by decide) status value)]
      show (Field.string value >>= fun id => pure (StatusFields.mk (some id) status)) =
        _ <$> (·, status) <$> some <$> Field.string value
      cases Field.string value <;> rfl
    · by_cases isActive : name = "active"
      · subst isActive
        rw [Record.beside_put_right (record_put_other (by decide) id value)]
        show (Field.boolean value >>= fun status => pure (StatusFields.mk id (some status))) =
          _ <$> (id, ·) <$> some <$> Field.boolean value
        cases Field.boolean value <;> rfl
      · rw [Record.beside_put_other (record_put_other isEndpoint id value)
          (record_put_other isActive status value)]
        simp [statusRecord]

/-- A connectivity notice is made of its two fields. -/
theorem status_eq_ok {members : List (String × Json)} {made : String × Bool} :
    status (.named members) = .ok made ↔
      Message.endpointField.Holds members made.1 ∧ Message.activeField.Holds members made.2 := by
  rw [holds_required rfl, holds_required rfl, ← Record.gather_beside, status, bind_eq_ok]
  constructor
  · rintro ⟨fields, gathered, taken⟩
    obtain ⟨⟨id, status⟩, parts, rfl⟩ :=
      (statusRecord_presents.gather_eq_ok (none, none)).1 gathered
    cases id with
    | none => cases taken
    | some id =>
      cases status with
      | none => cases taken
      | some status =>
        cases taken
        exact parts
  · intro parts
    exact ⟨_, (statusRecord_presents.gather_eq_ok (none, none)).2 ⟨_, parts, rfl⟩, rfl⟩

end Body

/-! ## Constraints -/

namespace VideoConstraints

theorem record_presents : record.Presents
    (fun fields : Option Int32 × Option (Option Int32) × Option (Option Float) =>
      ⟨fields.1, fields.2.1, fields.2.2⟩)
    (idealHeightField.record.beside
      (preferredHeightField.record.beside preferredFpsField.record)) where
  given_eq fields name := by
    by_cases isIdeal : name = "idealHeight"
    · subst isIdeal
      exact (Bool.or_false _).symm
    · by_cases isPreferred : name = "preferredHeight"
      · subst isPreferred
        exact (Bool.or_false _).symm
      · by_cases isRate : name = "preferredFps"
        · subst isRate
          rfl
        · simp [record, Record.beside, DeclaredField.record, Record.single, idealHeightField,
            preferredHeightField, preferredFpsField, isIdeal, isPreferred, isRate]
  put_eq fields name value := by
    obtain ⟨height, preferred, rate⟩ := fields
    by_cases isIdeal : name = "idealHeight"
    · subst isIdeal
      rw [Record.beside_put_left (Record.beside_put_other
        (record_put_other (by decide) preferred value) (record_put_other (by decide) rate value))]
      show (Field.int32 value >>= fun n => pure (Fields.mk (some n) preferred rate)) =
        _ <$> (·, preferred, rate) <$> some <$> Field.int32 value
      cases Field.int32 value <;> rfl
    · by_cases isPreferred : name = "preferredHeight"
      · subst isPreferred
        rw [Record.beside_put_right (record_put_other (by decide) height value),
          Record.beside_put_left (record_put_other (by decide) rate value)]
        show (Field.optional Field.int32 value >>= fun n =>
            pure (Fields.mk height (some n) rate)) =
          _ <$> (height, ·) <$> (·, rate) <$> some <$> Field.optional Field.int32 value
        cases Field.optional Field.int32 value <;> rfl
      · by_cases isRate : name = "preferredFps"
        · subst isRate
          rw [Record.beside_put_right (record_put_other (by decide) height value),
            Record.beside_put_right (record_put_other (by decide) preferred value)]
          show (Field.optional Field.real value >>= fun x =>
              pure (Fields.mk height preferred (some x))) =
            _ <$> (height, ·) <$> (preferred, ·) <$> some <$> Field.optional Field.real value
          cases Field.optional Field.real value <;> rfl
        · rw [Record.beside_put_other (record_put_other isIdeal height value)
            (Record.beside_put_other (record_put_other isPreferred preferred value)
              (record_put_other isRate rate value))]
          simp [record]

/-- How constraints are written: as an object with their fields, or as a list of the fields' values
    in order, from whose end those may be missing that need not be given. -/
inductive WrittenAs : Json → VideoConstraints → Prop where
  | object {members : List (String × Json)} {c : VideoConstraints} :
      idealHeightField.Holds members c.idealHeight →
      preferredHeightField.Holds members c.preferredHeight →
      preferredFpsField.Holds members c.preferredFps → WrittenAs (.object members) c
  | ideal {height : Json} {n : Int32} : FieldType.int32.Writes height n →
      WrittenAs (.array [height]) ⟨n, none, none⟩
  | heights {height preferred : Json} {n : Int32} {p : Option Int32} :
      FieldType.int32.Writes height n → FieldType.int32.optional.Writes preferred p →
      WrittenAs (.array [height, preferred]) ⟨n, p, none⟩
  | all {height preferred rate : Json} {n : Int32} {p : Option Int32} {x : Option Float} :
      FieldType.int32.Writes height n → FieldType.int32.optional.Writes preferred p →
      FieldType.real.optional.Writes rate x →
      WrittenAs (.array [height, preferred, rate]) ⟨n, p, x⟩

theorem object_eq_ok {members : List (String × Json)} {c : VideoConstraints} :
    ofJson (.object members) = .ok c ↔
      idealHeightField.Holds members c.idealHeight ∧
        preferredHeightField.Holds members c.preferredHeight ∧
        preferredFpsField.Holds members c.preferredFps := by
  rw [holds_required rfl, holds_optional rfl, holds_optional rfl, ofJson, bind_eq_ok]
  constructor
  · rintro ⟨fields, gathered, made⟩
    obtain ⟨⟨height, preferred, rate⟩, parts, rfl⟩ :=
      (record_presents.gather_eq_ok (none, none, none)).1 gathered
    obtain ⟨heightGathered, parts⟩ := Record.gather_beside.1 parts
    obtain ⟨preferredGathered, rateGathered⟩ := Record.gather_beside.1 parts
    cases height with
    | none => cases made
    | some height =>
      cases made
      exact ⟨heightGathered, ⟨_, preferredGathered, rfl⟩, ⟨_, rateGathered, rfl⟩⟩
  · obtain ⟨height, preferred, rate⟩ := c
    rintro ⟨heightGathered, ⟨p, preferredGathered, rfl⟩, ⟨x, rateGathered, rfl⟩⟩
    have parts := Record.gather_beside.2
      ⟨heightGathered, Record.gather_beside.2 ⟨preferredGathered, rateGathered⟩⟩
    exact ⟨_, (record_presents.gather_eq_ok (none, none, none)).2 ⟨_, parts, rfl⟩, rfl⟩

theorem items_eq_ok {items : List Json} {c : VideoConstraints} :
    ofItems items = .ok c ↔ WrittenAs (.array items) c := by
  match items with
  | [] =>
    constructor
    · rintro ⟨⟩
    · rintro ⟨⟩
  | [height] =>
    constructor
    · intro h
      obtain ⟨n, heightTaken, same⟩ := bind_eq_ok.1 h
      cases same
      exact .ideal (FieldType.int32.accept_eq_ok.1 heightTaken)
    · rintro (_ | heightWritten)
      exact bind_eq_ok.2 ⟨_, FieldType.int32.accept_eq_ok.2 heightWritten, rfl⟩
  | [height, preferred] =>
    constructor
    · intro h
      obtain ⟨n, heightTaken, h⟩ := bind_eq_ok.1 h
      obtain ⟨p, preferredTaken, same⟩ := bind_eq_ok.1 h
      cases same
      exact .heights (FieldType.int32.accept_eq_ok.1 heightTaken)
        (FieldType.int32.optional.accept_eq_ok.1 preferredTaken)
    · rintro (_ | _ | ⟨heightWritten, preferredWritten⟩)
      exact bind_eq_ok.2 ⟨_, FieldType.int32.accept_eq_ok.2 heightWritten,
        bind_eq_ok.2 ⟨_, FieldType.int32.optional.accept_eq_ok.2 preferredWritten, rfl⟩⟩
  | height :: preferred :: rate :: more =>
    constructor
    · intro h
      obtain ⟨n, heightTaken, h⟩ := bind_eq_ok.1 h
      obtain ⟨p, preferredTaken, h⟩ := bind_eq_ok.1 h
      obtain ⟨x, rateTaken, same⟩ := bind_eq_ok.1 h
      cases more with
      | nil =>
        cases same
        exact .all (FieldType.int32.accept_eq_ok.1 heightTaken)
          (FieldType.int32.optional.accept_eq_ok.1 preferredTaken)
          (FieldType.real.optional.accept_eq_ok.1 rateTaken)
      | cons extra more => cases same
    · rintro (_ | _ | _ | ⟨heightWritten, preferredWritten, rateWritten⟩)
      exact bind_eq_ok.2 ⟨_, FieldType.int32.accept_eq_ok.2 heightWritten,
        bind_eq_ok.2 ⟨_, FieldType.int32.optional.accept_eq_ok.2 preferredWritten,
          bind_eq_ok.2 ⟨_, FieldType.real.optional.accept_eq_ok.2 rateWritten, rfl⟩⟩⟩

/-- Constraints are taken from what writes them. -/
theorem ofJson_eq_ok {value : Json} {c : VideoConstraints} :
    ofJson value = .ok c ↔ WrittenAs value c := by
  cases value with
  | object members =>
    rw [object_eq_ok]
    constructor
    · rintro ⟨height, preferred, rate⟩
      exact .object height preferred rate
    · rintro ⟨height, preferred, rate⟩
      exact ⟨height, preferred, rate⟩
  | array items => exact items_eq_ok
  | _ =>
    constructor
    · rintro ⟨⟩
    · rintro ⟨⟩

end VideoConstraints

/-! ## Endpoint messages -/

namespace EndpointMessage

/-- An endpoint message is made of its two fields, and of all other members. -/
theorem ofMembers_iff {members : List (String × Json)} {m : EndpointMessage} :
    ofMembers members = .ok m ↔
      senderField.Holds members m.sender ∧
        recipientField.Holds members m.recipient ∧
        m.payload = .ofMembers (members.filter (!isField ·.1)) := by
  rw [holds_optional rfl, holds_optional rfl, ofMembers_eq_ok]
  simp only [DeclaredField.record, Record.gather_single]
  rfl

end EndpointMessage

end ControlChannel
