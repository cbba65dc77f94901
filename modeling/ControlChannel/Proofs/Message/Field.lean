import ControlChannel.Proofs.Message.RoundTrip

/-!
# Declared fields

A type of field says which JSON values a field takes, and for what. A declared field has a name, a
type, and a value for the case that no member has its name, unless it is required. An object holds a
value of the field if its only member of that name writes the value, or if it has no such member and
the field may be absent.
-/

namespace ControlChannel

variable {α : Type}

/-! ## Values -/

namespace Field

variable {value : Json}

theorem string_eq_ok {s : String} : string value = .ok s ↔ value = .string s := by
  cases value <;> simp [string, refuse]

theorem mapM_string_eq_ok {items : List Json} {ids : List String} :
    items.mapM string = .ok ids ↔ items = ids.map .string := by
  induction items generalizing ids with
  | nil => cases ids <;> simp
  | cons item rest ih =>
    simp only [List.mapM_cons, bind_eq_ok, string_eq_ok, ih, pure_eq_ok, Except.ok.injEq]
    constructor
    · rintro ⟨id, rfl, ids, rfl, rfl⟩
      rfl
    · intro same
      cases ids with
      | nil => cases same
      | cons id ids =>
        cases same
        exact ⟨id, rfl, ids, rfl, rfl⟩

theorem strings_eq_ok {ids : List String} :
    strings value = .ok ids ↔ value = .array (ids.map .string) := by
  cases value with
  | array items => rw [strings, mapM_string_eq_ok, Json.array.injEq]
  | _ => simp [strings, refuse]

theorem boolean_eq_ok {b : Bool} : boolean value = .ok b ↔ value = .boolean b := by
  cases value <;> simp [boolean, refuse]

/-- An integer field takes the integers in its range, and no other number. -/
theorem int32_eq_ok {n : Int32} : int32 value = .ok n ↔ value = .number (.integer n.toInt) := by
  constructor
  · intro h
    unfold int32 at h
    split at h
    · split at h
      · rename_i inRange
        cases h
        rw [Int32.toInt_ofInt_of_le inRange.1 (Int.lt_add_one_of_le inRange.2)]
      · cases h
    · cases h
  · rintro rfl
    exact int32_ofInt32 n

theorem real_eq_ok {x : Float} : real value = .ok x ↔
    value = .number (.real x) ∨ ∃ n, value = .number (.integer n) ∧ x = realOfInteger n := by
  cases value with
  | number n =>
    cases n with
    | integer n => simp [real, eq_comm]
    | real y => simp [real]
  | _ => simp [real, refuse]

theorem optional_eq_ok {accept : Json → Except Fault α} {a : Option α} :
    optional accept value = .ok a ↔
      value = .null ∧ a = none ∨ value ≠ .null ∧ ∃ b, accept value = .ok b ∧ a = some b := by
  have given : some <$> accept value = .ok a ↔ ∃ b, accept value = .ok b ∧ a = some b := by
    rw [map_eq_ok]
    simp only [eq_comm]
  cases value with
  | null => simp [optional, eq_comm]
  | _ => simpa [optional] using given

end Field

/-- A type of field: how a value of it is taken from JSON, and by which JSON it is written. -/
structure FieldType (α : Type) where
  accept : Json → Except Fault α
  Writes : Json → α → Prop
  accept_eq_ok {value : Json} {a : α} : accept value = .ok a ↔ Writes value a

namespace FieldType

/-- A text. -/
def string : FieldType String :=
  ⟨Field.string, fun value s => value = .string s, Field.string_eq_ok⟩

/-- A truth value. -/
def boolean : FieldType Bool :=
  ⟨Field.boolean, fun value b => value = .boolean b, Field.boolean_eq_ok⟩

/-- A list of texts. -/
def strings : FieldType (List String) :=
  ⟨Field.strings, fun value ids => value = .array (ids.map .string), Field.strings_eq_ok⟩

/-- An integer of 32 bits. -/
def int32 : FieldType Int32 :=
  ⟨Field.int32, fun value n => value = .number (.integer n.toInt), Field.int32_eq_ok⟩

/-- A number of any form; an integer stands for the floating-point value nearest to it. -/
def real : FieldType Float where
  accept := Field.real
  Writes value x :=
    value = .number (.real x) ∨ ∃ n, value = .number (.integer n) ∧ x = Field.realOfInteger n
  accept_eq_ok := Field.real_eq_ok

/-- A value, or `null` for none. -/
def optional (type : FieldType α) : FieldType (Option α) where
  accept := Field.optional type.accept
  Writes value a :=
    value = .null ∧ a = none ∨ value ≠ .null ∧ ∃ b, type.Writes value b ∧ a = some b
  accept_eq_ok {value a} := by
    simp only [Field.optional_eq_ok, type.accept_eq_ok]

end FieldType

/-! ## Fields -/

/-- A declared field. Without a member of its name it has the value `absent`, and is required if
    there is no such value. -/
structure DeclaredField (α : Type) where
  name : String
  type : FieldType α
  absent : Option α := none

namespace DeclaredField

variable {field : DeclaredField α} {members : List (String × Json)} {a : α}

/-- The members of an object give the field this value. -/
inductive Holds (field : DeclaredField α) (members : List (String × Json)) : α → Prop where
  | written {value : Json} {a : α} : members.filter (·.1 = field.name) = [(field.name, value)] →
      field.type.Writes value a → Holds field members a
  | absent {a : α} : members.filter (·.1 = field.name) = [] → field.absent = some a →
      Holds field members a

/-- The members of an object are as the field asks: not more than one has its name, one has if the
    field is required, and its value is of the field's type. -/
structure MetBy (field : DeclaredField α) (members : List (String × Json)) : Prop where
  once : (members.filter (·.1 = field.name)).length ≤ 1
  occurs : field.absent = none → ∃ value, (field.name, value) ∈ members
  typed : ∀ value, (field.name, value) ∈ members → ∃ a, field.type.Writes value a

/-- Members of another name have no part in it. -/
theorem holds_filter {name : String} (apart : field.name ≠ name) :
    field.Holds (members.filter (·.1 ≠ name)) a ↔ field.Holds members a := by
  have same := Record.filter_name_of_ne apart members
  constructor
  · rintro (⟨alone, writes⟩ | ⟨none, default⟩)
    · exact .written (same ▸ alone) writes
    · exact .absent (same ▸ none) default
  · rintro (⟨alone, writes⟩ | ⟨none, default⟩)
    · exact .written (same.trans alone) writes
    · exact .absent (same.trans none) default

theorem mem_filter_name {name : String} {value : Json} :
    (name, value) ∈ members.filter (·.1 = name) ↔ (name, value) ∈ members := by
  simp

/-- The members are as the field asks if they give it a value. -/
theorem metBy_iff : field.MetBy members ↔ ∃ a, field.Holds members a := by
  constructor
  · rintro ⟨once, occurs, typed⟩
    cases found : members.filter (·.1 = field.name) with
    | nil =>
      cases default : field.absent with
      | some a => exact ⟨a, .absent found default⟩
      | none =>
        obtain ⟨value, mem⟩ := occurs default
        rw [← mem_filter_name, found] at mem
        cases mem
    | cons member rest =>
      obtain rfl : rest = [] := by
        rw [found, List.length_cons] at once
        exact List.length_eq_zero_iff.1 (by omega)
      have mem : member ∈ members.filter (·.1 = field.name) := by simp [found]
      obtain ⟨inMembers, named⟩ := List.mem_filter.1 mem
      obtain ⟨name, value⟩ := member
      obtain rfl : name = field.name := of_decide_eq_true named
      obtain ⟨a, writes⟩ := typed value inMembers
      exact ⟨a, .written found writes⟩
  · rintro ⟨a, ⟨alone, writes⟩ | ⟨none, default⟩⟩
    · refine ⟨by rw [alone]; exact Nat.le_refl 1, fun _ => ?_, fun value mem => ?_⟩
      · exact ⟨_, mem_filter_name.1 (alone ▸ List.mem_singleton_self _)⟩
      · rw [← mem_filter_name, alone, List.mem_singleton] at mem
        cases mem
        exact ⟨a, writes⟩
    · refine ⟨by rw [none]; exact Nat.zero_le 1, fun required => ?_, fun value mem => ?_⟩
      · rw [required] at default
        cases default
      · rw [← mem_filter_name, none] at mem
        cases mem

end DeclaredField

/-! ## The fields of messages -/

namespace VideoConstraints

def idealHeightField : DeclaredField Int32 := ⟨"idealHeight", .int32, none⟩

def preferredHeightField : DeclaredField (Option Int32) :=
  ⟨"preferredHeight", .optional .int32, some none⟩

def preferredFpsField : DeclaredField (Option Float) := ⟨"preferredFps", .optional .real, some none⟩

end VideoConstraints

namespace EndpointMessage

def senderField : DeclaredField (Option String) := ⟨"from", .optional .string, some none⟩

def recipientField : DeclaredField (Option String) := ⟨"to", .optional .string, some none⟩

end EndpointMessage

namespace Message

def versionField : DeclaredField (Option String) := ⟨"version", .optional .string, some none⟩

def pinnedEndpointField : DeclaredField (Option String) :=
  ⟨"pinnedEndpoint", .optional .string, some none⟩

def pinnedEndpointsField : DeclaredField (List String) := ⟨"pinnedEndpoints", .strings, some []⟩

def selectedEndpointField : DeclaredField (Option String) :=
  ⟨"selectedEndpoint", .optional .string, some none⟩

def selectedEndpointsField : DeclaredField (List String) :=
  ⟨"selectedEndpoints", .strings, some []⟩

def maxFrameHeightField : DeclaredField Int32 := ⟨"maxFrameHeight", .int32, none⟩

def lastNField : DeclaredField Int32 := ⟨"lastN", .int32, none⟩

def dominantSpeakerField : DeclaredField String := ⟨"dominantSpeakerEndpoint", .string, none⟩

def endpointField : DeclaredField String := ⟨"endpoint", .string, none⟩

def activeField : DeclaredField Bool := ⟨"active", .boolean, none⟩

def lastNEndpointsField : DeclaredField (List String) := ⟨"lastNEndpoints", .strings, none⟩

end Message

end ControlChannel
