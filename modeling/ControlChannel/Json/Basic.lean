import ControlChannel.KeyMap

/-!
# JSON values

A value as its text gives it: the members of an object stand in their written order and a name
may stand there more than once. `Json.canonical` is the form in which an object is a map: members
in the order of their names, each name once, the last value winning. What a message carries
through unread is kept in that form.
-/

namespace ControlChannel

/-- A number: an integer written without fraction and exponent, or a binary floating-point
    value. -/
inductive Number where
  | integer (value : Int)
  | real (value : Float)
  deriving DecidableEq, Repr

/-- A JSON value. -/
inductive Json where
  | null
  | boolean (value : Bool)
  | number (value : Number)
  | string (value : String)
  | array (items : List Json)
  | object (members : List (String × Json))
  deriving BEq, Repr, Inhabited

namespace Json

mutual

/-- The value with the members of every object inside it put in order, the last of equal names
    winning. -/
def canonical : Json → Json
  | .array items => .array (canonicalItems items)
  | .object members => .object (canonicalMembers [] members)
  | scalar => scalar

/-- The items, each in canonical form. -/
def canonicalItems : List Json → List Json
  | [] => []
  | item :: rest => item.canonical :: canonicalItems rest

/-- The members entered one after the other into the entries collected so far. -/
def canonicalMembers (entries : List (String × Json)) :
    List (String × Json) → List (String × Json)
  | [] => entries
  | (name, value) :: rest =>
      canonicalMembers (insertEntry name value.canonical entries) rest

end

mutual

/-- The members of every object inside the value are in order, without repeats. -/
def IsCanonical : Json → Prop
  | .array items => AllCanonical items
  | .object members => Ascending members ∧ MembersCanonical members
  | _ => True

/-- Every item is canonical. -/
def AllCanonical : List Json → Prop
  | [] => True
  | item :: rest => item.IsCanonical ∧ AllCanonical rest

/-- The value of every member is canonical. -/
def MembersCanonical : List (String × Json) → Prop
  | [] => True
  | (_, value) :: rest => value.IsCanonical ∧ MembersCanonical rest

end

theorem membersCanonical_iff {members : List (String × Json)} :
    MembersCanonical members ↔ ∀ member ∈ members, member.2.IsCanonical := by
  induction members with
  | nil => simp [MembersCanonical]
  | cons head rest ih => simp [MembersCanonical, ih]

theorem MembersCanonical.insertEntry {entries : List (String × Json)} {value : Json}
    (h : MembersCanonical entries) (name : String) (hv : value.IsCanonical) :
    MembersCanonical (insertEntry name value entries) := by
  rw [membersCanonical_iff] at h ⊢
  intro entry mem
  rcases of_mem_insertEntry mem with rfl | mem
  · exact hv
  · exact h entry mem

mutual

/-- Putting a value in canonical form succeeds. -/
theorem isCanonical_canonical : ∀ value : Json, value.canonical.IsCanonical
  | .array items => by
      simpa [canonical, IsCanonical] using allCanonical_canonicalItems items
  | .object members => by
      simpa [canonical, IsCanonical] using
        isCanonical_canonicalMembers members [] .nil (by simp [MembersCanonical])
  | .null | .boolean _ | .number _ | .string _ => by simp [canonical, IsCanonical]

theorem allCanonical_canonicalItems : ∀ items : List Json, AllCanonical (canonicalItems items)
  | [] => by simp [canonicalItems, AllCanonical]
  | item :: rest => by
      simpa [canonicalItems, AllCanonical] using
        ⟨isCanonical_canonical item, allCanonical_canonicalItems rest⟩

/-- Members entered into canonical entries leave canonical entries. -/
theorem isCanonical_canonicalMembers : ∀ (members entries : List (String × Json)),
    Ascending entries → MembersCanonical entries →
      Ascending (canonicalMembers entries members) ∧
        MembersCanonical (canonicalMembers entries members)
  | [], entries, hasc, hcan => by simpa [canonicalMembers] using ⟨hasc, hcan⟩
  | (name, value) :: rest, entries, hasc, hcan => by
      simpa [canonicalMembers] using
        isCanonical_canonicalMembers rest _ (hasc.insertEntry name value.canonical)
          (hcan.insertEntry name (isCanonical_canonical value))

end

mutual

/-- How deep arrays and objects nest in the value; a scalar has depth zero. -/
def depth : Json → Nat
  | .array items => depthItems items + 1
  | .object members => depthMembers members + 1
  | _ => 0

/-- The greatest depth among the items. -/
def depthItems : List Json → Nat
  | [] => 0
  | item :: rest => max item.depth (depthItems rest)

/-- The greatest depth among the members' values. -/
def depthMembers : List (String × Json) → Nat
  | [] => 0
  | (_, value) :: rest => max value.depth (depthMembers rest)

end

/-- A text, or nothing. -/
def ofOption : Option String → Json
  | none => .null
  | some text => .string text

/-- The array of texts. -/
def ofStrings (texts : List String) : Json :=
  .array (texts.map .string)

end Json

/-- The members of an object that is carried through unread: a map by name, with every value in
    canonical form. -/
structure Payload where
  members : List (String × Json)
  canonical : (Json.object members).IsCanonical

namespace Payload

instance : BEq Payload := ⟨fun a b => a.members == b.members⟩

instance : Repr Payload := ⟨fun payload => reprPrec payload.members⟩

/-- The payload of a list of members, the last of equal names winning. -/
def ofMembers (members : List (String × Json)) : Payload :=
  ⟨Json.canonicalMembers [] members,
    Json.isCanonical_canonicalMembers members [] .nil (by simp [Json.MembersCanonical])⟩

/-- The payload without members. -/
def empty : Payload := ofMembers []

instance : Inhabited Payload := ⟨empty⟩

end Payload

end ControlChannel
