import ControlChannel.Json.Basic

/-!
# Values as trees

Induction over the values inside a value, properties that hold everywhere inside one, and what
canonical form keeps: it brings in no new numbers, nests no deeper, repeats no name, and of members
with equal names it keeps the last.
-/

namespace ControlChannel

namespace Json

/-! ## Induction -/

/-- A property of all values, by induction over the items and the members inside a value. -/
@[elab_as_elim, induction_eliminator]
theorem inductionOn {motive : Json → Prop} (null : motive .null)
    (boolean : ∀ value, motive (.boolean value)) (number : ∀ value, motive (.number value))
    (string : ∀ value, motive (.string value))
    (array : ∀ items, (∀ item ∈ items, motive item) → motive (.array items))
    (object : ∀ members, (∀ member ∈ members, motive member.2) → motive (.object members))
    (value : Json) : motive value := by
  refine @Json.rec motive (fun items => ∀ item ∈ items, motive item)
    (fun members => ∀ member ∈ members, motive member.2) (fun member => motive member.2)
    null boolean number string array object (by simp) ?_ (by simp) ?_ (fun _ _ h => h) value
  · intro head rest hhead hrest item mem
    rcases List.mem_cons.1 mem with rfl | mem
    · exact hhead
    · exact hrest item mem
  · intro head rest hhead hrest member mem
    rcases List.mem_cons.1 mem with rfl | mem
    · exact hhead
    · exact hrest member mem

/-! ## Properties of all values inside a value -/

mutual

/-- The property holds of the value and of every value inside it. -/
def Everywhere (p : Json → Prop) : Json → Prop
  | .array items => p (.array items) ∧ EverywhereItems p items
  | .object members => p (.object members) ∧ EverywhereMembers p members
  | scalar => p scalar

/-- The property holds everywhere inside every item. -/
def EverywhereItems (p : Json → Prop) : List Json → Prop
  | [] => True
  | item :: rest => item.Everywhere p ∧ EverywhereItems p rest

/-- The property holds everywhere inside the value of every member. -/
def EverywhereMembers (p : Json → Prop) : List (String × Json) → Prop
  | [] => True
  | (_, value) :: rest => value.Everywhere p ∧ EverywhereMembers p rest

end

variable {p : Json → Prop}

theorem everywhere_array {items : List Json} :
    (Json.array items).Everywhere p ↔ p (.array items) ∧ ∀ item ∈ items, item.Everywhere p := by
  have step : ∀ items, EverywhereItems p items ↔ ∀ item ∈ items, item.Everywhere p := by
    intro items
    induction items with
    | nil => simp [EverywhereItems]
    | cons item rest ih => simp [EverywhereItems, ih]
  rw [Everywhere, step]

theorem everywhere_object {members : List (String × Json)} :
    (Json.object members).Everywhere p ↔
      p (.object members) ∧ ∀ member ∈ members, member.2.Everywhere p := by
  have step : ∀ members, EverywhereMembers p members ↔
      ∀ member ∈ members, member.2.Everywhere p := by
    intro members
    induction members with
    | nil => simp [EverywhereMembers]
    | cons member rest ih => simp [EverywhereMembers, ih]
  rw [Everywhere, step]

theorem allCanonical_iff {items : List Json} :
    AllCanonical items ↔ ∀ item ∈ items, item.IsCanonical := by
  induction items with
  | nil => simp [AllCanonical]
  | cons item rest ih => simp [AllCanonical, ih]

theorem isCanonical_array {items : List Json} :
    (Json.array items).IsCanonical ↔ ∀ item ∈ items, item.IsCanonical := by
  rw [IsCanonical, allCanonical_iff]

theorem isCanonical_object {members : List (String × Json)} :
    (Json.object members).IsCanonical ↔
      Ascending members ∧ ∀ member ∈ members, member.2.IsCanonical := by
  rw [IsCanonical, membersCanonical_iff]

/-! ## Numbers, names and depth -/

/-- The value is not a number, or it is an integer of 64 bits, signed if it is negative and unsigned
    if not. -/
def NumberFits : Json → Prop
  | .number (.integer n) => -((UInt64.size / 2 : Nat) : Int) ≤ n ∧ n < (UInt64.size : Int)
  | .number (.real _) => False
  | _ => True

/-- Every number inside the value is an integer of 64 bits. -/
def IsIntegral (value : Json) : Prop :=
  value.Everywhere NumberFits

/-- The value is not an object, or no two of its members have the same name. -/
def NamesDistinct : Json → Prop
  | .object members => (members.map (·.1)).Nodup
  | _ => True

/-- No object inside the value has two members of the same name. -/
def NoRepeats (value : Json) : Prop :=
  value.Everywhere NamesDistinct

theorem depth_array_le {items : List Json} {d : Nat} :
    (Json.array items).depth ≤ d + 1 ↔ ∀ item ∈ items, item.depth ≤ d := by
  have step : ∀ items, depthItems items ≤ d ↔ ∀ item ∈ items, item.depth ≤ d := by
    intro items
    induction items with
    | nil => simp [depthItems]
    | cons item rest ih => rw [depthItems, Nat.max_le, ih, List.forall_mem_cons]
  rw [depth, Nat.add_le_add_iff_right, step]

theorem depth_object_le {members : List (String × Json)} {d : Nat} :
    (Json.object members).depth ≤ d + 1 ↔ ∀ member ∈ members, member.2.depth ≤ d := by
  have step : ∀ members, depthMembers members ≤ d ↔ ∀ member ∈ members, member.2.depth ≤ d := by
    intro members
    induction members with
    | nil => simp [depthMembers]
    | cons member rest ih => rw [depthMembers, Nat.max_le, ih, List.forall_mem_cons]
  rw [depth, Nat.add_le_add_iff_right, step]

/-- A canonical value repeats no name, since the names of an ascending list are distinct. -/
theorem noRepeats_of_isCanonical {value : Json} (h : value.IsCanonical) : value.NoRepeats := by
  induction value with
  | array items ih =>
    rw [isCanonical_array] at h
    exact everywhere_array.2 ⟨trivial, fun item mem => ih item mem (h item mem)⟩
  | object members ih =>
    obtain ⟨ascending, inside⟩ := isCanonical_object.1 h
    refine everywhere_object.2 ⟨?_, fun member mem => ih member mem (inside member mem)⟩
    exact List.pairwise_map.2 (ascending.imp String.ne_of_lt)
  | _ => trivial

/-! ## Canonical form -/

theorem canonicalItems_eq_map (items : List Json) : canonicalItems items = items.map canonical := by
  induction items with
  | nil => rfl
  | cons item rest ih => rw [canonicalItems, ih, List.map_cons]

/-- An entry of the entries that members were put into is one of the old entries or comes from a
    member. -/
theorem of_mem_canonicalMembers {members entries : List (String × Json)}
    {entry : String × Json} (h : entry ∈ canonicalMembers entries members) :
    entry ∈ entries ∨ ∃ member ∈ members, entry = (member.1, member.2.canonical) := by
  induction members generalizing entries with
  | nil => exact .inl (by simpa [canonicalMembers] using h)
  | cons head rest ih =>
    rw [canonicalMembers] at h
    rcases ih h with old | ⟨member, mem, same⟩
    · rcases of_mem_insertEntry old with same | old
      · exact .inr ⟨head, by simp, same⟩
      · exact .inl old
    · exact .inr ⟨member, List.mem_cons_of_mem _ mem, same⟩

theorem of_mem_canonicalMembers_nil {members : List (String × Json)} {entry : String × Json}
    (h : entry ∈ canonicalMembers [] members) :
    ∃ member ∈ members, entry = (member.1, member.2.canonical) :=
  (of_mem_canonicalMembers h).resolve_left (by simp)

/-- Of members with the same name the last one is kept. -/
theorem lookup_canonicalMembers (members entries : List (String × Json)) (name : String) :
    (canonicalMembers entries members).lookup name =
      ((members.reverse.lookup name).map canonical).or (entries.lookup name) := by
  induction members generalizing entries with
  | nil => simp [canonicalMembers]
  | cons head rest ih =>
    obtain ⟨key, value⟩ := head
    rw [canonicalMembers, ih, lookup_insertEntry, List.reverse_cons, List.lookup_append,
      lookup_cons_entry]
    by_cases same : name = key <;> cases rest.reverse.lookup name <;> simp [same]

/-- Canonical form keeps what holds of all scalars inside a value. -/
theorem Everywhere.canonical {value : Json} (harray : ∀ items, p (.array items))
    (hobject : ∀ members, p (.object members)) (h : value.Everywhere p) :
    value.canonical.Everywhere p := by
  induction value with
  | array items ih =>
    obtain ⟨-, inside⟩ := everywhere_array.1 h
    rw [Json.canonical, canonicalItems_eq_map]
    refine everywhere_array.2 ⟨harray _, fun item mem => ?_⟩
    obtain ⟨source, inItems, rfl⟩ := List.mem_map.1 mem
    exact ih source inItems (inside source inItems)
  | object members ih =>
    obtain ⟨-, inside⟩ := everywhere_object.1 h
    refine everywhere_object.2 ⟨hobject _, fun entry mem => ?_⟩
    obtain ⟨member, inMembers, rfl⟩ := of_mem_canonicalMembers_nil mem
    exact ih member inMembers (inside member inMembers)
  | _ => exact h

theorem IsIntegral.canonical {value : Json} (h : value.IsIntegral) : value.canonical.IsIntegral :=
  Everywhere.canonical (fun _ => trivial) (fun _ => trivial) h

/-- Canonical form nests no deeper. -/
theorem depth_canonical_le {value : Json} {d : Nat} (h : value.depth ≤ d) :
    value.canonical.depth ≤ d := by
  induction value generalizing d with
  | array items ih =>
    cases d with
    | zero => simp [depth] at h
    | succ d =>
      rw [Json.canonical, canonicalItems_eq_map, depth_array_le]
      intro item mem
      obtain ⟨source, inItems, rfl⟩ := List.mem_map.1 mem
      exact ih source inItems (depth_array_le.1 h source inItems)
  | object members ih =>
    cases d with
    | zero => simp [depth] at h
    | succ d =>
      rw [Json.canonical, depth_object_le]
      intro entry mem
      obtain ⟨member, inMembers, rfl⟩ := of_mem_canonicalMembers_nil mem
      exact ih member inMembers (depth_object_le.1 h member inMembers)
  | _ => exact h

theorem insertEntry_of_above {entries : List (String × Json)} {name : String} (value : Json)
    (h : ∀ entry ∈ entries, entry.1 < name) :
    insertEntry name value entries = entries ++ [(name, value)] := by
  induction entries with
  | nil => rfl
  | cons head rest ih =>
    have below : head.1 < name := h head (by simp)
    have notAbove : ¬ name < head.1 := fun above => String.lt_irrefl _ (String.lt_trans below above)
    rw [insertEntry, if_neg notAbove, if_pos below,
      ih fun entry mem => h entry (List.mem_cons_of_mem _ mem), List.cons_append]

/-- Members that go on in order after the entries are only appended to them. -/
theorem canonicalMembers_of_ascending {members entries : List (String × Json)}
    (hasc : Ascending (entries ++ members))
    (hfix : ∀ member ∈ members, member.2.canonical = member.2) :
    canonicalMembers entries members = entries ++ members := by
  induction members generalizing entries with
  | nil => simp [canonicalMembers]
  | cons head rest ih =>
    have below : ∀ entry ∈ entries, entry.1 < head.1 := fun entry mem =>
      (List.pairwise_append.1 hasc).2.2 entry mem head (by simp)
    have shifted : entries ++ head :: rest = (entries ++ [head]) ++ rest := by simp
    rw [canonicalMembers, hfix head (by simp), insertEntry_of_above _ below, shifted]
    exact ih (shifted ▸ hasc) fun member mem => hfix member (List.mem_cons_of_mem _ mem)

/-- A canonical value is its own canonical form. -/
theorem canonical_of_isCanonical {value : Json} (h : value.IsCanonical) :
    value.canonical = value := by
  induction value with
  | array items ih =>
    rw [isCanonical_array] at h
    rw [canonical, canonicalItems_eq_map,
      List.map_congr_left fun item mem => ih item mem (h item mem), List.map_id']
  | object members ih =>
    obtain ⟨ascending, inside⟩ := isCanonical_object.1 h
    rw [canonical, canonicalMembers_of_ascending (by simpa using ascending)
      fun member mem => ih member mem (inside member mem), List.nil_append]
  | _ => rfl

end Json

/-! ## Payloads -/

/-- After the first of the entries there is nothing under a name that does not come after it. -/
theorem Ascending.lookup_tail {α : Type} {entry : String × α} {rest : List (String × α)}
    (h : Ascending (entry :: rest)) {name : String} (notAfter : ¬ entry.1 < name) :
    rest.lookup name = none := by
  refine List.lookup_eq_none_iff.2 fun other mem => bne_iff_ne.2 ?_
  rintro rfl
  exact notAfter ((List.pairwise_cons.1 h).1 other mem)

/-- Entries in order are given by what is found under the names. -/
theorem Ascending.ext {α : Type} {entries others : List (String × α)} (h : Ascending entries)
    (h' : Ascending others) (same : ∀ name, entries.lookup name = others.lookup name) :
    entries = others := by
  induction entries generalizing others with
  | nil =>
    cases others with
    | nil => rfl
    | cons other others =>
      have missing := same other.1
      rw [lookup_cons_entry, if_pos rfl] at missing
      cases missing
  | cons entry rest ih =>
    cases others with
    | nil =>
      have missing := same entry.1
      rw [lookup_cons_entry, if_pos rfl] at missing
      cases missing
    | cons other others =>
      -- A first name before the other one would be found on one side only.
      have names : entry.1 = other.1 := by
        refine eq_of_not_lt (fun before => ?_) (fun before => ?_)
        · have missing := same entry.1
          rw [lookup_cons_entry, if_pos rfl, lookup_cons_entry, if_neg (String.ne_of_lt before),
            h'.lookup_tail (String.lt_asymm before)] at missing
          cases missing
        · have missing := same other.1
          rw [lookup_cons_entry, if_neg (String.ne_of_lt before), lookup_cons_entry, if_pos rfl,
            h.lookup_tail (String.lt_asymm before)] at missing
          cases missing
      have values : entry.2 = other.2 := by
        have found := same entry.1
        rw [lookup_cons_entry, if_pos rfl, lookup_cons_entry, if_pos names] at found
        exact Option.some.inj found
      have tails : rest = others := by
        refine ih (List.pairwise_cons.1 h).2 (List.pairwise_cons.1 h').2 fun name => ?_
        by_cases here : name = entry.1
        · rw [h.lookup_tail (here ▸ String.lt_irrefl _),
            h'.lookup_tail (here ▸ names ▸ String.lt_irrefl _)]
        · have found := same name
          rwa [lookup_cons_entry, if_neg here, lookup_cons_entry, if_neg (names ▸ here)] at found
      rw [tails, Prod.ext names values]

namespace Payload

theorem ext {a b : Payload} (h : a.members = b.members) : a = b := by
  cases a
  cases b
  cases h
  rfl

/-- Payloads in which the same is found under every name are the same. -/
theorem ext_lookup {a b : Payload} (h : ∀ name, a.members.lookup name = b.members.lookup name) :
    a = b :=
  ext ((Json.isCanonical_object.1 a.canonical).1.ext (Json.isCanonical_object.1 b.canonical).1 h)

/-- The payload made of a payload's members is that payload. -/
theorem ofMembers_members (payload : Payload) : ofMembers payload.members = payload := by
  obtain ⟨ascending, inside⟩ := Json.isCanonical_object.1 payload.canonical
  exact ext (Json.canonicalMembers_of_ascending (by simpa using ascending)
    fun member mem => Json.canonical_of_isCanonical (inside member mem))

/-- A payload has what the last member of a name says. -/
theorem lookup_ofMembers (members : List (String × Json)) (name : String) :
    (ofMembers members).members.lookup name =
      (members.reverse.lookup name).map Json.canonical := by
  rw [ofMembers, Json.lookup_canonicalMembers, List.lookup_nil, Option.or_none]

end Payload

end ControlChannel
