/-!
# Maps in key order

Finite maps from text keys, kept as lists of entries whose keys increase strictly by code point.
Two maps with the same look-ups are therefore the same list, and listing a map needs no sorting.
The list operations stand on their own, because the members of an object are kept by them too.
-/

namespace ControlChannel

variable {α : Type}

/-- The keys of the entries increase strictly. -/
def Ascending (entries : List (String × α)) : Prop :=
  entries.Pairwise fun a b => a.1 < b.1

/-- Enters `value` under `key` at its place in the order; an entry that is already there under
    the key gives way. -/
def insertEntry (key : String) (value : α) : List (String × α) → List (String × α)
  | [] => [(key, value)]
  | entry :: rest =>
      if key < entry.1 then (key, value) :: entry :: rest
      else if entry.1 < key then entry :: insertEntry key value rest
      else (key, value) :: rest

theorem eq_of_not_lt {a b : String} (hab : ¬ a < b) (hba : ¬ b < a) : a = b :=
  String.le_antisymm (String.not_lt.1 hba) (String.not_lt.1 hab)

/-- An entry of the new list is the one put in or an old one under another key. -/
theorem of_mem_insertEntry {key : String} {value : α} {entries : List (String × α)}
    {entry : String × α} (h : entry ∈ insertEntry key value entries) :
    entry = (key, value) ∨ entry ∈ entries := by
  induction entries with
  | nil => simpa [insertEntry] using h
  | cons head rest ih =>
    unfold insertEntry at h
    split at h
    · simpa using h
    · split at h
      · rcases List.mem_cons.1 h with h | h
        · exact .inr (by simp [h])
        · exact (ih h).imp id (List.mem_cons_of_mem _)
      · exact (List.mem_cons.1 h).imp id (List.mem_cons_of_mem _)

theorem Ascending.nil : Ascending ([] : List (String × α)) :=
  List.Pairwise.nil

/-- Entering a value keeps the order. -/
theorem Ascending.insertEntry {entries : List (String × α)} (h : Ascending entries)
    (key : String) (value : α) : Ascending (insertEntry key value entries) := by
  induction entries with
  | nil => simp [ControlChannel.insertEntry, Ascending]
  | cons head rest ih =>
    obtain ⟨above, tail⟩ := List.pairwise_cons.1 h
    unfold ControlChannel.insertEntry
    split
    · rename_i before
      refine List.pairwise_cons.2 ⟨fun entry mem => ?_, h⟩
      rcases List.mem_cons.1 mem with rfl | mem
      · exact before
      · exact String.lt_trans before (above entry mem)
    · rename_i notBefore
      split
      · rename_i after
        refine List.pairwise_cons.2 ⟨fun entry mem => ?_, ih tail⟩
        rcases of_mem_insertEntry mem with rfl | mem
        · exact after
        · exact above entry mem
      · rename_i notAfter
        obtain rfl : key = head.1 := eq_of_not_lt notBefore notAfter
        exact List.pairwise_cons.2 ⟨above, tail⟩

theorem lookup_cons_entry (entry : String × α) (rest : List (String × α)) (sought : String) :
    (entry :: rest).lookup sought =
      if sought = entry.1 then some entry.2 else rest.lookup sought := by
  obtain ⟨key, value⟩ := entry
  by_cases e : sought = key
  · simp [e]
  · simp [List.lookup_cons, beq_false_of_ne e, e]

/-- Looking a key up after one entry was put in. -/
theorem lookup_insertEntry {entries : List (String × α)} (key sought : String) (value : α) :
    (insertEntry key value entries).lookup sought =
      if sought = key then some value else entries.lookup sought := by
  induction entries with
  | nil => rw [insertEntry, lookup_cons_entry]
  | cons head rest ih =>
    unfold insertEntry
    split
    · rw [lookup_cons_entry]
    · rename_i notBefore
      split
      · rename_i after
        have apart : head.1 ≠ key := fun e => String.lt_irrefl _ (e ▸ after)
        rw [lookup_cons_entry, lookup_cons_entry, ih]
        by_cases e : sought = head.1
        · simp [e, apart]
        · simp [e]
      · rename_i notAfter
        obtain rfl : key = head.1 := eq_of_not_lt notBefore notAfter
        rw [lookup_cons_entry, lookup_cons_entry]
        by_cases e : sought = head.1 <;> simp [e]

/-- Entries that are passed over because of their keys are not there to be looked up. -/
theorem lookup_filter_key (entries : List (String × α)) (keep : String → Bool) (sought : String) :
    (entries.filter fun entry => keep entry.1).lookup sought =
      if keep sought then entries.lookup sought else none := by
  induction entries with
  | nil => simp
  | cons entry rest ih =>
    rw [lookup_cons_entry]
    by_cases kept : keep entry.1
    · rw [List.filter_cons_of_pos (by simpa using kept), lookup_cons_entry, ih]
      by_cases same : sought = entry.1
      · simp [same, kept]
      · simp [same]
    · rw [List.filter_cons_of_neg (by simpa using kept), ih]
      by_cases same : sought = entry.1
      · simp [same, kept]
      · simp [same]

/-- A finite map from text keys. -/
structure KeyMap (α : Type) where
  entries : List (String × α)
  ascending : Ascending entries

namespace KeyMap

instance [DecidableEq α] : DecidableEq (KeyMap α) := fun a b =>
  if h : a.entries = b.entries then isTrue (by cases a; cases b; cases h; rfl)
  else isFalse fun e => h (congrArg entries e)

/-- The map without entries. -/
def empty : KeyMap α := ⟨[], .nil⟩

instance : Inhabited (KeyMap α) := ⟨empty⟩

/-- The value under a key. -/
def get? (m : KeyMap α) (key : String) : Option α :=
  m.entries.lookup key

/-- The keys in increasing order. -/
def keys (m : KeyMap α) : List String :=
  m.entries.map (·.1)

/-- Puts a value under a key, in place of an earlier one. -/
def insert (m : KeyMap α) (key : String) (value : α) : KeyMap α :=
  ⟨insertEntry key value m.entries, m.ascending.insertEntry key value⟩

/-- Takes a key out of the map. -/
def erase (m : KeyMap α) (key : String) : KeyMap α :=
  ⟨m.entries.filter (·.1 ≠ key), m.ascending.filter _⟩

/-- The map of a list of entries, in which a later entry wins over an earlier one. -/
def ofList (entries : List (String × α)) : KeyMap α :=
  entries.foldl (fun m entry => m.insert entry.1 entry.2) empty

/-- The number of entries. -/
def size (m : KeyMap α) : Nat :=
  m.entries.length

theorem get?_empty (key : String) : (empty : KeyMap α).get? key = none := rfl

theorem get?_insert (m : KeyMap α) (key sought : String) (value : α) :
    (m.insert key value).get? sought = if sought = key then some value else m.get? sought :=
  lookup_insertEntry key sought value

/-- The keys of a map increase strictly. -/
theorem keys_pairwise (m : KeyMap α) : m.keys.Pairwise (· < ·) :=
  List.pairwise_map.2 m.ascending

end KeyMap

/-- A finite set of ids. -/
abbrev IdSet := KeyMap Unit

namespace IdSet

/-- The set of the ids in a list; order and repeats do not matter. -/
def ofList (ids : List String) : IdSet :=
  KeyMap.ofList (ids.map fun id => (id, ()))

/-- The ids in increasing order. -/
def toList (ids : IdSet) : List String :=
  ids.keys

end IdSet

end ControlChannel
