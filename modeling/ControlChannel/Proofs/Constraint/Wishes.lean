import ControlChannel.Constraint.Inputs
import Mathlib.Data.Finset.Union

/-!
# What an endpoint wishes to see

The last word of an endpoint on each of three things, as sets of ids and a frame height, and what
its constraints ask of every sender because of it. The inputs of the constraints hold the same
wishes as lists of ids in order, and the constraints that are computed from them are the ones asked
for here.
-/

namespace ControlChannel

/-! ## Maps and sets of ids -/

namespace KeyMap

variable {α : Type} {m : KeyMap α} {key sought : String}

theorem lookup_isSome_iff (entries : List (String × α)) :
    (entries.lookup key).isSome = true ↔ key ∈ entries.map (·.1) := by
  induction entries with
  | nil => simp
  | cons entry rest ih =>
    rw [lookup_cons_entry]
    by_cases here : key = entry.1
    · simp [here]
    · simp [here, ih]

theorem mem_keys : key ∈ m.keys ↔ (m.get? key).isSome = true :=
  (lookup_isSome_iff m.entries).symm

theorem get?_erase (m : KeyMap α) (key sought : String) :
    (m.erase key).get? sought = if sought = key then none else m.get? sought := by
  unfold erase get?
  rw [lookup_filter_key m.entries (· ≠ key)]
  by_cases here : sought = key
  · simp [here]
  · simp [here]

/-- Putting one value under every key of a list. -/
theorem get?_foldl_insert (value : α) (ids : List String) (m : KeyMap α) (sought : String) :
    (ids.foldl (fun m id => m.insert id value) m).get? sought =
      if sought ∈ ids then some value else m.get? sought := by
  induction ids generalizing m with
  | nil => simp
  | cons id rest ih =>
    rw [List.foldl_cons, ih, get?_insert]
    by_cases later : sought ∈ rest
    · simp [later]
    · by_cases here : sought = id
      · simp [here]
      · simp [here, later]

end KeyMap

namespace IdSet

theorem mem_ofList {ids : List String} {id : String} :
    id ∈ (IdSet.ofList ids).toList ↔ id ∈ ids := by
  have entered : IdSet.ofList ids =
      ids.foldl (fun m id => m.insert id ()) (KeyMap.empty : IdSet) := by
    unfold IdSet.ofList KeyMap.ofList
    rw [List.foldl_map]
  rw [toList, KeyMap.mem_keys, entered, KeyMap.get?_foldl_insert]
  by_cases here : id ∈ ids
  · simp [here]
  · simp [here, KeyMap.get?_empty]

/-- The ids are shown as the elements of a set, each once and in increasing order. -/
def Shows (ids : IdSet) (elements : Finset String) : Prop :=
  ids.toList.Pairwise (· < ·) ∧ ids.toList.toFinset = elements

theorem shows_ofList (ids : List String) : (IdSet.ofList ids).Shows ids.toFinset := by
  refine ⟨(IdSet.ofList ids).keys_pairwise, ?_⟩
  ext id
  simp [mem_ofList]

theorem shows_empty : IdSet.Shows .empty ∅ :=
  ⟨.nil, rfl⟩

end IdSet

/-! ## Wishes -/

/-- Whom an endpoint has pinned, whom it has selected, and how high a frame it takes. -/
structure Wishes where
  pinned : Finset String
  selected : Finset String
  maxFrameHeight : Int32

namespace Wishes

/-- What the sender of a video is asked for: the full height, unless the endpoint shows some videos
    large and has selected this one. -/
def request (w : Wishes) (id : String) : VideoConstraints :=
  if id ∈ w.selected ∧ 180 < w.maxFrameHeight then
    { idealHeight := w.maxFrameHeight, preferredHeight := some 360, preferredFps := some 30.0 }
  else { idealHeight := w.maxFrameHeight, preferredHeight := none, preferredFps := none }

end Wishes

namespace ConstraintInputs

/-- The inputs hold the wishes. -/
structure Shows (inputs : ConstraintInputs) (w : Wishes) : Prop where
  pinned : inputs.pinned.Shows w.pinned
  selected : inputs.selected.Shows w.selected
  maxFrameHeight : inputs.maxFrameHeight = w.maxFrameHeight

/-- A selection wins over a pin. -/
theorem get?_constraints (inputs : ConstraintInputs) (id : String) :
    inputs.constraints.get? id =
      if id ∈ inputs.selected.toList then some (selectedConstraints inputs.maxFrameHeight)
      else if id ∈ inputs.pinned.toList then some (.ideal inputs.maxFrameHeight) else none := by
  unfold constraints
  dsimp only
  rw [KeyMap.get?_foldl_insert, KeyMap.get?_foldl_insert, KeyMap.get?_empty]

end ConstraintInputs

namespace SenderConstraints

/-- The constraints ask for what is wished, of everyone pinned or selected apart from the endpoint
    itself. -/
structure Meets (constraints : SenderConstraints) (w : Wishes) (own : String) : Prop where
  keys : constraints.keys.toFinset = (w.pinned ∪ w.selected).erase own
  values : ∀ id ∈ constraints.keys, constraints.get? id = some (w.request id)

end SenderConstraints

namespace ConstraintInputs

variable {inputs : ConstraintInputs} {w : Wishes}

theorem Shows.get?_constraints (shown : inputs.Shows w) (id : String) :
    inputs.constraints.get? id =
      if id ∈ w.pinned ∪ w.selected then some (w.request id) else none := by
  have pinned : id ∈ inputs.pinned.toList ↔ id ∈ w.pinned := by
    rw [← shown.pinned.2, List.mem_toFinset]
  have selected : id ∈ inputs.selected.toList ↔ id ∈ w.selected := by
    rw [← shown.selected.2, List.mem_toFinset]
  rw [ConstraintInputs.get?_constraints, shown.maxFrameHeight]
  simp only [pinned, selected, Finset.mem_union]
  unfold selectedConstraints stageThreshold Wishes.request VideoConstraints.ideal
  by_cases select : id ∈ w.selected
  · simp [select]
  · by_cases pin : id ∈ w.pinned
    · simp [select, pin]
    · simp [select, pin]

theorem Shows.get?_erase (shown : inputs.Shows w) (own id : String) :
    (inputs.constraints.erase own).get? id =
      if id ∈ (w.pinned ∪ w.selected).erase own then some (w.request id) else none := by
  rw [KeyMap.get?_erase, shown.get?_constraints]
  by_cases self : id = own
  · simp [self]
  · simp [self]

/-- The constraints made of the inputs, without any on the endpoint's own video, meet the wishes
    that the inputs hold. -/
theorem Shows.meets (shown : inputs.Shows w) (own : String) :
    SenderConstraints.Meets (inputs.constraints.erase own) w own where
  keys := by
    ext id
    rw [List.mem_toFinset, KeyMap.mem_keys, shown.get?_erase]
    by_cases wanted : id ∈ (w.pinned ∪ w.selected).erase own
    · simp only [wanted, if_true, Option.isSome_some]
    · simp [wanted]
  values := by
    intro id there
    rw [KeyMap.mem_keys, shown.get?_erase] at there
    rw [shown.get?_erase]
    by_cases wanted : id ∈ (w.pinned ∪ w.selected).erase own
    · rw [if_pos wanted]
    · rw [if_neg wanted] at there
      cases there

end ConstraintInputs

end ControlChannel
