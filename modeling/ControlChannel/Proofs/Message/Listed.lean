import ControlChannel.Proofs.Json.Consumption
import ControlChannel.Proofs.Message.Declared

/-!
# Messages in a list

A message is meant to be an object, but a list is taken for one too if a class stands first in it and
the fields of that class follow in their order, without their names. Here is which lists those are,
and what is decoded from them. No list makes an endpoint message, and no other value but an object
or a list makes any message.
-/

namespace ControlChannel

/-! ## Envelopes -/

namespace Json

/-- A list is read where its opening bracket is in front. -/
theorem read_succ_eq_array {depth : Nat} {s rest : List Char} {items : List Json} :
    read (depth + 1) s = .ok (.array items, rest) ↔
      ∃ s₁, skipSpaces s = '[' :: s₁ ∧ readList (read depth) s₁ = .ok (.array items, rest) := by
  constructor
  · intro h
    rcases of_readWith_eq_ok h with ⟨_, _, -, -, same⟩ | ⟨s₁, front, h⟩ | ⟨_, -, h⟩ | plain
    · cases same
    · exact ⟨s₁, front, h⟩
    · obtain ⟨_, -, same⟩ := readObject_eq_ok.1 h
      cases same
    · exact plain.elim
  · rintro ⟨s₁, front, h⟩
    rw [Json.read, readWith_bracket front, h]

/-- A loop over items leaves those alone that were read before it started. -/
theorem itemLoop_readItem_drop {value : Reader Json} {budget s rest : List Char} {first : Bool}
    {base all : List Json} (before : List Json)
    (h : itemLoop (readItem value) budget first (before ++ base) s = .ok (all, rest)) :
    ∃ own, all = own ++ base ∧
      itemLoop (readItem value) budget first before s = .ok (own, rest) := by
  induction budget generalizing first before s with
  | nil => cases h
  | cons b budget ih =>
    rcases itemLoop_eq_ok.1 h with ⟨none, rfl, rfl⟩ | ⟨s₁, next, s₂, found, taken, later⟩
    · exact ⟨before, rfl, itemLoop_eq_ok.2 (.inl ⟨none, rfl, rfl⟩)⟩
    · obtain ⟨item, itemRead, rfl⟩ := readItem_eq_ok.1 taken
      obtain ⟨own, same, looped⟩ := ih (item :: before) later
      exact ⟨own, same, itemLoop_eq_ok.2
        (.inr ⟨s₁, _, s₂, found, readItem_eq_ok.2 ⟨item, itemRead, rfl⟩, looped⟩)⟩

end Json

namespace Envelope

/-- The envelope of a list is read where the list is. The loop starts after the class here, and so
    with a smaller budget than that of the reader of values; but what is left of the text is a
    budget that is great enough. -/
theorem readPositional_of_readList {s rest : List Char} {className : String} {items : List Json}
    (h : Json.readList (Json.read memberDepth) s =
      .ok (.array (.string className :: items), rest)) :
    readPositional s = .ok (⟨className, .positional items⟩, rest) := by
  obtain ⟨reversed, looped, same⟩ := Json.readList_eq_ok.1 h
  obtain rfl : reversed = items.reverse ++ [.string className] := by
    rw [← List.reverse_inj, Json.array.inj same]
    simp
  cases s with
  | nil => cases looped
  | cons c s =>
    rcases itemLoop_eq_ok.1 looped with ⟨-, none, -⟩ | ⟨s₁, next, s₂, found, taken, later⟩
    · simp at none
    · obtain ⟨item, itemRead, rfl⟩ := Json.readItem_eq_ok.1 taken
      obtain ⟨own, split, others⟩ := Json.itemLoop_readItem_drop [] later
      obtain ⟨rfl, same⟩ := List.append_inj' split rfl
      cases same
      have enough := itemLoop_of_length_le
        (Json.readItem_shortens (Json.read_shortens memberDepth)) others (Nat.le_refl s₂.length)
      simp [readPositional, found, readField_className.2 itemRead, readItems, enough]

/-- An envelope is read where a value is that amounts to one. -/
theorem read_of_json {s rest : List Char} {value : Json} {envelope : Envelope}
    (h : Json.read Json.depthLimit s = .ok (value, rest)) (made : ofJson value = some envelope) :
    read s = .ok (envelope, rest) := by
  cases value with
  | object members => exact read_of_object h made
  | array items =>
    obtain ⟨s₁, front, listRead⟩ := Json.read_succ_eq_array.1 h
    rw [read, front]
    cases items with
    | nil => cases made
    | cons item items =>
      cases item with
      | string className =>
        cases made
        exact readPositional_of_readList listRead
      | _ => cases made
  | _ => cases made

end Envelope

namespace Message

/-- A text is decoded into the message that the value it holds makes. -/
theorem decode_eq_ok_iff_json {text : String} {value : Json} (held : Json.ofText text = .ok value)
    {m : Message} : decode text = .ok m ↔
      ∃ envelope, Envelope.ofJson value = some envelope ∧ ofEnvelope envelope = .ok m := by
  constructor
  · intro decoded
    obtain ⟨_, envelope, sameHeld, enveloped, made⟩ := json_of_decode decoded
    cases sameHeld.symm.trans held
    exact ⟨envelope, enveloped, made⟩
  · rintro ⟨envelope, enveloped, made⟩
    obtain ⟨rest, valueRead, ended⟩ := Json.ofText_eq_ok.1 held
    exact decode_eq_ok.2 ⟨envelope, rest, Envelope.read_of_json valueRead enveloped, made, ended⟩

end Message

/-! ## Fields by their place -/

/-- A list of items gives the only field of a class this value: the one item writes it, or there is
    no item and the field may be absent. -/
inductive DeclaredField.Lists {α : Type} (field : DeclaredField α) : List Json → α → Prop where
  | written {value : Json} {a : α} : field.type.Writes value a → Lists field [value] a
  | absent {a : α} : field.absent = some a → Lists field [] a

/-- The message carries what the items after its class give the fields of the class. -/
def Message.ListedBy (items : List Json) : Message → Prop
  | clientHello | unknown => items = []
  | serverHello version => versionField.Lists items version
  | pinnedEndpoint id => pinnedEndpointField.Lists items id
  | pinnedEndpoints ids => pinnedEndpointsField.Lists items ids
  | selectedEndpoint id => selectedEndpointField.Lists items id
  | selectedEndpoints ids => selectedEndpointsField.Lists items ids
  | receiverVideoConstraint height => maxFrameHeightField.Lists items height
  | lastN value => lastNField.Lists items value
  | endpointMessage _ => False
  | dominantSpeaker id => dominantSpeakerField.Lists items id
  | connectivityStatus id active => items = [.string id, .boolean active]
  | lastNEndpoints ids => lastNEndpointsField.Lists items ids
  | senderVideoConstraints constraints => videoConstraintsField.Lists items constraints

namespace Body

theorem empty_positional_eq_ok {items : List Json} : empty (.positional items) = .ok () ↔
    items = [] := by
  cases items with
  | nil => simp [empty]
  | cons item items => simp [empty]

/-- The body of a class with one field takes one item, or none if the field may be absent. -/
theorem one_positional_eq_ok {α : Type} (field : DeclaredField α) (kind : Kind)
    {items : List Json} {a : α} :
    one kind field.name field.type.accept field.absent (.positional items) = .ok a ↔
      field.Lists items a := by
  constructor
  · intro h
    match items with
    | [] =>
      cases default : field.absent with
      | none =>
        rw [default] at h
        cases h
      | some value =>
        rw [default] at h
        cases h
        exact .absent default
    | [item] =>
      obtain ⟨value, accepted, same⟩ := bind_eq_ok.1 h
      cases same
      exact .written (field.type.accept_eq_ok.1 accepted)
    | item :: second :: more =>
      obtain ⟨value, -, refused⟩ := bind_eq_ok.1 h
      cases refused
  · rintro (writes | default)
    · exact bind_eq_ok.2 ⟨a, field.type.accept_eq_ok.2 writes, rfl⟩
    · simp [one, default]

theorem status_positional_eq_ok {items : List Json} {id : String} {active : Bool} :
    status (.positional items) = .ok (id, active) ↔ items = [.string id, .boolean active] := by
  constructor
  · intro h
    match items with
    | [] => cases h
    | [item] =>
      obtain ⟨_, -, refused⟩ := bind_eq_ok.1 h
      cases refused
    | [first, second] =>
      obtain ⟨_, firstTaken, h⟩ := bind_eq_ok.1 h
      obtain ⟨_, secondTaken, same⟩ := bind_eq_ok.1 h
      cases same
      rw [Field.string_eq_ok.1 firstTaken, Field.boolean_eq_ok.1 secondTaken]
    | first :: second :: third :: more =>
      obtain ⟨_, -, h⟩ := bind_eq_ok.1 h
      obtain ⟨_, -, refused⟩ := bind_eq_ok.1 h
      cases refused
  · rintro rfl
    rfl

end Body

namespace Message

variable {items : List Json}

/-- A class without fields. -/
theorem empty_listed (plain : Message) {m : Message} :
    (fun _ => plain) <$> Body.empty (.positional items) = .ok m ↔ items = [] ∧ plain = m := by
  rw [map_eq_ok, ← Body.empty_positional_eq_ok]
  constructor
  · rintro ⟨_, taken, same⟩
    exact ⟨taken, same⟩
  · rintro ⟨taken, same⟩
    exact ⟨(), taken, same⟩

/-- A class with one field. -/
theorem single_listed {α : Type} (field : DeclaredField α) (kind : Kind) (make : α → Message)
    {m : Message} :
    make <$> Body.one kind field.name field.type.accept field.absent (.positional items) = .ok m ↔
      ∃ a, field.Lists items a ∧ make a = m := by
  simp only [map_eq_ok, Body.one_positional_eq_ok]

/-- What is made from the items after a class carries what they give the fields of the class. -/
theorem listedBy_of_ofBody {kind : Kind} {m : Message}
    (made : ofBody kind (.positional items) = .ok m) : m.ListedBy items := by
  cases kind with
  | clientHello =>
    obtain ⟨none, rfl⟩ := (empty_listed clientHello).1 made
    exact none
  | serverHello =>
    obtain ⟨_, lists, rfl⟩ := (single_listed versionField _ _).1 made
    exact lists
  | pinnedEndpoint =>
    obtain ⟨_, lists, rfl⟩ := (single_listed pinnedEndpointField _ _).1 made
    exact lists
  | pinnedEndpoints =>
    obtain ⟨_, lists, rfl⟩ := (single_listed pinnedEndpointsField _ _).1 made
    exact lists
  | selectedEndpoint =>
    obtain ⟨_, lists, rfl⟩ := (single_listed selectedEndpointField _ _).1 made
    exact lists
  | selectedEndpoints =>
    obtain ⟨_, lists, rfl⟩ := (single_listed selectedEndpointsField _ _).1 made
    exact lists
  | receiverVideoConstraint =>
    obtain ⟨_, lists, rfl⟩ := (single_listed maxFrameHeightField _ _).1 made
    exact lists
  | lastN =>
    obtain ⟨_, lists, rfl⟩ := (single_listed lastNField _ _).1 made
    exact lists
  | endpointMessage => cases made
  | dominantSpeaker =>
    obtain ⟨_, lists, rfl⟩ := (single_listed dominantSpeakerField _ _).1 made
    exact lists
  | connectivityStatus =>
    obtain ⟨⟨id, active⟩, taken, rfl⟩ := map_eq_ok.1 made
    exact Body.status_positional_eq_ok.1 taken
  | lastNEndpoints =>
    obtain ⟨_, lists, rfl⟩ := (single_listed lastNEndpointsField _ _).1 made
    exact lists
  | senderVideoConstraints =>
    obtain ⟨_, lists, rfl⟩ := (single_listed videoConstraintsField _ _).1 made
    exact lists
  | unknown =>
    obtain ⟨none, rfl⟩ := (empty_listed unknown).1 made
    exact none

/-- A message that carries what the items give the fields of its class is made from them. -/
theorem ofBody_of_listedBy {m : Message} (listed : m.ListedBy items) :
    ofBody m.kind (.positional items) = .ok m := by
  cases m with
  | clientHello => exact (empty_listed clientHello).2 ⟨listed, rfl⟩
  | serverHello version => exact (single_listed versionField _ _).2 ⟨_, listed, rfl⟩
  | pinnedEndpoint id => exact (single_listed pinnedEndpointField _ _).2 ⟨_, listed, rfl⟩
  | pinnedEndpoints ids => exact (single_listed pinnedEndpointsField _ _).2 ⟨_, listed, rfl⟩
  | selectedEndpoint id => exact (single_listed selectedEndpointField _ _).2 ⟨_, listed, rfl⟩
  | selectedEndpoints ids => exact (single_listed selectedEndpointsField _ _).2 ⟨_, listed, rfl⟩
  | receiverVideoConstraint height =>
    exact (single_listed maxFrameHeightField _ _).2 ⟨_, listed, rfl⟩
  | lastN value => exact (single_listed lastNField _ _).2 ⟨_, listed, rfl⟩
  | endpointMessage m => exact listed.elim
  | dominantSpeaker id => exact (single_listed dominantSpeakerField _ _).2 ⟨_, listed, rfl⟩
  | connectivityStatus id active =>
    exact map_eq_ok.2 ⟨(id, active), Body.status_positional_eq_ok.2 listed, rfl⟩
  | lastNEndpoints ids => exact (single_listed lastNEndpointsField _ _).2 ⟨_, listed, rfl⟩
  | senderVideoConstraints constraints =>
    exact (single_listed videoConstraintsField _ _).2 ⟨_, listed, rfl⟩
  | unknown => exact (empty_listed unknown).2 ⟨listed, rfl⟩

theorem ofBody_positional_eq_ok {kind : Kind} {m : Message} :
    ofBody kind (.positional items) = .ok m ↔ m.kind = kind ∧ m.ListedBy items := by
  constructor
  · intro made
    exact ⟨kind_of_ofBody made, listedBy_of_ofBody made⟩
  · rintro ⟨rfl, listed⟩
    exact ofBody_of_listedBy listed

/-- What is decoded from a list: its first item is a class, and the message of that class carries
    what the other items give its fields. -/
theorem decode_array_eq_ok {text : String} (held : Json.ofText text = .ok (.array items))
    {m : Message} : decode text = .ok m ↔
      ∃ className rest, items = .string className :: rest ∧ m.kind = .ofName className ∧
        m.ListedBy rest := by
  rw [decode_eq_ok_iff_json held]
  constructor
  · rintro ⟨envelope, enveloped, made⟩
    cases items with
    | nil => cases enveloped
    | cons item rest =>
      cases item with
      | string className =>
        cases enveloped
        exact ⟨className, rest, rfl, ofBody_positional_eq_ok.1 made⟩
      | _ => cases enveloped
  · rintro ⟨className, rest, rfl, listed⟩
    exact ⟨⟨className, .positional rest⟩, rfl, ofBody_positional_eq_ok.2 listed⟩

/-- Neither a word, nor a number, nor a string is decoded. -/
theorem decode_scalar {text : String} {value : Json} (held : Json.ofText text = .ok value)
    (noObject : ∀ members, value ≠ .object members) (noList : ∀ items, value ≠ .array items) :
    ∃ e, decode text = .error e := by
  apply decode_error
  intro m decoded
  obtain ⟨envelope, enveloped, -⟩ := (decode_eq_ok_iff_json held).1 decoded
  cases value with
  | object members => exact noObject members rfl
  | array items => exact noList items rfl
  | _ => cases enveloped

/-- Which texts are decoded though what they hold is not an object: those, and only those, that hold a
    list of a class and of what its fields ask, each in its place. The message is of that class and
    carries the values of these fields, so pins, selections, a last-N value and a hello can be
    given as lists. An endpoint message cannot, and every other list and every value that is neither
    a list nor an object is refused. -/
theorem decode_of_not_object {text : String} {value : Json} (held : Json.ofText text = .ok value)
    (noObject : ∀ members, value ≠ .object members) :
    (∀ m, decode text = .ok m ↔ ∃ className items, value = .array (.string className :: items) ∧
      m.kind = .ofName className ∧ m.ListedBy items) ∧
    (∀ e, decode text ≠ .ok (.endpointMessage e)) ∧
    ((∀ items, value ≠ .array items) → ∃ e, decode text = .error e) := by
  have carried (m : Message) : decode text = .ok m ↔
      ∃ className items, value = .array (.string className :: items) ∧
        m.kind = .ofName className ∧ m.ListedBy items := by
    constructor
    · intro decoded
      cases value with
      | array items =>
        obtain ⟨className, rest, rfl, listed⟩ := (decode_array_eq_ok held).1 decoded
        exact ⟨className, rest, rfl, listed⟩
      | object members => exact absurd rfl (noObject members)
      | _ =>
        obtain ⟨e, refused⟩ := decode_scalar held noObject fun _ same => by cases same
        rw [refused] at decoded
        cases decoded
    · rintro ⟨className, items, rfl, listed⟩
      exact (decode_array_eq_ok held).2 ⟨className, items, rfl, listed⟩
  refine ⟨carried, ?_, decode_scalar held noObject⟩
  intro e decoded
  obtain ⟨className, items, -, -, listed⟩ := (carried _).1 decoded
  exact listed

/-- Pins in a list. -/
def listedPins : Json :=
  .array [.string "PinnedEndpointsChangedEvent", Json.ofStrings ["b", "a"]]

theorem decode_of_not_object_pins :
    Json.ofText "[\"PinnedEndpointsChangedEvent\",[\"b\",\"a\"]]" = .ok listedPins ∧
      decode "[\"PinnedEndpointsChangedEvent\",[\"b\",\"a\"]]" =
        .ok (.pinnedEndpoints ["b", "a"]) := by
  have integral : listedPins.IsIntegral := by
    simp [listedPins, Json.ofStrings, Json.IsIntegral, Json.Everywhere, Json.EverywhereItems,
      Json.NumberFits]
  have held : Json.ofText listedPins.toText = .ok listedPins :=
    Json.ofText_toText integral (by decide)
  obtain ⟨carried, -, -⟩ := decode_of_not_object held (by rintro _ ⟨⟩)
  exact ⟨held, (carried _).2 ⟨_, _, rfl, rfl, .written rfl⟩⟩

/-- A hello in a list. -/
def listedHello : Json :=
  .array [.string "ClientHello"]

/-- It is decoded, though a list is not an object. -/
theorem decode_listedHello :
    Json.ofText "[\"ClientHello\"]" = .ok (.array [.string "ClientHello"]) ∧
      decode "[\"ClientHello\"]" = .ok .clientHello := by
  have integral : listedHello.IsIntegral := by
    simp [listedHello, Json.IsIntegral, Json.Everywhere, Json.EverywhereItems, Json.NumberFits]
  have held : Json.ofText listedHello.toText = .ok listedHello :=
    Json.ofText_toText integral (by decide)
  exact ⟨held, (decode_array_eq_ok held).2 ⟨"ClientHello", [], rfl, rfl, rfl⟩⟩

end Message

end ControlChannel
