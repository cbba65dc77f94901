import ControlChannel.Proofs.Message.NormalForm

/-!
# The class of a message

An object is taken for the message of its class, and has to have exactly one, which is a string. It
does not matter where among the members the class stands, and a class that names no kind makes an
unknown message of any object.
-/

namespace ControlChannel.Message

variable {text : String} {members : List (String × Json)}

/-- What is decoded from an object: its class is the only one and a string, and the message of that
    class is made from the other members. -/
theorem decode_object_eq_ok (held : Json.ofText text = .ok (.object members)) {m : Message} :
    decode text = .ok m ↔
      ∃ className, members.filter (·.1 = classField) = [(classField, .string className)] ∧
        ofBody (.ofName className) (.named (members.filter (·.1 ≠ classField))) = .ok m := by
  constructor
  · intro decoded
    obtain ⟨value, envelope, sameHeld, enveloped, made⟩ := json_of_decode decoded
    obtain rfl : value = .object members := Except.ok.inj (sameHeld.symm.trans held)
    obtain ⟨alone, named⟩ := Envelope.ofJson_object.1 enveloped
    rw [ofEnvelope, named] at made
    exact ⟨envelope.className, alone, made⟩
  · rintro ⟨className, alone, made⟩
    have enveloped : Envelope.ofJson (.object members) =
        some ⟨className, .named (members.filter (·.1 ≠ classField))⟩ :=
      Envelope.ofJson_object.2 ⟨alone, rfl⟩
    exact decode_of_object held enveloped made

/-- Nothing is decoded if no message can be. -/
theorem decode_error (none : ∀ m, decode text ≠ .ok m) : ∃ e, decode text = .error e := by
  cases decoded : decode text with
  | error e => exact ⟨e, rfl⟩
  | ok m => exact absurd decoded (none m)

/-- A class is the only one if there is none among the members before and after it. -/
theorem filter_class {before after : List (String × Json)} {value : Json}
    {found : String × Json} :
    (before ++ (classField, value) :: after).filter (·.1 = classField) = [found] ↔
      (before ++ after).filter (·.1 = classField) = [] ∧ found = (classField, value) := by
  have split : (before ++ (classField, value) :: after).filter (·.1 = classField) =
      before.filter (·.1 = classField) ++
        (classField, value) :: after.filter (·.1 = classField) := by
    simp
  rw [split, List.filter_append, List.append_eq_nil_iff]
  constructor
  · intro alone
    rcases List.append_eq_singleton_iff.1 alone with ⟨noneBefore, rest⟩ | ⟨-, rest⟩
    · obtain ⟨rfl, noneAfter⟩ := List.cons.inj rest
      exact ⟨⟨noneBefore, noneAfter⟩, rfl⟩
    · cases rest
  · rintro ⟨⟨noneBefore, noneAfter⟩, rfl⟩
    rw [noneBefore, noneAfter]
    rfl

/-- The other members are those before the class and those after it. -/
theorem filter_others (before after : List (String × Json)) (value : Json) :
    (before ++ (classField, value) :: after).filter (·.1 ≠ classField) =
      (before ++ after).filter (·.1 ≠ classField) := by
  simp

/-- The class may stand anywhere among the members. -/
theorem decode_of_moved {other : String} {before after before' after' : List (String × Json)}
    {value : Json}
    (held : Json.ofText text = .ok (.object (before ++ (classField, value) :: after)))
    (held' : Json.ofText other = .ok (.object (before' ++ (classField, value) :: after')))
    (same : before ++ after = before' ++ after') (m : Message) :
    decode text = .ok m ↔ decode other = .ok m := by
  simp only [decode_object_eq_ok held, decode_object_eq_ok held', filter_class, filter_others, same]

/-- The class that no kind has makes an unknown message. -/
theorem ofBody_of_unnamed {className : String}
    (unnamed : ∀ kind : Kind, kind ≠ .unknown → kind.name ≠ className)
    (members : List (String × Json)) :
    ofBody (.ofName className) (.named members) = .ok .unknown := by
  have unknown : Kind.ofName className = .unknown := by
    by_contra known
    exact unnamed _ known (Kind.name_of_ofName rfl known).symm
  rw [unknown]
  rfl

/-- The class of an object is resolved without ambiguity. Nothing is decoded if there is not exactly
    one class or if a class is not a string. A class that names none of the thirteen kinds makes an
    unknown message, whatever the other members are. What is decoded from an object whose class
    names a kind is of that kind. And it makes no difference where among the members the class
    stands. -/
theorem decode_class (held : Json.ofText text = .ok (.object members)) :
    ((members.filter (·.1 = "colibriClass")).length ≠ 1 → ∃ e, decode text = .error e) ∧
    (∀ value, ("colibriClass", value) ∈ members → (∀ className, value ≠ .string className) →
      ∃ e, decode text = .error e) ∧
    (∀ className, members.filter (·.1 = "colibriClass") = [("colibriClass", .string className)] →
      (∀ kind : Kind, kind ≠ .unknown → kind.name ≠ className) → decode text = .ok .unknown) ∧
    (∀ kind : Kind, kind ≠ .unknown → ("colibriClass", .string kind.name) ∈ members →
      ∀ m, decode text = .ok m → m.kind.name = kind.name) ∧
    ∀ before after value, members = before ++ ("colibriClass", value) :: after →
      ∀ other before' after',
        Json.ofText other = .ok (.object (before' ++ ("colibriClass", value) :: after')) →
        before ++ after = before' ++ after' → ∀ m, decode text = .ok m ↔ decode other = .ok m := by
  have only {m : Message} {value : Json} (decoded : decode text = .ok m)
      (mem : (classField, value) ∈ members) : ∃ className, value = .string className ∧
        ofBody (.ofName className) (.named (members.filter (·.1 ≠ classField))) = .ok m := by
    obtain ⟨className, alone, made⟩ := (decode_object_eq_ok held).1 decoded
    have isClass : (classField, value) ∈ members.filter (·.1 = classField) :=
      List.mem_filter.2 ⟨mem, by simp⟩
    rw [alone, List.mem_singleton] at isClass
    exact ⟨className, congrArg Prod.snd isClass, made⟩
  refine ⟨?_, ?_, ?_, ?_, ?_⟩
  · intro several
    apply decode_error
    intro m decoded
    obtain ⟨className, alone, -⟩ := (decode_object_eq_ok held).1 decoded
    exact several (congrArg List.length alone)
  · intro value mem noString
    apply decode_error
    intro m decoded
    obtain ⟨className, isString, -⟩ := only decoded mem
    exact noString className isString
  · intro className alone unnamed
    exact (decode_object_eq_ok held).2 ⟨className, alone, ofBody_of_unnamed unnamed _⟩
  · intro kind known mem m decoded
    obtain ⟨className, same, made⟩ := only decoded mem
    cases same
    rw [kind_of_ofBody made, Kind.ofName_name]
  · rintro before after value rfl other before' after' held' same m
    exact decode_of_moved held held' same m

/-- A selection whose class comes last, and the same with its class in front. -/
def lateClass : Json :=
  .object [("selectedEndpoint", .string "a"),
    ("colibriClass", .string "SelectedEndpointChangedEvent")]

def earlyClass : Json :=
  .object [("colibriClass", .string "SelectedEndpointChangedEvent"),
    ("selectedEndpoint", .string "a")]

theorem decode_class_moved :
    decode lateClass.toText = .ok (.selectedEndpoint (some "a")) ∧
      (Message.selectedEndpoint (some "a")).kind.name = "SelectedEndpointChangedEvent" ∧
      decode earlyClass.toText = .ok (.selectedEndpoint (some "a")) := by
  have integral : lateClass.IsIntegral ∧ earlyClass.IsIntegral := by
    simp [lateClass, earlyClass, Json.IsIntegral, Json.Everywhere, Json.EverywhereMembers,
      Json.NumberFits]
  have late : Json.ofText lateClass.toText = .ok lateClass :=
    Json.ofText_toText integral.1 (by decide)
  have early : Json.ofText earlyClass.toText = .ok earlyClass :=
    Json.ofText_toText integral.2 (by decide)
  have decoded : decode lateClass.toText = .ok (.selectedEndpoint (some "a")) :=
    decode_of_object late rfl rfl
  obtain ⟨-, -, -, named, moved⟩ := decode_class late
  refine ⟨decoded, named .selectedEndpoint (by decide) (by simp [Kind.name]) _ decoded, ?_⟩
  exact (moved [("selectedEndpoint", .string "a")] [] _ rfl earlyClass.toText []
    [("selectedEndpoint", .string "a")] early rfl _).1 decoded

end ControlChannel.Message
