import ControlChannel.Message.Decode
import ControlChannel.Proofs.Json.Reader

/-!
# The envelope of a value

A text is read into an envelope in one go, while its class is already looked at. The result is the
same as if the value of the text were read first and taken for an envelope after that: an object
with one class, which is a string, or a list with its class in front.
-/

namespace ControlChannel

namespace Json

theorem readString_of_readWith {list object : Reader Json} {s rest : List Char} {text : String}
    (hlist : ∀ s, list s ≠ .ok (.string text, rest))
    (hobject : ∀ s, object s ≠ .ok (.string text, rest))
    (h : readWith list object s = .ok (.string text, rest)) :
    ∃ s₁, skipSpaces s = '"' :: s₁ ∧ readString s₁ = .ok (text, rest) := by
  rcases of_readWith_eq_ok h with ⟨s₁, _, front, read, same⟩ | ⟨s₁, -, h⟩ | ⟨s₁, -, h⟩ | plain
  · cases same
    exact ⟨s₁, front, read⟩
  · exact absurd h (hlist s₁)
  · exact absurd h (hobject s₁)
  · exact plain.elim

theorem read_eq_string {depth : Nat} {s rest : List Char} {text : String} :
    read depth s = .ok (.string text, rest) ↔
      ∃ s₁, skipSpaces s = '"' :: s₁ ∧ readString s₁ = .ok (text, rest) := by
  constructor
  · intro h
    cases depth with
    | zero => exact readString_of_readWith (fun _ h => by cases h) (fun _ h => by cases h) h
    | succ depth =>
      refine readString_of_readWith (fun s h => ?_) (fun s h => ?_) h
      · obtain ⟨_, -, same⟩ := readList_eq_ok.1 h
        cases same
      · obtain ⟨_, -, same⟩ := readObject_eq_ok.1 h
        cases same
  · rintro ⟨s₁, front, textRead⟩
    cases depth <;> exact readWith_quote front textRead

theorem readScalar_eq_string {s rest : List Char} {text : String} :
    readScalar s = .ok (.string text, rest) ↔
      ∃ s₁, skipSpaces s = '"' :: s₁ ∧ readString s₁ = .ok (text, rest) := by
  constructor
  · exact readString_of_readWith (fun _ h => by cases h) (fun _ h => by cases h)
  · rintro ⟨s₁, front, textRead⟩
    exact readWith_quote front textRead

/-- An object is read where its opening brace is in front. -/
theorem read_succ_eq_object {depth : Nat} {s rest : List Char} {members : List (String × Json)} :
    read (depth + 1) s = .ok (.object members, rest) ↔
      ∃ s₁, skipSpaces s = '\x7b' :: s₁ ∧
        readObject (read depth) s₁ = .ok (.object members, rest) := by
  constructor
  · intro h
    rcases of_readWith_eq_ok h with ⟨_, _, -, -, same⟩ | ⟨_, -, h⟩ | ⟨s₁, front, h⟩ | plain
    · cases same
    · obtain ⟨_, -, same⟩ := readList_eq_ok.1 h
      cases same
    · exact ⟨s₁, front, h⟩
    · exact plain.elim
  · rintro ⟨s₁, front, h⟩
    rw [Json.read, readWith_brace front, h]

end Json

namespace Envelope

open Message

/-- The envelope that a value amounts to, if it amounts to one. -/
def ofJson : Json → Option Envelope
  | .object members =>
      match members.filter (·.1 = classField) with
      | [(_, .string className)] =>
          some ⟨className, .named (members.filter (·.1 ≠ classField))⟩
      | _ => none
  | .array (.string className :: items) => some ⟨className, .positional items⟩
  | _ => none

/-- Adds a member to the class and the body of the members before it. -/
def collect (state : Option String × List (String × Json)) (member : String × Json) :
    Option (Option String × List (String × Json)) :=
  if member.1 = classField then
    match state.1, member.2 with
    | none, .string className => some (some className, state.2)
    | _, _ => none
  else some (state.1, member :: state.2)

theorem readField_className {s rest : List Char} {className : String} :
    readField Field.className s = .ok (className, rest) ↔
      Json.read memberDepth s = .ok (.string className, rest) := by
  rw [Json.read_eq_string, ← Json.readScalar_eq_string, readField]
  constructor
  · intro h
    obtain ⟨⟨value, s₁⟩, read, accepted⟩ := bind_eq_ok.1 h
    cases value with
    | string text =>
      cases accepted
      exact read
    | _ => cases accepted
  · intro h
    rw [h]
    rfl

/-- An entry of a message is a member that is read and then added. -/
theorem readEntry_eq_ok (state : Option String × List (String × Json)) (name : String)
    (s : List Char) (next : Option String × List (String × Json)) (rest : List Char) :
    readEntry state name s = .ok (next, rest) ↔
      ∃ s₁ item, readColon s = .ok s₁ ∧ Json.read memberDepth s₁ = .ok (item, rest) ∧
        collect state (name, item) = some next := by
  obtain ⟨className, members⟩ := state
  by_cases isClass : name = classField
  · cases className with
    | some given => simp [readEntry, collect, isClass]
    | none =>
      simp only [readEntry, collect, isClass, if_true, Option.isSome_none, Bool.false_eq_true,
        if_false, bind_eq_ok]
      constructor
      · rintro ⟨s₁, colon, ⟨given, _⟩, read, same⟩
        cases same
        exact ⟨s₁, .string given, colon, readField_className.1 read, rfl⟩
      · rintro ⟨s₁, item, colon, read, collected⟩
        cases item with
        | string given =>
          cases collected
          exact ⟨s₁, colon, (given, rest), readField_className.2 read, rfl⟩
        | _ => cases collected
  · simp only [readEntry, collect, isClass, if_false, bind_eq_ok]
    constructor
    · rintro ⟨⟨_, _⟩, entered, same⟩
      cases same
      obtain ⟨s₁, item, colon, read, rfl⟩ := Json.readMember_eq_ok.1 entered
      exact ⟨s₁, item, colon, read, rfl⟩
    · rintro ⟨s₁, item, colon, read, collected⟩
      cases collected
      exact ⟨_, Json.readMember_eq_ok.2 ⟨s₁, item, colon, read, rfl⟩, rfl⟩

/-- After the class no other one may come. -/
theorem foldlM_collect_some {members base rest : List (String × Json)} {className : String}
    {found : Option String} :
    members.foldlM collect (some className, base) = some (found, rest) ↔
      members.filter (·.1 = classField) = [] ∧ found = some className ∧
        rest = (members.filter (·.1 ≠ classField)).reverse ++ base := by
  induction members generalizing base with
  | nil => simp [eq_comm]
  | cons member members ih =>
    by_cases isClass : member.1 = classField
    · simp [collect, isClass]
    · simp [collect, isClass, ih]

/-- The members make an envelope if exactly one of them is a class. -/
theorem foldlM_collect_none {members base rest : List (String × Json)} {className : String} :
    members.foldlM collect (none, base) = some (some className, rest) ↔
      members.filter (·.1 = classField) = [(classField, .string className)] ∧
        rest = (members.filter (·.1 ≠ classField)).reverse ++ base := by
  induction members generalizing base with
  | nil => simp
  | cons member members ih =>
    obtain ⟨name, item⟩ := member
    by_cases isClass : name = classField
    · cases item with
      | string given =>
        simp only [List.foldlM_cons, collect, isClass, if_true, Option.bind_eq_bind,
          Option.bind_some, foldlM_collect_some, List.filter_cons, decide_true, ne_eq,
          not_true_eq_false, decide_false, Bool.false_eq_true, if_false, Option.some.injEq,
          List.cons.injEq, Prod.mk.injEq, true_and, Json.string.injEq]
        constructor
        · rintro ⟨alone, rfl, body⟩
          exact ⟨⟨rfl, alone⟩, body⟩
        · rintro ⟨⟨rfl, alone⟩, body⟩
          exact ⟨alone, rfl, body⟩
      | _ => simp [collect, isClass]
    · simp [collect, isClass, ih]

theorem ofJson_object {members : List (String × Json)} {envelope : Envelope} :
    ofJson (.object members) = some envelope ↔
      members.filter (·.1 = classField) = [(classField, .string envelope.className)] ∧
        envelope.body = .named (members.filter (·.1 ≠ classField)) := by
  obtain ⟨className, body⟩ := envelope
  constructor
  · intro h
    simp only [ofJson] at h
    split at h
    · rename_i name given alone
      cases h
      have mem : (name, Json.string className) ∈ members.filter (·.1 = classField) := by
        simp [alone]
      obtain rfl : name = classField := by simpa using (List.mem_filter.1 mem).2
      exact ⟨alone, rfl⟩
    · cases h
  · rintro ⟨alone, rfl⟩
    simp [ofJson, alone]

/-- An envelope with named members is that of an object. -/
theorem object_of_named {value : Json} {envelope : Envelope} {body : List (String × Json)}
    (h : ofJson value = some envelope) (named : envelope.body = .named body) :
    ∃ members, value = .object members := by
  unfold ofJson at h
  split at h
  · exact ⟨_, rfl⟩
  · cases h
    cases named
  · cases h

/-- An envelope after an opening brace is the envelope of the object there. -/
theorem readNamed_eq_ok {s rest : List Char} {envelope : Envelope} :
    readNamed s = .ok (envelope, rest) ↔
      ∃ members, Json.readObject (Json.read memberDepth) s = .ok (.object members, rest) ∧
        ofJson (.object members) = some envelope := by
  have loops (final : Option String × List (String × Json)) :
      memberLoop readEntry s true (none, []) s = .ok (final, rest) ↔
        ∃ members : List (String × Json),
          memberLoop (Json.readMember (Json.read memberDepth)) s true [] s =
            .ok (members.reverse ++ [], rest) ∧ members.foldlM collect (none, []) = some final :=
    Json.memberLoop_collect readEntry_eq_ok []
  simp only [ofJson_object]
  constructor
  · intro h
    obtain ⟨⟨⟨className, body⟩, s₁⟩, looped, same⟩ := bind_eq_ok.1 h
    cases className with
    | none => cases same
    | some className =>
      cases same
      obtain ⟨members, membersRead, folded⟩ := (loops _).1 looped
      obtain ⟨alone, rfl⟩ := foldlM_collect_none.1 folded
      exact ⟨members, Json.readObject_eq_ok.2 ⟨_, membersRead, by simp⟩, alone, by simp⟩
  · rintro ⟨members, read, alone, named⟩
    obtain ⟨reversed, looped, same⟩ := Json.readObject_eq_ok.1 read
    obtain rfl : reversed = members.reverse := by
      cases same
      simp
    have folded := foldlM_collect_none.2 ⟨alone, Eq.refl ((members.filter _).reverse ++ [])⟩
    have looped := (loops _).2 ⟨members, by simpa using looped, folded⟩
    obtain ⟨className, body⟩ := envelope
    cases named
    simp [readNamed, readMembers, looped]

/-- An envelope after an opening bracket is the envelope of the list there. The reader of values
    goes round its loop with the class as the first item, and so with a greater budget. -/
theorem readList_of_readPositional {s rest : List Char} {envelope : Envelope}
    (h : readPositional s = .ok (envelope, rest)) :
    ∃ items, Json.readList (Json.read memberDepth) s = .ok (.array items, rest) ∧
      ofJson (.array items) = some envelope := by
  obtain ⟨next, found, h⟩ := bind_eq_ok.1 h
  cases next with
  | none => cases h
  | some s₁ =>
    obtain ⟨⟨className, s₂⟩, classRead, h⟩ := bind_eq_ok.1 h
    obtain ⟨⟨items, _⟩, looped, same⟩ := bind_eq_ok.1 h
    cases same
    have classItem := readField_className.1 classRead
    obtain ⟨c, s', rfl, shorter⟩ : ∃ c s', s = c :: s' ∧ s₂.length ≤ s'.length := by
      obtain ⟨s₃, front, textRead⟩ := Json.read_eq_string.1 classItem
      have shorter := length_lt_of_readString textRead
      have shorter' := length_skipSpaces_le s₁
      have shorter'' := length_le_of_nextItem found
      rw [front, List.length_cons] at shorter'
      obtain ⟨c, s', rfl⟩ := List.exists_cons_of_length_pos (show 0 < s.length by omega)
      exact ⟨c, s', rfl, by rw [List.length_cons] at shorter''; omega⟩
    have classFirst := Json.itemLoop_readItem_base looped shorter [.string className]
    refine ⟨.string className :: items.reverse,
      Json.readList_eq_ok.2 ⟨items ++ [.string className], ?_, by simp⟩, rfl⟩
    exact itemLoop_eq_ok.2
      (.inr ⟨s₁, _, s₂, found, Json.readItem_eq_ok.2 ⟨_, classItem, rfl⟩, classFirst⟩)

/-- An envelope is the envelope of the value that is read from the same text. -/
theorem json_of_read {s rest : List Char} {envelope : Envelope}
    (h : read s = .ok (envelope, rest)) :
    ∃ value, Json.read Json.depthLimit s = .ok (value, rest) ∧ ofJson value = some envelope := by
  unfold read at h
  split at h
  · rename_i s₁ front
    obtain ⟨members, membersRead, made⟩ := readNamed_eq_ok.1 h
    exact ⟨_, Json.read_succ_eq_object.2 ⟨s₁, front, membersRead⟩, made⟩
  · rename_i s₁ front
    obtain ⟨items, itemsRead, made⟩ := readList_of_readPositional h
    exact ⟨_, (Json.readWith_bracket front).trans itemsRead, made⟩
  · obtain ⟨⟨value, _⟩, -, refused⟩ := bind_eq_ok.1 h
    cases refused

/-- Of an object the envelope is read if it has one. -/
theorem read_of_object {s rest : List Char} {members : List (String × Json)} {envelope : Envelope}
    (h : Json.read Json.depthLimit s = .ok (.object members, rest))
    (hmade : ofJson (.object members) = some envelope) : read s = .ok (envelope, rest) := by
  obtain ⟨s₁, front, membersRead⟩ := Json.read_succ_eq_object.1 h
  rw [read, front]
  exact readNamed_eq_ok.2 ⟨members, membersRead, hmade⟩

end Envelope

namespace Json

theorem ofText_eq_ok {text : String} {value : Json} :
    ofText text = .ok value ↔
      ∃ rest, read depthLimit text.toList = .ok (value, rest) ∧ expectEnd rest = .ok () := by
  rw [ofText, mapError_eq_ok, bind_eq_ok]
  constructor
  · rintro ⟨⟨_, rest⟩, valueRead, h⟩
    obtain ⟨_, ended, same⟩ := bind_eq_ok.1 h
    cases same
    exact ⟨rest, valueRead, ended⟩
  · rintro ⟨rest, valueRead, ended⟩
    exact ⟨(value, rest), valueRead, bind_eq_ok.2 ⟨(), ended, rfl⟩⟩

end Json

namespace Message

theorem decode_eq_ok {text : String} {message : Message} :
    decode text = .ok message ↔
      ∃ envelope rest, Envelope.read text.toList = .ok (envelope, rest) ∧
        ofEnvelope envelope = .ok message ∧ expectEnd rest = .ok () := by
  simp only [decode, bind_eq_ok, mapError_eq_ok]
  constructor
  · rintro ⟨⟨envelope, rest⟩, envelopeRead, _, made, _, ended, same⟩
    cases same
    exact ⟨envelope, rest, envelopeRead, made, ended⟩
  · rintro ⟨envelope, rest, envelopeRead, made, ended⟩
    exact ⟨(envelope, rest), envelopeRead, message, made, (), ended, rfl⟩

/-- The message that a text holds is made from the value that the text holds. -/
theorem json_of_decode {text : String} {message : Message} (h : decode text = .ok message) :
    ∃ value envelope, Json.ofText text = .ok value ∧ Envelope.ofJson value = some envelope ∧
      ofEnvelope envelope = .ok message := by
  obtain ⟨envelope, rest, envelopeRead, made, ended⟩ := decode_eq_ok.1 h
  obtain ⟨value, valueRead, enveloped⟩ := Envelope.json_of_read envelopeRead
  exact ⟨value, envelope, Json.ofText_eq_ok.2 ⟨rest, valueRead, ended⟩, enveloped, made⟩

/-- The message that can be made from the object that a text holds is decoded. -/
theorem decode_of_object {text : String} {message : Message} {members : List (String × Json)}
    {envelope : Envelope} (h : Json.ofText text = .ok (.object members))
    (henvelope : Envelope.ofJson (.object members) = some envelope)
    (hmessage : ofEnvelope envelope = .ok message) : decode text = .ok message := by
  obtain ⟨rest, valueRead, ended⟩ := Json.ofText_eq_ok.1 h
  exact decode_eq_ok.2
    ⟨envelope, rest, Envelope.read_of_object valueRead henvelope, hmessage, ended⟩

end Message

end ControlChannel
