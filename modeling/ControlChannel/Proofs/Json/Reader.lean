import ControlChannel.Json.Reader
import ControlChannel.Proofs.Json.Tree
import ControlChannel.Proofs.Outcome

/-!
# Readers, one step at a time

What a reader did if it succeeded: by which character it read a value, and what it did in one round
of a loop over items or members. A loop that looks at each member while the text is being read comes
to the same as reading them all first and going through the list after that. A reader of values
keeps to the depth that it is given.
-/

namespace ControlChannel

variable {σ : Type}

theorem skipSpaces_cons {c : Char} (s : List Char) (h : isSpace c = false) :
    skipSpaces (c :: s) = c :: s := by
  simp [skipSpaces, h]

/-! ## Strings take text away -/

namespace StringLiteral

theorem length_le_of_readHex {s rest : List Char} {n : Nat} (h : readHex s = .ok (n, rest)) :
    rest.length ≤ s.length := by
  unfold readHex at h
  split at h
  · split at h
    · cases h
      simp only [List.length_cons]
      omega
    · cases h
  · cases h

theorem length_le_of_readLowSurrogate {high : Nat} {s rest : List Char} {c : Char}
    (h : readLowSurrogate high s = .ok (c, rest)) : rest.length ≤ s.length := by
  unfold readLowSurrogate at h
  split at h
  · cases h
  · cases h
  · obtain ⟨⟨low, s₁⟩, hexRead, h⟩ := bind_eq_ok.1 h
    have shorter := length_le_of_readHex hexRead
    simp only at h
    split at h
    · obtain ⟨-, rfl⟩ := Prod.mk.inj (Except.ok.inj h)
      simp only [List.length_cons]
      omega
    · cases h
  · cases h
  · cases h

theorem length_le_of_readEscape {s rest : List Char} {c : Char}
    (h : readEscape s = .ok (c, rest)) : rest.length ≤ s.length := by
  unfold readEscape at h
  split at h
  · cases h
  · obtain ⟨⟨code, s₁⟩, hexRead, h⟩ := bind_eq_ok.1 h
    have shorter := length_le_of_readHex hexRead
    simp only at h
    split at h
    · cases h
    · split at h
      · have shorter' := length_le_of_readLowSurrogate h
        simp only [List.length_cons]
        omega
      · cases h
        simp only [List.length_cons]
        omega
  · split at h
    · cases h
      simp
    · cases h

theorem length_lt_of_readChars {read budget s rest cs : List Char}
    (h : readChars read budget s = .ok (cs, rest)) : rest.length < s.length := by
  fun_induction readChars read budget s with
  | case1 => cases h
  | case2 => cases h
  | case3 =>
    cases h
    simp
  | case4 read b budget s ih =>
    obtain ⟨⟨c, s₁⟩, escaped, h⟩ := bind_eq_ok.1 h
    have shorter := length_le_of_readEscape escaped
    have shorter' := ih c s₁ h
    simp only [List.length_cons]
    omega
  | case5 => cases h
  | case6 read b budget c s _ _ _ ih =>
    have shorter := ih h
    simp only [List.length_cons]
    omega

end StringLiteral

theorem length_lt_of_readString {s rest : List Char} {text : String}
    (h : readString s = .ok (text, rest)) : rest.length < s.length := by
  obtain ⟨⟨cs, _⟩, charsRead, same⟩ := bind_eq_ok.1 h
  cases same
  exact StringLiteral.length_lt_of_readChars charsRead

theorem length_skipSpaces_le (s : List Char) : (skipSpaces s).length ≤ s.length :=
  (List.dropWhile_suffix _).length_le

theorem length_le_of_nextItem {first : Bool} {s s₁ : List Char}
    (h : nextItem first s = .ok (some s₁)) : s₁.length ≤ s.length := by
  have shorter := length_skipSpaces_le s
  unfold nextItem at h
  split at h
  · cases h
  · cases h
  · rename_i c rest _ front
    rw [front, List.length_cons] at shorter
    have shorter' := length_skipSpaces_le rest
    split at h
    · cases h
      simpa using shorter
    · split at h
      · split at h
        · cases h
        · cases h
        · cases h
          omega
      · cases h

/-! ## Loops -/

/-- One round of the loop over members. -/
theorem memberLoop_eq_ok {entry : σ → String → Reader σ} {b : Char} {budget s rest : List Char}
    {first : Bool} {state final : σ} :
    memberLoop entry (b :: budget) first state s = .ok (final, rest) ↔
      nextName first s = .ok none ∧ state = final ∧ leaveObject s = rest ∨
      ∃ name s₁ next s₂, nextName first s = .ok (some (name, s₁)) ∧
        entry state name s₁ = .ok (next, s₂) ∧
        memberLoop entry budget false next s₂ = .ok (final, rest) := by
  cases found : nextName first s with
  | error stop => simp [memberLoop, found]
  | ok next =>
    cases next with
    | none => simp [memberLoop, found]
    | some next =>
      obtain ⟨name, s₁⟩ := next
      simp only [memberLoop, found, ok_bind, bind_eq_ok, Except.ok.injEq, Option.some.injEq,
        Prod.mk.injEq, reduceCtorEq, false_and, false_or, Prod.exists]
      constructor
      · rintro ⟨next, s₂, entered, later⟩
        exact ⟨name, s₁, next, s₂, ⟨rfl, rfl⟩, entered, later⟩
      · rintro ⟨_, _, next, s₂, ⟨rfl, rfl⟩, entered, later⟩
        exact ⟨next, s₂, entered, later⟩

/-- One round of the loop over items. -/
theorem itemLoop_eq_ok {item : σ → Reader σ} {b : Char} {budget s rest : List Char} {first : Bool}
    {state final : σ} :
    itemLoop item (b :: budget) first state s = .ok (final, rest) ↔
      nextItem first s = .ok none ∧ state = final ∧ leaveList s = rest ∨
      ∃ s₁ next s₂, nextItem first s = .ok (some s₁) ∧ item state s₁ = .ok (next, s₂) ∧
        itemLoop item budget false next s₂ = .ok (final, rest) := by
  cases found : nextItem first s with
  | error stop => simp [itemLoop, found]
  | ok next =>
    cases next with
    | none => simp [itemLoop, found]
    | some next => simp [itemLoop, found, bind_eq_ok]

namespace Json

theorem readMember_eq_ok {value : Reader Json} {members next : List (String × Json)} {name : String}
    {s rest : List Char} :
    readMember value members name s = .ok (next, rest) ↔
      ∃ s₁ item, readColon s = .ok s₁ ∧ value s₁ = .ok (item, rest) ∧
        (name, item) :: members = next := by
  simp only [readMember, bind_eq_ok, pure_eq_ok, Except.ok.injEq, Prod.mk.injEq, Prod.exists]
  constructor
  · rintro ⟨s₁, colon, item, _, read, rfl, rfl⟩
    exact ⟨s₁, item, colon, read, rfl⟩
  · rintro ⟨s₁, item, colon, read, rfl⟩
    exact ⟨s₁, colon, item, rest, read, rfl, rfl⟩

theorem readItem_eq_ok {value : Reader Json} {items next : List Json} {s rest : List Char} :
    readItem value items s = .ok (next, rest) ↔
      ∃ item, value s = .ok (item, rest) ∧ item :: items = next := by
  simp only [readItem, bind_eq_ok, pure_eq_ok, Except.ok.injEq, Prod.mk.injEq, Prod.exists]
  constructor
  · rintro ⟨item, _, read, rfl, rfl⟩
    exact ⟨item, read, rfl⟩
  · rintro ⟨item, read, rfl⟩
    exact ⟨item, rest, read, rfl, rfl⟩

/-- Members are read in front of those that were read before. -/
theorem memberLoop_readMember_base {value : Reader Json} {budget s rest : List Char} {first : Bool}
    {base all : List (String × Json)}
    (h : memberLoop (readMember value) budget first base s = .ok (all, rest)) :
    ∃ members : List (String × Json), all = members.reverse ++ base := by
  induction budget generalizing first base s with
  | nil => cases h
  | cons b budget ih =>
    rcases memberLoop_eq_ok.1 h with ⟨-, rfl, -⟩ | ⟨name, s₁, next, s₂, -, entered, later⟩
    · exact ⟨[], rfl⟩
    · obtain ⟨-, item, -, -, rfl⟩ := readMember_eq_ok.1 entered
      obtain ⟨members, rfl⟩ := ih later
      exact ⟨(name, item) :: members, by simp⟩

/-- A loop whose entries are values that are collected one by one reads the members of an object and
    collects them. -/
theorem memberLoop_collect {value : Reader Json} {entry : σ → String → Reader σ}
    {collect : σ → String × Json → Option σ}
    (hentry : ∀ state name s next rest, entry state name s = .ok (next, rest) ↔
      ∃ s₁ item, readColon s = .ok s₁ ∧ value s₁ = .ok (item, rest) ∧
        collect state (name, item) = some next)
    {budget s rest : List Char} {first : Bool} {state final : σ} (base : List (String × Json)) :
    memberLoop entry budget first state s = .ok (final, rest) ↔
      ∃ members : List (String × Json), memberLoop (readMember value) budget first base s =
        .ok (members.reverse ++ base, rest) ∧ members.foldlM collect state = some final := by
  induction budget generalizing first state s base with
  | nil => simp [memberLoop]
  | cons b budget ih =>
    simp only [memberLoop_eq_ok]
    constructor
    · rintro (⟨none, rfl, rfl⟩ | ⟨name, s₁, next, s₂, found, entered, later⟩)
      · exact ⟨[], .inl ⟨none, rfl, rfl⟩, rfl⟩
      · obtain ⟨s₃, item, colon, read, collected⟩ := (hentry ..).1 entered
        obtain ⟨members, looped, folded⟩ := (ih ((name, item) :: base)).1 later
        refine ⟨(name, item) :: members, .inr ⟨name, s₁, _, s₂, found,
          readMember_eq_ok.2 ⟨s₃, item, colon, read, rfl⟩, ?_⟩, ?_⟩
        · simpa using looped
        · simpa [collected] using folded
    · rintro ⟨members, ⟨none, same, rfl⟩ | ⟨name, s₁, next, s₂, found, entered, later⟩, folded⟩
      · obtain rfl : members = [] := by simpa using same
        exact .inl ⟨none, by simpa using folded, rfl⟩
      · obtain ⟨s₃, item, colon, read, rfl⟩ := readMember_eq_ok.1 entered
        obtain ⟨others, same⟩ := memberLoop_readMember_base later
        obtain rfl : members = (name, item) :: others := by
          have shifted : members.reverse ++ base = (others.reverse ++ [(name, item)]) ++ base := by
            simpa using same
          simpa using congrArg List.reverse (List.append_cancel_right shifted)
        obtain ⟨next, collected, folded⟩ := Option.bind_eq_some_iff.1 folded
        refine .inr ⟨name, s₁, next, s₂, found,
          (hentry ..).2 ⟨s₃, item, colon, read, collected⟩, ?_⟩
        exact (ih ((name, item) :: base)).2 ⟨others, by simpa using later, folded⟩

/-- A loop over items can start from other items read before, and with a greater budget. -/
theorem itemLoop_readItem_base {value : Reader Json} {budget budget' s rest : List Char}
    {first : Bool} {read all : List Json}
    (h : itemLoop (readItem value) budget first read s = .ok (all, rest))
    (hbudget : budget.length ≤ budget'.length) (base : List Json) :
    itemLoop (readItem value) budget' first (read ++ base) s = .ok (all ++ base, rest) := by
  induction budget generalizing budget' first read s with
  | nil => cases h
  | cons b budget ih =>
    obtain ⟨b', budget', rfl⟩ := List.exists_cons_of_length_pos (Nat.zero_lt_of_lt hbudget)
    rcases itemLoop_eq_ok.1 h with ⟨none, rfl, rfl⟩ | ⟨s₁, next, s₂, found, taken, later⟩
    · exact itemLoop_eq_ok.2 (.inl ⟨none, rfl, rfl⟩)
    · obtain ⟨item, itemRead, rfl⟩ := readItem_eq_ok.1 taken
      have looped := ih later (Nat.le_of_succ_le_succ hbudget)
      exact itemLoop_eq_ok.2
        (.inr ⟨s₁, _, s₂, found, readItem_eq_ok.2 ⟨item, itemRead, rfl⟩, looped⟩)

/-! ## Values by their first character -/

theorem readList_eq_ok {value : Reader Json} {s rest : List Char} {result : Json} :
    readList value s = .ok (result, rest) ↔
      ∃ items, itemLoop (readItem value) s true [] s = .ok (items, rest) ∧
        .array items.reverse = result := by
  simp [readList, readItems, bind_eq_ok]

theorem readObject_eq_ok {value : Reader Json} {s rest : List Char} {result : Json} :
    readObject value s = .ok (result, rest) ↔
      ∃ members, memberLoop (readMember value) s true [] s = .ok (members, rest) ∧
        .object members.reverse = result := by
  simp [readObject, readMembers, bind_eq_ok]

section FirstCharacter

variable {list object : Reader Json} {s s₁ rest : List Char} {value : Json}

theorem readWith_bracket (h : skipSpaces s = '[' :: s₁) : readWith list object s = list s₁ := by
  simp [readWith, h]

theorem readWith_brace (h : skipSpaces s = '\x7b' :: s₁) : readWith list object s = object s₁ := by
  simp [readWith, h]

theorem readWith_quote {text : String} (h : skipSpaces s = '"' :: s₁)
    (hread : readString s₁ = .ok (text, rest)) :
    readWith list object s = .ok (.string text, rest) := by
  simp [readWith, h, hread]

/-- The value is a word or a number. -/
def IsUnquoted : Json → Prop
  | .null | .boolean _ | .number _ => True
  | .string _ | .array _ | .object _ => False

/-- What a value that was read starts with. -/
theorem of_readWith_eq_ok (h : readWith list object s = .ok (value, rest)) :
    (∃ s₁ text, skipSpaces s = '"' :: s₁ ∧ readString s₁ = .ok (text, rest) ∧
      value = .string text) ∨
    (∃ s₁, skipSpaces s = '[' :: s₁ ∧ list s₁ = .ok (value, rest)) ∨
    (∃ s₁, skipSpaces s = '\x7b' :: s₁ ∧ object s₁ = .ok (value, rest)) ∨
    value.IsUnquoted := by
  unfold readWith at h
  split at h
  · cases h
  · obtain ⟨_, -, same⟩ := bind_eq_ok.1 h
    cases same
    exact .inr (.inr (.inr trivial))
  · obtain ⟨_, -, same⟩ := bind_eq_ok.1 h
    cases same
    exact .inr (.inr (.inr trivial))
  · obtain ⟨_, -, same⟩ := bind_eq_ok.1 h
    cases same
    exact .inr (.inr (.inr trivial))
  · rename_i s₁ front
    obtain ⟨⟨text, _⟩, read, same⟩ := bind_eq_ok.1 h
    cases same
    exact .inl ⟨s₁, text, front, read, rfl⟩
  · rename_i s₁ front
    exact .inr (.inl ⟨s₁, front, h⟩)
  · rename_i s₁ front
    exact .inr (.inr (.inl ⟨s₁, front, h⟩))
  · split at h
    · obtain ⟨_, -, same⟩ := bind_eq_ok.1 h
      cases same
      exact .inr (.inr (.inr trivial))
    · cases h

end FirstCharacter

/-! ## Depth -/

/-- What holds of all values that a reader reads holds of the items of a list that it reads. -/
theorem forall_mem_of_itemLoop {value : Reader Json} {p : Json → Prop}
    (hvalue : ∀ s item rest, value s = .ok (item, rest) → p item)
    {budget s rest : List Char} {first : Bool} {read all : List Json}
    (h : itemLoop (readItem value) budget first read s = .ok (all, rest))
    (hread : ∀ item ∈ read, p item) : ∀ item ∈ all, p item := by
  induction budget generalizing first read s with
  | nil => cases h
  | cons b budget ih =>
    rcases itemLoop_eq_ok.1 h with ⟨-, rfl, -⟩ | ⟨s₁, next, s₂, -, taken, later⟩
    · exact hread
    · obtain ⟨item, itemRead, rfl⟩ := readItem_eq_ok.1 taken
      exact ih later (List.forall_mem_cons.2 ⟨hvalue _ _ _ itemRead, hread⟩)

theorem forall_mem_of_memberLoop {value : Reader Json} {p : Json → Prop}
    (hvalue : ∀ s item rest, value s = .ok (item, rest) → p item)
    {budget s rest : List Char} {first : Bool} {read all : List (String × Json)}
    (h : memberLoop (readMember value) budget first read s = .ok (all, rest))
    (hread : ∀ member ∈ read, p member.2) : ∀ member ∈ all, p member.2 := by
  induction budget generalizing first read s with
  | nil => cases h
  | cons b budget ih =>
    rcases memberLoop_eq_ok.1 h with ⟨-, rfl, -⟩ | ⟨name, s₁, next, s₂, -, entered, later⟩
    · exact hread
    · obtain ⟨_, item, -, itemRead, rfl⟩ := readMember_eq_ok.1 entered
      exact ih later (List.forall_mem_cons.2 ⟨hvalue _ _ _ itemRead, hread⟩)

/-- A value that was read nests no deeper than its reader goes. -/
theorem depth_le_of_read {depth : Nat} {s rest : List Char} {value : Json}
    (h : read depth s = .ok (value, rest)) : value.depth ≤ depth := by
  induction depth generalizing s rest value with
  | zero =>
    rcases of_readWith_eq_ok h with ⟨_, text, -, -, rfl⟩ | ⟨_, -, h⟩ | ⟨_, -, h⟩ | plain
    · exact Nat.le_refl 0
    · cases h
    · cases h
    · cases value with
      | string _ | array _ | object _ => exact plain.elim
      | _ => exact Nat.le_refl 0
  | succ depth ih =>
    rcases of_readWith_eq_ok h with ⟨_, text, -, -, rfl⟩ | ⟨_, -, h⟩ | ⟨_, -, h⟩ | plain
    · exact Nat.zero_le _
    · obtain ⟨items, looped, rfl⟩ := readList_eq_ok.1 h
      have shallow := forall_mem_of_itemLoop (fun _ _ _ => ih) looped (by simp)
      exact depth_array_le.2 fun item mem => shallow item (List.mem_reverse.1 mem)
    · obtain ⟨members, looped, rfl⟩ := readObject_eq_ok.1 h
      have shallow := forall_mem_of_memberLoop (fun _ _ _ => ih) looped (by simp)
      exact depth_object_le.2 fun member mem => shallow member (List.mem_reverse.1 mem)
    · cases value with
      | string _ | array _ | object _ => exact plain.elim
      | _ => exact Nat.zero_le _

end Json

end ControlChannel
