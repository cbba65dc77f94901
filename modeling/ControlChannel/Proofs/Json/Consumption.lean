import ControlChannel.Proofs.Json.Integer

/-!
# Readers take text away

What a reader leaves of a text is no longer than the text was. A round of the loop over items takes
a comma besides, from the second round on, so a budget of one round for each character is never used
up: with any such budget the loop comes to the same end.
-/

namespace ControlChannel

variable {α σ : Type} {s rest : List Char}

/-- The reader leaves no more text than it was given. -/
def Shortens (reader : Reader α) : Prop :=
  ∀ ⦃s a rest⦄, reader s = .ok (a, rest) → rest.length ≤ s.length

/-! ## Numbers -/

namespace Literal

theorem length_le_of_digits {ds : List Char} (h : digits s = (ds, rest)) :
    rest.length ≤ s.length := by
  obtain ⟨rfl, -⟩ := of_digits h
  simp

theorem scanWhole_shortens : Shortens scanWhole := by
  intro s whole rest h
  obtain ⟨rfl, -⟩ := of_scanWhole h
  simp

theorem scanFraction_shortens : Shortens scanFraction := by
  intro s ds rest h
  unfold scanFraction at h
  split at h
  · cases h
  · cases h
  · rename_i taken
    cases h
    exact length_le_of_digits taken

theorem scanExponent_shortens : Shortens scanExponent := by
  intro s e rest h
  unfold scanExponent at h
  split at h
  rename_i negative tail signed
  have shorter : tail.length ≤ s.length := by
    split at signed
    · cases signed
      exact Nat.le_succ _
    · cases signed
      exact Nat.le_succ _
    · cases signed
      exact Nat.le_refl _
  split at h
  · cases h
  · cases h
  · rename_i taken
    cases h
    exact Nat.le_trans (length_le_of_digits taken) shorter

/-- What comes after the whole part and the fraction of a literal: an exponent, or nothing. -/
theorem length_le_of_exponent (made : Option (Bool × List Char) → α) {a : α}
    (h : (match s with
      | 'e' :: tail | 'E' :: tail => do
          let e ← scanExponent tail
          .ok (made (some e.1), e.2)
      | _ => .ok (made none, s)) = (.ok (a, rest) : Except Stop _)) :
    rest.length ≤ s.length := by
  split at h
  · obtain ⟨_, scanned, same⟩ := bind_eq_ok.1 h
    cases same
    exact Nat.le_succ_of_le (scanExponent_shortens scanned)
  · obtain ⟨_, scanned, same⟩ := bind_eq_ok.1 h
    cases same
    exact Nat.le_succ_of_le (scanExponent_shortens scanned)
  · cases h
    exact Nat.le_refl _

theorem scan_shortens : Shortens scan := by
  intro s literal rest h
  unfold scan at h
  split at h
  rename_i sign tail signed
  have shorter : tail.length ≤ s.length := by
    split at signed
    · cases signed
      exact Nat.le_succ _
    · cases signed
      exact Nat.le_refl _
  obtain ⟨⟨whole, s₁⟩, wholeScanned, h⟩ := bind_eq_ok.1 h
  have afterWhole := scanWhole_shortens wholeScanned
  dsimp only at h
  split at h
  · obtain ⟨⟨ds, s₂⟩, fractionScanned, h⟩ := bind_eq_ok.1 h
    have afterFraction := scanFraction_shortens fractionScanned
    simp only [pure_eq_ok, ok_bind] at h
    have atEnd := length_le_of_exponent (Literal.mk sign whole (some ds)) h
    simp only [List.length_cons] at afterWhole
    omega
  · simp only [pure_eq_ok, ok_bind] at h
    have atEnd := length_le_of_exponent (Literal.mk sign whole none) h
    omega

end Literal

theorem readNumber_shortens : Shortens readNumber := by
  intro s n rest h
  obtain ⟨⟨literal, s₁⟩, scanned, h⟩ := bind_eq_ok.1 h
  have shorter := Literal.scan_shortens scanned
  dsimp only at h
  split at h
  · cases h
    exact shorter
  · split at h
    · cases h
      exact shorter
    · cases h

/-! ## Words and marks -/

theorem length_le_of_readWord {word : List Char} (h : readWord word s = .ok rest) :
    rest.length ≤ s.length := by
  fun_induction readWord word s with
  | case1 =>
    cases h
    exact Nat.le_refl _
  | case2 => cases h
  | case3 w word s ih =>
    have shorter := ih h
    simp only [List.length_cons]
    omega
  | case4 => cases h

/-- After the first item every item comes with a comma. -/
theorem length_lt_of_nextItem {s₁ : List Char} (h : nextItem false s = .ok (some s₁)) :
    s₁.length < s.length := by
  have shorter := length_skipSpaces_le s
  unfold nextItem at h
  split at h
  · cases h
  · cases h
  · rename_i c tail _ front
    rw [front, List.length_cons] at shorter
    have shorter' := length_skipSpaces_le tail
    simp only [Bool.false_eq_true, if_false] at h
    split at h
    · split at h
      · cases h
      · cases h
      · cases h
        omega
    · cases h

theorem length_lt_of_nextName {first : Bool} {name : String} {s₁ : List Char}
    (h : nextName first s = .ok (some (name, s₁))) : s₁.length < s.length := by
  have shorter := length_skipSpaces_le s
  have ofName {tail : List Char} (shorter : tail.length < s.length)
      (h : some <$> readString tail = .ok (some (name, s₁))) : s₁.length < s.length := by
    obtain ⟨_, nameRead, same⟩ := map_eq_ok.1 h
    cases same
    have shorter' := length_lt_of_readString nameRead
    omega
  unfold nextName at h
  split at h
  · cases h
  · cases h
  · rename_i c tail _ front
    rw [front, List.length_cons] at shorter
    split at h
    · split at h
      · exact ofName (by omega) h
      · cases h
    · split at h
      · have shorter' := length_skipSpaces_le tail
        split at h
        · cases h
        · rename_i front'
          rw [front', List.length_cons] at shorter'
          exact ofName (by omega) h
        · cases h
        · cases h
      · cases h

theorem length_lt_of_readColon (h : readColon s = .ok rest) : rest.length < s.length := by
  have shorter := length_skipSpaces_le s
  unfold readColon at h
  split at h
  · cases h
  · rename_i front
    cases h
    rw [front, List.length_cons] at shorter
    omega
  · cases h

theorem length_leaveList_le (s : List Char) : (leaveList s).length ≤ s.length := by
  have shorter := length_skipSpaces_le s
  unfold leaveList
  split
  · rename_i front
    rw [front, List.length_cons] at shorter
    omega
  · exact shorter

theorem length_leaveObject_le (s : List Char) : (leaveObject s).length ≤ s.length := by
  have shorter := length_skipSpaces_le s
  unfold leaveObject
  split
  · rename_i front
    rw [front, List.length_cons] at shorter
    omega
  · exact shorter

/-! ## Loops -/

theorem itemLoop_shortens {item : σ → Reader σ} (hitem : ∀ state, Shortens (item state))
    (budget : List Char) (first : Bool) (state : σ) :
    Shortens (itemLoop item budget first state) := by
  intro s final rest h
  induction budget generalizing first state s with
  | nil => cases h
  | cons b budget ih =>
    rcases itemLoop_eq_ok.1 h with ⟨-, -, rfl⟩ | ⟨s₁, next, s₂, found, taken, later⟩
    · exact length_leaveList_le s
    · have atItem := length_le_of_nextItem found
      have afterItem := hitem state taken
      have atEnd := ih false next later
      omega

theorem memberLoop_shortens {entry : σ → String → Reader σ}
    (hentry : ∀ state name, Shortens (entry state name)) (budget : List Char) (first : Bool)
    (state : σ) : Shortens (memberLoop entry budget first state) := by
  intro s final rest h
  induction budget generalizing first state s with
  | nil => cases h
  | cons b budget ih =>
    rcases memberLoop_eq_ok.1 h with ⟨-, -, rfl⟩ | ⟨name, s₁, next, s₂, found, entered, later⟩
    · exact length_leaveObject_le s
    · have atEntry := length_lt_of_nextName found
      have afterEntry := hentry state name entered
      have atEnd := ih false next later
      omega

/-- A text in which the end of a list is found is not empty. -/
theorem length_pos_of_nextItem (h : nextItem false s = .ok none) : 0 < s.length := by
  cases s with
  | nil => cases h
  | cons c s => exact Nat.succ_pos _

/-- Past the first item, a loop that ends with some budget ends in the same way with every budget of
    a round for each character. -/
theorem itemLoop_of_length_le {item : σ → Reader σ} (hitem : ∀ state, Shortens (item state))
    {budget budget' : List Char} {state final : σ}
    (h : itemLoop item budget false state s = .ok (final, rest))
    (enough : s.length ≤ budget'.length) :
    itemLoop item budget' false state s = .ok (final, rest) := by
  induction budget generalizing budget' state s with
  | nil => cases h
  | cons b budget ih =>
    rcases itemLoop_eq_ok.1 h with ⟨none, same, left⟩ | ⟨s₁, next, s₂, found, taken, later⟩
    · have nonempty := length_pos_of_nextItem none
      obtain ⟨b', budget', rfl⟩ :=
        List.exists_cons_of_length_pos (show 0 < budget'.length by omega)
      exact itemLoop_eq_ok.2 (.inl ⟨none, same, left⟩)
    · have atItem := length_lt_of_nextItem found
      have afterItem := hitem state taken
      obtain ⟨b', budget', rfl⟩ :=
        List.exists_cons_of_length_pos (show 0 < budget'.length by omega)
      have enough' : s₂.length ≤ budget'.length := by
        rw [List.length_cons] at enough
        omega
      exact itemLoop_eq_ok.2 (.inr ⟨s₁, next, s₂, found, taken, ih later enough'⟩)

/-! ## Values -/

namespace Json

theorem readItem_shortens {value : Reader Json} (hvalue : Shortens value) (items : List Json) :
    Shortens (readItem value items) := by
  intro s next rest h
  obtain ⟨item, itemRead, -⟩ := readItem_eq_ok.1 h
  exact hvalue itemRead

theorem readMember_shortens {value : Reader Json} (hvalue : Shortens value)
    (members : List (String × Json)) (name : String) :
    Shortens (readMember value members name) := by
  intro s next rest h
  obtain ⟨s₁, item, colon, itemRead, -⟩ := readMember_eq_ok.1 h
  have atItem := length_lt_of_readColon colon
  have afterItem := hvalue itemRead
  omega

theorem readList_shortens {value : Reader Json} (hvalue : Shortens value) :
    Shortens (readList value) := by
  intro s result rest h
  obtain ⟨items, looped, -⟩ := readList_eq_ok.1 h
  exact itemLoop_shortens (readItem_shortens hvalue) _ _ _ looped

theorem readObject_shortens {value : Reader Json} (hvalue : Shortens value) :
    Shortens (readObject value) := by
  intro s result rest h
  obtain ⟨members, looped, -⟩ := readObject_eq_ok.1 h
  exact memberLoop_shortens (readMember_shortens hvalue) _ _ _ looped

/-- After its first character a value is a word, a string, a list, an object or a number. -/
theorem readWith_shortens {list object : Reader Json} (hlist : Shortens list)
    (hobject : Shortens object) : Shortens (readWith list object) := by
  intro s value rest h
  have shorter := length_skipSpaces_le s
  have ofWord {word : List Char} {tail : List Char} {result : Json} {c : Char}
      (front : skipSpaces s = c :: tail)
      (h : (readWord word tail >>= fun rest => pure (result, rest)) =
        (.ok (value, rest) : Except Stop _)) : rest.length ≤ s.length := by
    obtain ⟨_, wordRead, same⟩ := bind_eq_ok.1 h
    cases same
    have shorter' := length_le_of_readWord wordRead
    rw [front, List.length_cons] at shorter
    omega
  unfold readWith at h
  split at h
  · cases h
  · exact ofWord ‹_› h
  · exact ofWord ‹_› h
  · exact ofWord ‹_› h
  · rename_i front
    obtain ⟨_, textRead, same⟩ := bind_eq_ok.1 h
    cases same
    have shorter' := length_lt_of_readString textRead
    rw [front, List.length_cons] at shorter
    omega
  · rename_i front
    have shorter' := hlist h
    rw [front, List.length_cons] at shorter
    omega
  · rename_i front
    have shorter' := hobject h
    rw [front, List.length_cons] at shorter
    omega
  · rename_i front
    split at h
    · obtain ⟨_, numberRead, same⟩ := bind_eq_ok.1 h
      cases same
      rw [← front] at numberRead
      have shorter' := readNumber_shortens numberRead
      omega
    · cases h

/-- Reading a value leaves no more text than there was. The induction is on the depth to which
    brackets may nest, since the items of a list are read with one level less. -/
theorem read_shortens (depth : Nat) : Shortens (read depth) := by
  induction depth with
  | zero =>
    refine readWith_shortens ?_ ?_
    · intro s value rest h
      cases h
    · intro s value rest h
      cases h
  | succ depth ih => exact readWith_shortens (readList_shortens ih) (readObject_shortens ih)

end Json

end ControlChannel
