import ControlChannel.Json.Printer
import ControlChannel.Proofs.Json.Reader
import Mathlib.Data.List.TakeDrop

/-!
# Reading what was written

The text of a value is read back as that value, with its members in the order and the number in
which it has them, if its numbers are integers of 64 bits and its brackets nest no deeper than the
reader goes. Each part of the writer has one lemma here, and what follows the part in the text is
left open.
-/

namespace ControlChannel

/-! ## Strings -/

namespace StringLiteral

private theorem hexValue4_control :
    ∀ n < 32, hexValue4 '0' '0' (Json.hexDigit (n / 16)) (Json.hexDigit n) = some n := by
  decide

private theorem readEscape_control {c : Char} (h : c.toNat < 0x20) (tail : List Char) :
    readEscape
      ('u' :: '0' :: '0' :: Json.hexDigit (c.toNat / 16) :: Json.hexDigit c.toNat :: tail) =
        .ok (c, tail) := by
  have low : isLowSurrogate c.toNat = false := by simp [isLowSurrogate]; omega
  have high : isHighSurrogate c.toNat = false := by simp [isHighSurrogate]; omega
  simp [readEscape, readCode, readHex, hexValue4_control _ h, low, high]

/-- Reading takes back what writing made of one character. -/
theorem readChars_escapedChar (c b : Char) (read budget tail : List Char) :
    readChars read (b :: budget) (Json.escapedChar c ++ tail) =
      readChars (c :: read) budget tail := by
  unfold Json.escapedChar
  split
  iterate 7 simp [readChars, readEscape, simpleEscape]
  rename_i quote backslash _ _ _ _ _
  split
  · rename_i control
    simp [readChars, readEscape_control control]
  · rename_i plain
    have shown : isControl c = false := by simpa [isControl] using plain
    simp [readChars, shown]

theorem readChars_escaped (cs read budget tail : List Char) (h : cs.length < budget.length) :
    readChars read budget (cs.flatMap Json.escapedChar ++ '"' :: tail) =
      .ok (read.reverse ++ cs, tail) := by
  induction cs generalizing read budget with
  | nil =>
    obtain ⟨b, budget, rfl⟩ := List.exists_cons_of_length_pos h
    simp [readChars]
  | cons c cs ih =>
    obtain ⟨b, budget, rfl⟩ := List.exists_cons_of_length_pos (Nat.zero_lt_of_lt h)
    rw [List.flatMap_cons, List.append_assoc, readChars_escapedChar,
      ih _ _ (by simpa using h)]
    simp

end StringLiteral

theorem length_le_flatMap_escapedChar (cs : List Char) :
    cs.length ≤ (cs.flatMap Json.escapedChar).length := by
  induction cs with
  | nil => simp
  | cons c cs ih =>
    have written : 0 < (Json.escapedChar c).length := by
      unfold Json.escapedChar
      split
      iterate 7 simp
      split <;> simp
    simp only [List.flatMap_cons, List.length_append, List.length_cons]
    omega

theorem readString_written (s : String) (tail : List Char) :
    readString (s.toList.flatMap Json.escapedChar ++ '"' :: tail) = .ok (s, tail) := by
  have short := length_le_flatMap_escapedChar s.toList
  have enough : s.toList.length < (s.toList.flatMap Json.escapedChar ++ '"' :: tail).length := by
    simp only [List.length_append, List.length_cons]
    omega
  simp [readString, StringLiteral.readChars_escaped _ _ _ _ enough]

/-! ## Numbers -/

/-- The text does not go on with anything that could still belong to a number. -/
def Delimited (s : List Char) : Prop :=
  ∀ c ∈ s.head?, c.isDigit = false ∧ c ≠ '.' ∧ c ≠ 'e' ∧ c ≠ 'E'

theorem delimited_nil : Delimited [] := by simp [Delimited]

theorem delimited_cons {c : Char} (s : List Char) (digit : c.isDigit = false) (point : c ≠ '.')
    (lower : c ≠ 'e') (upper : c ≠ 'E') : Delimited (c :: s) := by
  intro d mem
  obtain rfl : c = d := by simpa using mem
  exact ⟨digit, point, lower, upper⟩

namespace Literal

theorem digits_append {ds s : List Char} (hds : ∀ d ∈ ds, d.isDigit = true) (hs : Delimited s) :
    digits (ds ++ s) = (ds, s) := by
  have none_taken : s.takeWhile Char.isDigit = [] ∧ s.dropWhile Char.isDigit = s := by
    cases s with
    | nil => simp
    | cons c s => simp [(hs c (by simp)).1]
  rw [digits, List.span_eq_takeWhile_dropWhile, List.takeWhile_append_of_pos hds,
    List.dropWhile_append_of_pos hds, none_taken.1, none_taken.2, List.append_nil]

/-- Only zero is written with a zero in front. -/
theorem head_toDigits {n : Nat} (h : 0 < n) :
    ∃ d ds, Nat.toDigits 10 n = d :: ds ∧ d ≠ '0' := by
  induction n using Nat.strongRecOn with
  | ind n ih =>
    by_cases small : n < 10
    · refine ⟨n.digitChar, [], Nat.toDigits_of_lt_base small, ?_⟩
      have nonzero : ∀ k < 10, 0 < k → k.digitChar ≠ '0' := by decide
      exact nonzero n small h
    · obtain ⟨d, ds, written, nonzero⟩ := ih (n / 10) (by omega) (by omega)
      refine ⟨d, ds ++ [(n % 10).digitChar], ?_, nonzero⟩
      rw [Nat.toDigits_of_base_le (by decide) (Nat.le_of_not_lt small), written, List.cons_append]

theorem isDigit_of_mem_toDigits {n : Nat} {c : Char} (h : c ∈ Nat.toDigits 10 n) :
    c.isDigit = true :=
  Nat.isDigit_of_mem_toDigits (by decide) (by decide) h

theorem scanWhole_toDigits (n : Nat) {s : List Char} (hs : Delimited s) :
    scanWhole (Nat.toDigits 10 n ++ s) = .ok (Nat.toDigits 10 n, s) := by
  rcases Nat.eq_zero_or_pos n with rfl | positive
  · rw [Nat.toDigits_zero]
    cases s with
    | nil => rfl
    | cons c s => simp [scanWhole, (hs c (by simp)).1]
  · obtain ⟨d, ds, written, nonzero⟩ := head_toDigits positive
    have allDigits : ∀ c ∈ d :: ds, c.isDigit = true := fun c mem =>
      isDigit_of_mem_toDigits (written ▸ mem)
    have more : digits (ds ++ s) = (ds, s) :=
      digits_append (fun c mem => allDigits c (List.mem_cons_of_mem _ mem)) hs
    simp [written, scanWhole, nonzero, allDigits d (by simp), more]

theorem foldl_toDigits (n : Nat) :
    (Nat.toDigits 10 n).foldl (fun n d => n * 10 + digitValue d) 0 = n := by
  have swap : (fun n d => n * 10 + digitValue d) =
      fun (n : Nat) (d : Char) => 10 * n + (d.toNat - '0'.toNat) := by
    funext n d
    rw [digitValue, Nat.mul_comm]
  rw [swap, ← Nat.ofDigitChars_eq_foldl, Nat.ofDigitChars_ten_toDigits]

/-- A literal that has only a whole part, with a sign or without. -/
theorem scan_toDigits (n : Nat) {s : List Char} (hs : Delimited s) :
    scan (Nat.toDigits 10 n ++ s) = .ok (⟨false, Nat.toDigits 10 n, none, none⟩, s) ∧
      scan ('-' :: (Nat.toDigits 10 n ++ s)) = .ok (⟨true, Nat.toDigits 10 n, none, none⟩, s) := by
  have whole := scanWhole_toDigits n hs
  have unsigned : ∀ rest, Nat.toDigits 10 n ++ s ≠ '-' :: rest := by
    intro rest same
    obtain ⟨d, ds, written⟩ := List.exists_cons_of_ne_nil (Nat.toDigits_ne_nil (n := n) (b := 10))
    have digit := isDigit_of_mem_toDigits (n := n) (c := d) (by simp [written])
    obtain rfl : d = '-' := by simpa [written] using congrArg List.head? same
    exact absurd digit (by decide)
  have noFraction : ∀ rest, s ≠ '.' :: rest := by
    rintro rest rfl
    exact (hs '.' (by simp)).2.1 rfl
  have noLower : ∀ rest, s ≠ 'e' :: rest := by
    rintro rest rfl
    exact (hs 'e' (by simp)).2.2.1 rfl
  have noUpper : ∀ rest, s ≠ 'E' :: rest := by
    rintro rest rfl
    exact (hs 'E' (by simp)).2.2.2 rfl
  constructor
  · unfold scan
    simp only [whole, ok_bind, pure_eq_ok]
  · unfold scan
    simp only [whole, ok_bind, pure_eq_ok]

theorem integer?_toDigits (n : Nat) (h : n < UInt64.size) :
    integer? ⟨false, Nat.toDigits 10 n, none, none⟩ = some (n : Int) := by
  simp [integer?, foldl_toDigits, h]

theorem integer?_neg_toDigits (n : Nat) (positive : 0 < n) (h : n ≤ UInt64.size / 2) :
    integer? ⟨true, Nat.toDigits 10 n, none, none⟩ = some (-(n : Int)) := by
  simp [integer?, foldl_toDigits, positive, h]

end Literal

theorem readNumber_renderInteger {n : Int} (h : Json.NumberFits (.number (.integer n)))
    {s : List Char} (hs : Delimited s) :
    readNumber (Json.renderInteger n ++ s) = .ok (.integer n, s) := by
  obtain ⟨least, greatest⟩ := h
  obtain ⟨unsigned, signed⟩ := Literal.scan_toDigits n.natAbs hs
  unfold Json.renderInteger
  split
  · rename_i negative
    have value := Literal.integer?_neg_toDigits n.natAbs (by omega) (by omega)
    have same : -(n.natAbs : Int) = n := by omega
    simp only [readNumber, List.cons_append, signed, ok_bind, value, same, pure_eq_ok]
  · rename_i nonnegative
    have value := Literal.integer?_toDigits n.natAbs (by omega)
    have same : (n.natAbs : Int) = n := by omega
    simp only [readNumber, unsigned, ok_bind, value, same, pure_eq_ok]

namespace Json

/-! ## Items and members -/

theorem renderInteger_starts (n : Int) :
    ∃ c cs, renderInteger n = c :: cs ∧ (c = '-' ∨ c.isDigit = true) := by
  unfold renderInteger
  split
  · exact ⟨'-', _, rfl, .inl rfl⟩
  · obtain ⟨c, cs, written⟩ :=
      List.exists_cons_of_ne_nil (Nat.toDigits_ne_nil (n := n.natAbs) (b := 10))
    have digit := Literal.isDigit_of_mem_toDigits (n := n.natAbs) (c := c) (by simp [written])
    exact ⟨c, cs, written, .inr digit⟩

/-- A character with which a number starts can start nothing else, nor stand around a value. -/
theorem ne_of_starts_number {c d : Char} (h : c = '-' ∨ c.isDigit = true)
    (hminus : d ≠ '-') (hdigit : d.isDigit = false) : c ≠ d := by
  rintro rfl
  rcases h with minus | digit
  · exact hminus minus
  · simp [hdigit] at digit

/-- The text of a value starts with a character that is neither a space nor a closing bracket. -/
theorem render_starts {value : Json} (h : NumberFits value) :
    ∃ c cs, value.render = c :: cs ∧ isSpace c = false ∧ c ≠ ']' := by
  cases value with
  | null => exact ⟨'n', _, rfl, by decide, by decide⟩
  | boolean value =>
    cases value
    · exact ⟨'f', _, rfl, by decide, by decide⟩
    · exact ⟨'t', _, rfl, by decide, by decide⟩
  | number n =>
    cases n with
    | real x => exact h.elim
    | integer n =>
      obtain ⟨c, cs, written, first⟩ := renderInteger_starts n
      have apart (d : Char) := ne_of_starts_number (d := d) first
      refine ⟨c, cs, written, ?_, apart ']' (by decide) (by decide)⟩
      simp [isSpace, apart]
  | string s => exact ⟨'"', _, rfl, by decide, by decide⟩
  | array items => exact ⟨'[', _, by rw [render], by decide, by decide⟩
  | object members => exact ⟨'\x7b', _, by rw [render], by decide, by decide⟩

theorem delimited_renderItems (items : List Json) (s : List Char) :
    Delimited (renderItems false items ++ s) := by
  cases items with
  | nil => exact delimited_cons _ (by decide) (by decide) (by decide) (by decide)
  | cons item rest => exact delimited_cons _ (by decide) (by decide) (by decide) (by decide)

theorem delimited_renderMembers (members : List (String × Json)) (s : List Char) :
    Delimited (renderMembers false members ++ s) := by
  cases members with
  | nil => exact delimited_cons _ (by decide) (by decide) (by decide) (by decide)
  | cons member rest => exact delimited_cons _ (by decide) (by decide) (by decide) (by decide)

/-- The next item of a written list, with the comma in front of it taken. -/
theorem nextItem_written (first : Bool) {item : Json} (h : NumberFits item) (s : List Char) :
    nextItem first ((if first then [] else [',']) ++ (item.render ++ s)) =
      .ok (some (item.render ++ s)) := by
  obtain ⟨c, cs, written, space, bracket⟩ := render_starts h
  have front := skipSpaces_cons (cs ++ s) space
  cases first with
  | true => simp [nextItem, written, front]
  | false =>
    have comma := skipSpaces_cons (c :: (cs ++ s)) (show isSpace ',' = false by decide)
    simp [nextItem, written, front, comma, bracket]

/-- The next name of a written object, with the comma in front of it taken. -/
theorem nextName_written (first : Bool) (name : String) (s : List Char) :
    nextName first ((if first then [] else [',']) ++ (renderString name ++ s)) =
      .ok (some (name, s)) := by
  have quote := fun s => skipSpaces_cons s (show isSpace '"' = false by decide)
  have read := readString_written name s
  cases first with
  | true => simp [nextName, renderString, quote, read]
  | false =>
    have comma := fun s => skipSpaces_cons s (show isSpace ',' = false by decide)
    simp [nextName, renderString, quote, comma, read]

/-- Written items are read one after the other. -/
theorem itemLoop_renderItems {value : Reader Json} {items : List Json} {s : List Char}
    (hread : ∀ item ∈ items, ∀ rest, Delimited rest →
      value (item.render ++ rest) = .ok (item, rest))
    (hfit : ∀ item ∈ items, NumberFits item) (first : Bool) (read : List Json)
    (budget : List Char) (hbudget : items.length < budget.length) :
    itemLoop (readItem value) budget first read (renderItems first items ++ s) =
      .ok (items.reverse ++ read, s) := by
  induction items generalizing first read budget with
  | nil =>
    obtain ⟨b, budget, rfl⟩ := List.exists_cons_of_length_pos hbudget
    have close := skipSpaces_cons s (show isSpace ']' = false by decide)
    simp [itemLoop, renderItems, nextItem, leaveList, close]
  | cons item rest ih =>
    obtain ⟨b, budget, rfl⟩ := List.exists_cons_of_length_pos (Nat.zero_lt_of_lt hbudget)
    have next := nextItem_written first (hfit item (by simp)) (renderItems false rest ++ s)
    have taken := hread item (by simp) _ (delimited_renderItems rest s)
    have later := ih (fun item mem => hread item (List.mem_cons_of_mem _ mem))
      (fun item mem => hfit item (List.mem_cons_of_mem _ mem)) false (item :: read) budget
      (by simpa using hbudget)
    rw [itemLoop, renderItems, List.append_assoc, List.append_assoc, next, ok_bind]
    simp only [readItem, taken, ok_bind, pure_eq_ok, later, List.reverse_cons, List.append_assoc,
      List.singleton_append]

/-- Written members are read one after the other. -/
theorem memberLoop_renderMembers {value : Reader Json} {members : List (String × Json)}
    {s : List Char}
    (hread : ∀ member ∈ members, ∀ rest, Delimited rest →
      value (member.2.render ++ rest) = .ok (member.2, rest))
    (first : Bool) (read : List (String × Json))
    (budget : List Char) (hbudget : members.length < budget.length) :
    memberLoop (readMember value) budget first read (renderMembers first members ++ s) =
      .ok (members.reverse ++ read, s) := by
  induction members generalizing first read budget with
  | nil =>
    obtain ⟨b, budget, rfl⟩ := List.exists_cons_of_length_pos hbudget
    have close := skipSpaces_cons s (show isSpace '\x7d' = false by decide)
    simp [memberLoop, renderMembers, nextName, leaveObject, close]
  | cons member rest ih =>
    obtain ⟨b, budget, rfl⟩ := List.exists_cons_of_length_pos (Nat.zero_lt_of_lt hbudget)
    have next := nextName_written first member.1
      (':' :: (member.2.render ++ renderMembers false rest) ++ s)
    have colon := skipSpaces_cons (member.2.render ++ (renderMembers false rest ++ s))
      (show isSpace ':' = false by decide)
    have taken := hread member (by simp) _ (delimited_renderMembers rest s)
    have later := ih (fun member mem => hread member (List.mem_cons_of_mem _ mem))
      false (member :: read) budget (by simpa using hbudget)
    rw [memberLoop, renderMembers, List.append_assoc, List.append_assoc, next, ok_bind]
    simp only [List.cons_append, List.append_assoc, readMember, readColon, colon, taken, ok_bind,
      pure_eq_ok, later, List.reverse_cons, List.nil_append]

theorem length_lt_renderItems (first : Bool) {items : List Json}
    (hfit : ∀ item ∈ items, NumberFits item) : items.length < (renderItems first items).length := by
  induction items generalizing first with
  | nil => simp [renderItems]
  | cons item rest ih =>
    obtain ⟨c, cs, written, -⟩ := render_starts (hfit item (by simp))
    have later := ih false fun item mem => hfit item (List.mem_cons_of_mem _ mem)
    simp only [renderItems, written, List.length_append, List.length_cons]
    omega

theorem length_lt_renderMembers (first : Bool) (members : List (String × Json)) :
    members.length < (renderMembers first members).length := by
  induction members generalizing first with
  | nil => simp [renderMembers]
  | cons member rest ih =>
    have later := ih false
    simp only [renderMembers, List.length_append, List.length_cons]
    omega

/-! ## Values -/

theorem readWith_number {list object : Reader Json} {c : Char} (h : c = '-' ∨ c.isDigit = true)
    (s : List Char) :
    readWith list object (c :: s) =
      (do let (n, rest) ← readNumber (c :: s); pure (.number n, rest)) := by
  have apart (d : Char) := ne_of_starts_number (d := d) h
  have space : isSpace c = false := by simp [isSpace, apart]
  have word : c ≠ 'n' ∧ c ≠ 't' ∧ c ≠ 'f' := by simp [apart]
  have mark : c ≠ '"' ∧ c ≠ '[' ∧ c ≠ '\x7b' := by simp [apart]
  simp [readWith, skipSpaces_cons s space, word, mark, h]

/-- The text of a scalar is read back, whatever reads lists and objects. -/
theorem readWith_render_scalar {list object : Reader Json} {value : Json}
    (hscalar : value.depth = 0) (hfit : NumberFits value) {s : List Char} (hs : Delimited s) :
    readWith list object (value.render ++ s) = .ok (value, s) := by
  have letter (c : Char) (h : isSpace c = false) := skipSpaces_cons (c := c) (h := h)
  cases value with
  | null => simp [render, readWith, letter 'n' (by decide), readWord]
  | boolean value =>
    cases value
    · simp [render, readWith, letter 'f' (by decide), readWord]
    · simp [render, readWith, letter 't' (by decide), readWord]
  | number n =>
    cases n with
    | real x => exact hfit.elim
    | integer n =>
      obtain ⟨c, cs, written, first⟩ := renderInteger_starts n
      have back := readNumber_renderInteger hfit hs
      rw [written, List.cons_append] at back
      rw [render, renderNumber, written, List.cons_append, readWith_number first, back]
      rfl
  | string text =>
    simp [render, renderString, readWith, letter '"' (by decide), readString_written]
  | array items => simp [depth] at hscalar
  | object members => simp [depth] at hscalar

/-- The items of a written list are read back. -/
theorem readList_renderItems {value : Reader Json} {items : List Json}
    (hread : ∀ item ∈ items, ∀ rest, Delimited rest →
      value (item.render ++ rest) = .ok (item, rest))
    (hfit : ∀ item ∈ items, NumberFits item) (s : List Char) :
    readList value (renderItems true items ++ s) = .ok (.array items, s) := by
  have enough : items.length < (renderItems true items ++ s).length := by
    have short := length_lt_renderItems true hfit
    simp only [List.length_append]
    omega
  simp [readList, readItems, itemLoop_renderItems hread hfit true [] _ enough]

/-- The members of a written object are read back. -/
theorem readObject_renderMembers {value : Reader Json} {members : List (String × Json)}
    (hread : ∀ member ∈ members, ∀ rest, Delimited rest →
      value (member.2.render ++ rest) = .ok (member.2, rest)) (s : List Char) :
    readObject value (renderMembers true members ++ s) = .ok (.object members, s) := by
  have enough : members.length < (renderMembers true members ++ s).length := by
    have short := length_lt_renderMembers true members
    simp only [List.length_append]
    omega
  simp [readObject, readMembers, memberLoop_renderMembers hread true [] _ enough]

theorem numberFits_of_isIntegral {value : Json} (h : value.IsIntegral) : NumberFits value := by
  cases value with
  | array items => trivial
  | object members => trivial
  | _ => exact h

/-- The text of a value is read back as the value. -/
theorem read_render {value : Json} (hint : value.IsIntegral) {depth : Nat}
    (hdepth : value.depth ≤ depth) {s : List Char} (hs : Delimited s) :
    read depth (value.render ++ s) = .ok (value, s) := by
  induction value generalizing depth s with
  | array items ih =>
    obtain ⟨-, inside⟩ := everywhere_array.1 hint
    cases depth with
    | zero => simp [Json.depth] at hdepth
    | succ depth =>
      rw [render, List.cons_append, read,
        readWith_bracket (skipSpaces_cons _ (show isSpace '[' = false by decide))]
      refine readList_renderItems (fun item mem rest hrest => ?_)
        (fun item mem => numberFits_of_isIntegral (inside item mem)) s
      exact ih item mem (inside item mem) (depth_array_le.1 hdepth item mem) hrest
  | object members ih =>
    obtain ⟨-, inside⟩ := everywhere_object.1 hint
    cases depth with
    | zero => simp [Json.depth] at hdepth
    | succ depth =>
      rw [render, List.cons_append, read,
        readWith_brace (skipSpaces_cons _ (show isSpace '\x7b' = false by decide))]
      refine readObject_renderMembers (fun member mem rest hrest => ?_) s
      exact ih member mem (inside member mem) (depth_object_le.1 hdepth member mem) hrest
  | _ => cases depth <;> exact readWith_render_scalar rfl (numberFits_of_isIntegral hint) hs

/-- The text of a value holds the value. -/
theorem ofText_toText {value : Json} (hint : value.IsIntegral) (hdepth : value.depth ≤ depthLimit) :
    ofText value.toText = .ok value := by
  have back := read_render hint hdepth delimited_nil
  rw [List.append_nil] at back
  simp [ofText, toText, back, expectEnd, skipSpaces, Except.mapError]

end Json

end ControlChannel
