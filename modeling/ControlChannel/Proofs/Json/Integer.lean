import ControlChannel.Proofs.Json.RoundTrip

/-!
# Integer literals

An integer is read from its decimal digits, and from no other literal: not with a zero in front, not
with a fraction or an exponent, and not from minus zero. So it shows in the text of a number whether
the number is an integer of a certain range.
-/

namespace ControlChannel

namespace Literal

variable {s rest ds whole : List Char}

/-! ## What was scanned -/

theorem of_digits (h : digits s = (ds, rest)) :
    s = ds ++ rest ∧ (∀ d ∈ ds, d.isDigit = true) ∧ ∀ c ∈ rest.head?, c.isDigit = false := by
  rw [digits, List.span_eq_takeWhile_dropWhile] at h
  obtain ⟨rfl, rfl⟩ := Prod.mk.inj h
  refine ⟨List.takeWhile_append_dropWhile.symm, List.all_eq_true.1 List.all_takeWhile, ?_⟩
  intro c mem
  have stopped := List.head?_dropWhile_not Char.isDigit s
  rw [Option.mem_def.1 mem] at stopped
  simpa using stopped

/-- The digits of a number without a sign: one zero, or digits of which the first is not zero. -/
inductive IsWhole : List Char → Prop where
  | zero : IsWhole ['0']
  | positive {d : Char} {ds : List Char} : d ≠ '0' → (∀ c ∈ d :: ds, c.isDigit = true) →
      IsWhole (d :: ds)

theorem of_scanWhole (h : scanWhole s = .ok (whole, rest)) :
    s = whole ++ rest ∧ IsWhole whole ∧ ∀ c ∈ rest.head?, c.isDigit = false := by
  unfold scanWhole at h
  split at h
  · cases h
  · rename_i c tail
    split at h
    · rename_i zero
      subst zero
      split at h
      · split at h
        · cases h
        · rename_i d _ notDigit
          cases h
          exact ⟨rfl, .zero, by simpa using notDigit⟩
      · cases h
        exact ⟨rfl, .zero, by simp⟩
    · rename_i nonzero
      split at h
      · rename_i digit
        obtain ⟨more, left, taken⟩ : ∃ more left, digits tail = (more, left) := ⟨_, _, rfl⟩
        obtain ⟨rfl, allDigits, stopped⟩ := of_digits taken
        rw [taken] at h
        cases h
        exact ⟨rfl, .positive nonzero (List.forall_mem_cons.2 ⟨digit, allDigits⟩), stopped⟩
      · cases h

/-- A literal without fraction and exponent is a whole number, perhaps with a minus sign. -/
theorem of_scan {negative : Bool} (h : scan s = .ok (⟨negative, whole, none, none⟩, rest)) :
    s = (if negative then ['-'] else []) ++ whole ++ rest ∧ IsWhole whole ∧ Delimited rest := by
  unfold scan at h
  split at h
  rename_i sign tail signed
  have written : s = (if sign then ['-'] else []) ++ tail := by
    split at signed
    · cases signed
      rfl
    · cases signed
      rfl
  obtain ⟨⟨found, s₁⟩, wholeScanned, h⟩ := bind_eq_ok.1 h
  obtain ⟨joined, isWhole, stopped⟩ := of_scanWhole wholeScanned
  dsimp only at h
  split at h
  · -- A fraction would be part of the literal.
    obtain ⟨_, -, h⟩ := bind_eq_ok.1 h
    simp only [pure_eq_ok, ok_bind] at h
    split at h
    · obtain ⟨_, -, same⟩ := bind_eq_ok.1 h
      cases same
    · obtain ⟨_, -, same⟩ := bind_eq_ok.1 h
      cases same
    · cases h
  · rename_i noFraction
    simp only [pure_eq_ok, ok_bind] at h
    split at h
    · obtain ⟨_, -, same⟩ := bind_eq_ok.1 h
      cases same
    · obtain ⟨_, -, same⟩ := bind_eq_ok.1 h
      cases same
    · rename_i noLower noUpper
      cases h
      refine ⟨by rw [written, joined, List.append_assoc], isWhole, ?_⟩
      intro c mem
      obtain ⟨more, rfl⟩ := List.head?_eq_some_iff.1 mem
      refine ⟨stopped c mem, ?_, ?_, ?_⟩
      · rintro rfl
        exact noFraction more rfl
      · rintro rfl
        exact noLower more rfl
      · rintro rfl
        exact noUpper more rfl

/-! ## What was written -/

theorem digitChar_digitValue {c : Char} (digit : c.isDigit = true) :
    digitValue c < 10 ∧ (digitValue c).digitChar = c := by
  have bounds : 48 ≤ c.toNat ∧ c.toNat ≤ 57 := by
    rw [Char.isDigit, Bool.and_eq_true, decide_eq_true_iff, decide_eq_true_iff] at digit
    exact digit
  have small : digitValue c < 10 := by
    show c.toNat - 48 < 10
    omega
  refine ⟨small, Char.toNat_inj.1 ?_⟩
  rw [Nat.toNat_digitChar_of_lt_ten small]
  show 48 + (c.toNat - 48) = c.toNat
  omega

/-- Digits that follow those of a positive number are the last ones of the number they make. -/
theorem toDigits_foldl {n : Nat} (positive : 0 < n) (allDigits : ∀ c ∈ ds, c.isDigit = true) :
    Nat.toDigits 10 (ds.foldl (fun n d => n * 10 + digitValue d) n) = Nat.toDigits 10 n ++ ds := by
  induction ds generalizing n with
  | nil => simp
  | cons d ds ih =>
    obtain ⟨digit, later⟩ := List.forall_mem_cons.1 allDigits
    obtain ⟨small, written⟩ := digitChar_digitValue digit
    have next : Nat.toDigits 10 (n * 10 + digitValue d) = Nat.toDigits 10 n ++ [d] := by
      rw [Nat.mul_comm, ← Nat.toDigits_append_toDigits (by decide) positive small,
        Nat.toDigits_of_lt_base small, written]
    rw [List.foldl_cons, ih (by omega) later, next, List.append_assoc, List.singleton_append]

/-- The digits of a whole number are those of its value. -/
theorem IsWhole.toDigits (h : IsWhole ds) :
    Nat.toDigits 10 (ds.foldl (fun n d => n * 10 + digitValue d) 0) = ds := by
  cases h with
  | zero => rfl
  | @positive d ds nonzero allDigits =>
    obtain ⟨digit, later⟩ := List.forall_mem_cons.1 allDigits
    obtain ⟨small, written⟩ := digitChar_digitValue digit
    have positive : 0 < digitValue d := by
      refine Nat.pos_of_ne_zero fun zero => nonzero ?_
      rw [← written, zero]
      rfl
    rw [List.foldl_cons, Nat.zero_mul, Nat.zero_add, toDigits_foldl positive later,
      Nat.toDigits_of_lt_base small, written, List.singleton_append]

/-- The digits and the sign of a literal that is an integer. -/
theorem of_integer? {l : Literal} {n : Int} (h : l.integer? = some n) :
    l.fraction = none ∧ l.exponent = none ∧ Json.NumberFits (.number (.integer n)) ∧
      l.negative = decide (n < 0) ∧
      n.natAbs = l.whole.foldl (fun n d => n * 10 + digitValue d) 0 := by
  unfold integer? at h
  split at h
  · cases h
  · rename_i plain
    simp only [Option.isSome_iff_ne_none, ne_eq, not_or, Decidable.not_not] at plain
    refine ⟨plain.1, plain.2, ?_⟩
    dsimp only at h
    split at h
    · rename_i negative
      split at h
      · rename_i fits
        cases h
        rw [negative, Int.natAbs_neg, Int.natAbs_natCast]
        refine ⟨⟨by omega, by omega⟩, ?_, rfl⟩
        symm
        apply decide_eq_true
        omega
      · cases h
    · rename_i positive
      split at h
      · rename_i fits
        cases h
        rw [Int.natAbs_natCast]
        refine ⟨⟨by omega, by omega⟩, ?_, rfl⟩
        rw [eq_false_of_ne_true positive]
        symm
        apply decide_eq_false
        omega
      · cases h

end Literal

open Literal

/-- An integer is read from its digits alone. -/
theorem readNumber_eq_integer {s rest : List Char} {n : Int} :
    readNumber s = .ok (.integer n, rest) ↔
      s = Json.renderInteger n ++ rest ∧ Delimited rest ∧
        Json.NumberFits (.number (.integer n)) := by
  constructor
  · intro h
    obtain ⟨⟨literal, s₁⟩, scanned, h⟩ := bind_eq_ok.1 h
    dsimp only at h
    split at h
    · rename_i m found
      cases h
      obtain ⟨negative, whole, fraction, exponent⟩ := literal
      obtain ⟨rfl, rfl, fits, rfl, value⟩ := of_integer? found
      obtain ⟨written, isWhole, delimited⟩ := of_scan scanned
      refine ⟨?_, delimited, fits⟩
      rw [written, Json.renderInteger, value, isWhole.toDigits]
      by_cases negative : n < 0
      · simp [negative]
      · simp [negative]
    · split at h
      · cases h
      · cases h
  · rintro ⟨rfl, delimited, fits⟩
    exact readNumber_renderInteger fits delimited

namespace Json

/-- A number is read after the spaces in front of it. -/
theorem readNumber_of_readWith {list object : Reader Json} {s rest : List Char} {n : Number}
    (hlist : ∀ s, list s ≠ .ok (.number n, rest)) (hobject : ∀ s, object s ≠ .ok (.number n, rest))
    (h : readWith list object s = .ok (.number n, rest)) :
    readNumber (skipSpaces s) = .ok (n, rest) := by
  unfold readWith at h
  split at h
  · cases h
  · obtain ⟨_, -, same⟩ := bind_eq_ok.1 h
    cases same
  · obtain ⟨_, -, same⟩ := bind_eq_ok.1 h
    cases same
  · obtain ⟨_, -, same⟩ := bind_eq_ok.1 h
    cases same
  · obtain ⟨_, -, same⟩ := bind_eq_ok.1 h
    cases same
  · exact absurd h (hlist _)
  · exact absurd h (hobject _)
  · rename_i front
    split at h
    · obtain ⟨_, numberRead, same⟩ := bind_eq_ok.1 h
      cases same
      rw [front]
      exact numberRead
    · cases h

/-- Spaces in front of a value do not matter. -/
theorem readWith_congr {s s' : List Char} (same : skipSpaces s = skipSpaces s')
    (list object : Reader Json) : readWith list object s = readWith list object s' := by
  unfold readWith
  rw [same]

/-- An integer is read where its digits are in front, and nothing after them that could belong to a
    number. -/
theorem read_eq_integer {depth : Nat} {s rest : List Char} {n : Int} :
    read depth s = .ok (.number (.integer n), rest) ↔
      skipSpaces s = renderInteger n ++ rest ∧ Delimited rest ∧
        NumberFits (.number (.integer n)) := by
  rw [← readNumber_eq_integer]
  constructor
  · intro h
    cases depth with
    | zero => exact readNumber_of_readWith (fun _ h => by cases h) (fun _ h => by cases h) h
    | succ depth =>
      refine readNumber_of_readWith (fun s h => ?_) (fun s h => ?_) h
      · obtain ⟨_, -, same⟩ := readList_eq_ok.1 h
        cases same
      · obtain ⟨_, -, same⟩ := readObject_eq_ok.1 h
        cases same
  · intro h
    obtain ⟨c, cs, written, starts⟩ := renderInteger_starts n
    have front : skipSpaces s = c :: (cs ++ rest) := by
      rw [(readNumber_eq_integer.1 h).1, written, List.cons_append]
    have apart (d : Char) := ne_of_starts_number (d := d) starts
    have space : isSpace c = false := by simp [isSpace, apart]
    have readHere (list object : Reader Json) :
        readWith list object s = .ok (.number (.integer n), rest) := by
      rw [readWith_congr (front.trans (skipSpaces_cons _ space).symm), readWith_number starts,
        ← front, h]
      rfl
    cases depth with
    | zero => exact readHere _ _
    | succ depth => exact readHere _ _

end Json

end ControlChannel
