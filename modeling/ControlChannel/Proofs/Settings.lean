import ControlChannel.Config
import ControlChannel.Proofs.Outcome
import Mathlib.Data.List.Basic
import Mathlib.Data.List.TakeWhile
import Mathlib.Data.Nat.Digits.Defs

/-!
# Settings and the numerals that set them

How a numeral is written is said here by itself: digits, perhaps after a plus sign, with white space
around them or none. The settings are read from such texts and from no others, and a value is the
number that the digits stand for by their places. Where a variable holds anything else, the error
tells of the first such variable, whatever the others hold.
-/

namespace ControlChannel

/-! ## White space around a text -/

namespace Text

variable {before core after : List Char}

/-- Trimming takes nothing but white space. -/
theorem exists_trim (cs : List Char) : ∃ before after, cs = before ++ trim cs ++ after ∧
    (∀ c ∈ before, isBlankChar c = true) ∧ ∀ c ∈ after, isBlankChar c = true := by
  let tail := cs.dropWhile isBlankChar
  refine ⟨cs.takeWhile isBlankChar, (tail.reverse.takeWhile isBlankChar).reverse, ?_, ?_, ?_⟩
  · have ending : trim cs ++ (tail.reverse.takeWhile isBlankChar).reverse = tail := by
      rw [trim, ← List.reverse_append, List.takeWhile_append_dropWhile, List.reverse_reverse]
    rw [List.append_assoc, ending, List.takeWhile_append_dropWhile]
  · exact List.all_eq_true.1 List.all_takeWhile
  · intro c mem
    exact List.all_eq_true.1 List.all_takeWhile c (List.mem_reverse.1 mem)

theorem dropWhile_blank (blank : ∀ c ∈ before, isBlankChar c = true)
    (first : ∀ c ∈ core.head?, isBlankChar c = false) :
    (before ++ core).dropWhile isBlankChar = core := by
  rw [List.dropWhile_append_of_pos blank]
  cases core with
  | nil => rfl
  | cons c rest => rw [List.dropWhile_cons_of_neg (by simp [first c rfl])]

/-- Trimming takes all the white space at both ends. -/
theorem trim_append (blankBefore : ∀ c ∈ before, isBlankChar c = true)
    (blankAfter : ∀ c ∈ after, isBlankChar c = true)
    (first : ∀ c ∈ core.head?, isBlankChar c = false)
    (last : ∀ c ∈ core.getLast?, isBlankChar c = false) :
    trim (before ++ core ++ after) = core := by
  by_cases empty : core = []
  · have blank : ∀ c ∈ before ++ after, isBlankChar c = true := by
      intro c mem
      exact (List.mem_append.1 mem).elim (blankBefore c) (blankAfter c)
    subst empty
    rw [List.append_nil, trim, List.dropWhile_eq_nil_iff.2 blank]
    rfl
  · have starts : ∀ c ∈ (core ++ after).head?, isBlankChar c = false := by
      rw [List.head?_append_of_ne_nil _ empty]
      exact first
    have ends : ∀ c ∈ core.reverse.head?, isBlankChar c = false := by
      rw [List.head?_reverse]
      exact last
    have blankEnd : ∀ c ∈ after.reverse, isBlankChar c = true := by
      intro c mem
      exact blankAfter c (List.mem_reverse.1 mem)
    rw [trim, List.append_assoc, dropWhile_blank blankBefore starts, List.reverse_append,
      dropWhile_blank blankEnd ends, List.reverse_reverse]

theorem isBlankChar_of_isDigit {d : Char} (digit : d.isDigit = true) : isBlankChar d = false := by
  rw [Char.isDigit, Bool.and_eq_true, decide_eq_true_iff, decide_eq_true_iff] at digit
  have bounds : 48 ≤ d.toNat ∧ d.toNat ≤ 57 := digit
  simp only [isBlankChar, inRanges, blankRanges, List.any_cons, List.any_nil, Bool.or_false,
    Bool.or_eq_false_iff, Bool.and_eq_false_iff, decide_eq_false_iff_not]
  omega

end Text

/-! ## Numerals -/

/-- The text is a numeral for `n`: one or more digits, perhaps after a plus sign, with white space
    around them or none. The digits count by their places, the last one once. -/
def IsNumeral (n : Nat) (text : String) : Prop :=
  ∃ before sign digits after : List Char, text.toList = before ++ (sign ++ digits) ++ after ∧
    (∀ c ∈ before, Text.isBlankChar c = true) ∧ (∀ c ∈ after, Text.isBlankChar c = true) ∧
    (sign = [] ∨ sign = ['+']) ∧ digits ≠ [] ∧ (∀ d ∈ digits, d.isDigit = true) ∧
    n = Nat.ofDigits 10 (digits.reverse.map fun d => d.toNat - '0'.toNat)

/-- Digits are read as the number that they stand for by their places. -/
theorem decimal?_eq_some {digits : List Char} {n : Nat} : decimal? digits = some n ↔
    digits ≠ [] ∧ (∀ d ∈ digits, d.isDigit = true) ∧
      n = Nat.ofDigits 10 (digits.reverse.map fun d => d.toNat - '0'.toNat) := by
  have places : digits.foldl (fun n d => n * 10 + (d.toNat - '0'.toNat)) 0 =
      Nat.ofDigits 10 (digits.reverse.map fun d => d.toNat - '0'.toNat) := by
    rw [Nat.ofDigits_eq_foldr, List.foldr_map, List.foldr_reverse]
    congr 1
    funext n d
    simp only [Nat.cast_id]
    omega
  rw [decimal?, places, ← List.all_eq_true]
  split
  · rename_i written
    simp [written, eq_comm]
  · rename_i unwritten
    simp only [reduceCtorEq, false_iff]
    exact fun ⟨nonempty, digit, _⟩ => unwritten ⟨nonempty, digit⟩

/-- What is read from a text is the value of the numeral that the text is, if that is not zero and
    not too great. -/
theorem positive?_eq_some {greatest n : Nat} {text : String} :
    positive? greatest text = some n ↔ IsNumeral n text ∧ 0 < n ∧ n ≤ greatest := by
  unfold positive?
  dsimp only
  rw [Option.filter_eq_some_iff, decide_eq_true_iff]
  refine and_congr_left fun _ => ⟨fun read => ?_, fun numeral => ?_⟩
  · obtain ⟨before, after, written, blankBefore, blankAfter⟩ := Text.exists_trim text.toList
    split at read
    · rename_i rest signed
      rw [signed] at written
      exact ⟨before, ['+'], rest, after, written, blankBefore, blankAfter, .inr rfl,
        decimal?_eq_some.1 read⟩
    · exact ⟨before, [], _, after, written, blankBefore, blankAfter, .inl rfl,
        decimal?_eq_some.1 read⟩
  · obtain ⟨before, sign, digits, after, written, blankBefore, blankAfter, signed, decimal⟩ :=
      numeral
    have visible : ∀ c ∈ sign ++ digits, Text.isBlankChar c = false := by
      intro c mem
      rcases List.mem_append.1 mem with mem | mem
      · rcases signed with rfl | rfl
        · cases mem
        · rw [List.mem_singleton.1 mem]
          rfl
      · exact Text.isBlankChar_of_isDigit (decimal.2.1 c mem)
    have bare : Text.trim text.toList = sign ++ digits := by
      rw [written]
      exact Text.trim_append blankBefore blankAfter
        (fun c first => visible c (List.mem_of_mem_head? first))
        (fun c last => visible c (List.mem_of_getLast? last))
    rw [bare]
    rcases signed with rfl | rfl
    · split
      · -- A plus sign is no digit.
        rename_i rest same
        have plus : ('+').isDigit = true := by
          refine decimal.2.1 _ ?_
          rw [← List.nil_append digits, same]
          exact List.mem_cons_self
        cases plus
      · exact decimal?_eq_some.2 decimal
    · exact decimal?_eq_some.2 decimal

/-! ## Settings -/

namespace Setting

variable {vars : String → Option String} {setting : Setting}

/-- All settings, in the order in which they are read. -/
def all : List Setting := [sendBuffer, maxInboundBytes, maxFrameHeight]

/-- The number is a value of the setting: it is positive, and it fits a word of 64 bits, or a frame
    height a signed one of 32. -/
def Fits : Setting → Nat → Prop
  | sendBuffer, n | maxInboundBytes, n => 0 < n ∧ n < 2 ^ 64
  | maxFrameHeight, n => 0 < n ∧ n < 2 ^ 31

/-- The variable of a setting holds a text that is a numeral for none of the setting's values. -/
def Spoils (vars : String → Option String) (setting : Setting) (text : String) : Prop :=
  vars setting.variableName = some text ∧ ∀ n, IsNumeral n text → ¬ setting.Fits n

theorem fits_iff {n : Nat} : setting.Fits n ↔ 0 < n ∧ n ≤ setting.greatest := by
  cases setting with
  | maxFrameHeight => exact and_congr_right fun _ => Nat.lt_succ_iff
  | _ => exact and_congr_right fun _ => Nat.lt_succ_iff

/-- What is read from a text for a setting. -/
theorem positive?_greatest {text : String} {n : Nat} :
    positive? setting.greatest text = some n ↔ IsNumeral n text ∧ setting.Fits n := by
  rw [positive?_eq_some, fits_iff]

end Setting

namespace Config

/-- The value that the limits have for a setting. -/
def value (c : Config) : Setting → Int
  | .sendBuffer => c.sendBuffer
  | .maxInboundBytes => c.maxInboundBytes
  | .maxFrameHeight => c.maxFrameHeight.toInt

end Config

namespace Setting

variable {vars : String → Option String} {setting : Setting}

/-- The value that a setting has by the variables: its default if its variable is not there, and
    otherwise the value of the numeral that the variable holds. -/
inductive Settles (vars : String → Option String) (setting : Setting) : Int → Prop where
  | default : vars setting.variableName = none →
      Settles vars setting (({} : Config).value setting)
  | numeral {text : String} {n : Nat} : vars setting.variableName = some text →
      IsNumeral n text → setting.Fits n → Settles vars setting n

/-- The value of a setting that was read, or its default. -/
def valueOf (setting : Setting) (found : Option Nat) : Int :=
  (found.map Int.ofNat).getD (({} : Config).value setting)

theorem read_eq_none : setting.read vars = .ok none ↔ vars setting.variableName = none := by
  unfold Setting.read
  cases vars setting.variableName with
  | none => exact ⟨fun _ => rfl, fun _ => rfl⟩
  | some text =>
    dsimp only
    cases positive? setting.greatest text <;> simp

theorem read_eq_some {n : Nat} : setting.read vars = .ok (some n) ↔
    ∃ text, vars setting.variableName = some text ∧ IsNumeral n text ∧ setting.Fits n := by
  unfold Setting.read
  cases held : vars setting.variableName with
  | none => simp
  | some text =>
    simp only [Option.some.injEq, exists_eq_left', ← positive?_greatest]
    cases positive? setting.greatest text <;> simp

theorem read_eq_error {e : ConfigError} :
    setting.read vars = .error e ↔ e.setting = setting ∧ setting.Spoils vars e.value := by
  have refused (text : String) : positive? setting.greatest text = none ↔
      ∀ n, IsNumeral n text → ¬ setting.Fits n := by
    rw [Option.eq_none_iff_forall_ne_some]
    exact forall_congr' fun n => by rw [ne_eq, positive?_greatest, not_and]
  obtain ⟨named, shown⟩ := e
  unfold Setting.read Spoils
  cases vars setting.variableName with
  | none => simp
  | some text =>
    dsimp only
    constructor
    · intro spoilt
      split at spoilt
      · cases spoilt
      · rename_i none
        cases spoilt
        exact ⟨rfl, rfl, (refused _).1 none⟩
    · rintro ⟨rfl, held, spoilt⟩
      cases held
      rw [(refused _).2 spoilt]

/-- The value of a setting is what is read, or its default if nothing is. -/
theorem settles_iff {value : Int} : setting.Settles vars value ↔
    ∃ found, setting.read vars = .ok found ∧ setting.valueOf found = value := by
  constructor
  · rintro (absent | ⟨held, written, fits⟩)
    · exact ⟨none, read_eq_none.2 absent, rfl⟩
    · exact ⟨some _, read_eq_some.2 ⟨_, held, written, fits⟩, rfl⟩
  · rintro ⟨found, read, rfl⟩
    cases found with
    | none => exact .default (read_eq_none.1 read)
    | some n =>
      obtain ⟨text, held, written, fits⟩ := read_eq_some.1 read
      exact .numeral held written fits

/-- A setting has a value unless its variable holds something else. -/
theorem exists_settles : (∃ value, setting.Settles vars value) ↔
    ∀ text, vars setting.variableName = some text → ∃ n, IsNumeral n text ∧ setting.Fits n := by
  constructor
  · rintro ⟨value, absent | ⟨held, written, fits⟩⟩ text found
    · cases absent.symm.trans found
    · cases held.symm.trans found
      exact ⟨_, written, fits⟩
  · intro numerals
    cases held : vars setting.variableName with
    | none => exact ⟨_, .default held⟩
    | some text =>
      obtain ⟨n, written, fits⟩ := numerals text held
      exact ⟨n, .numeral held written fits⟩

theorem exists_read (settled : ∃ value, setting.Settles vars value) :
    ∃ found, setting.read vars = .ok found := by
  obtain ⟨value, settles⟩ := settled
  obtain ⟨found, read, -⟩ := settles_iff.1 settles
  exact ⟨found, read⟩

/-- A setting has one value. -/
theorem Settles.unique {v w : Int} (left : setting.Settles vars v)
    (right : setting.Settles vars w) : v = w := by
  obtain ⟨found, read, rfl⟩ := settles_iff.1 left
  obtain ⟨found', read', rfl⟩ := settles_iff.1 right
  cases read.symm.trans read'
  rfl

end Setting

namespace Config

variable {vars : String → Option String} {c : Config}

/-- The limits are known by their values. -/
theorem eq_of_value {c d : Config} (same : ∀ setting, c.value setting = d.value setting) :
    c = d := by
  obtain ⟨buffer, bytes, height⟩ := c
  obtain ⟨buffer', bytes', height'⟩ := d
  have sameBuffer : buffer = buffer' := Int.ofNat.inj (same .sendBuffer)
  have sameBytes : bytes = bytes' := Int.ofNat.inj (same .maxInboundBytes)
  have sameHeight : height = height' := Int32.toInt_inj.1 (same .maxFrameHeight)
  rw [sameBuffer, sameBytes, sameHeight]

/-- The limits that are made of what was read have these values. -/
theorem ofVars_eq {buffer bytes height : Option Nat}
    (readBuffer : Setting.sendBuffer.read vars = .ok buffer)
    (readBytes : Setting.maxInboundBytes.read vars = .ok bytes)
    (readHeight : Setting.maxFrameHeight.read vars = .ok height) :
    ∃ c, ofVars vars = .ok c ∧ c.value .sendBuffer = Setting.sendBuffer.valueOf buffer ∧
      c.value .maxInboundBytes = Setting.maxInboundBytes.valueOf bytes ∧
      c.value .maxFrameHeight = Setting.maxFrameHeight.valueOf height := by
  unfold ofVars
  rw [readBuffer, readBytes, readHeight]
  refine ⟨_, rfl, ?_, ?_, ?_⟩
  · cases buffer <;> rfl
  · cases bytes <;> rfl
  · cases height with
    | none => rfl
    | some n =>
      obtain ⟨-, -, -, -, small⟩ := Setting.read_eq_some.1 readHeight
      exact Int32.toInt_ofNat_of_lt small

/-- The limits are loaded if each setting has a value, and then they have these values. -/
theorem ofVars_eq_ok : ofVars vars = .ok c ↔
    ∀ setting : Setting, setting.Settles vars (c.value setting) := by
  constructor
  · intro loaded
    obtain ⟨buffer, readBuffer, rest⟩ := bind_eq_ok.1 loaded
    obtain ⟨bytes, readBytes, rest⟩ := bind_eq_ok.1 rest
    obtain ⟨height, readHeight, -⟩ := bind_eq_ok.1 rest
    obtain ⟨d, made, valueBuffer, valueBytes, valueHeight⟩ :=
      ofVars_eq readBuffer readBytes readHeight
    cases made.symm.trans loaded
    intro setting
    rw [Setting.settles_iff]
    cases setting with
    | sendBuffer => exact ⟨buffer, readBuffer, valueBuffer.symm⟩
    | maxInboundBytes => exact ⟨bytes, readBytes, valueBytes.symm⟩
    | maxFrameHeight => exact ⟨height, readHeight, valueHeight.symm⟩
  · intro settled
    obtain ⟨buffer, readBuffer, valueBuffer⟩ := Setting.settles_iff.1 (settled .sendBuffer)
    obtain ⟨bytes, readBytes, valueBytes⟩ := Setting.settles_iff.1 (settled .maxInboundBytes)
    obtain ⟨height, readHeight, valueHeight⟩ := Setting.settles_iff.1 (settled .maxFrameHeight)
    obtain ⟨d, made, madeBuffer, madeBytes, madeHeight⟩ :=
      ofVars_eq readBuffer readBytes readHeight
    have same : d = c := by
      apply eq_of_value
      rintro (_ | _ | _)
      · exact madeBuffer.trans valueBuffer
      · exact madeBytes.trans valueBytes
      · exact madeHeight.trans valueHeight
    rw [made, same]

theorem exists_ofVars :
    (∃ c, ofVars vars = .ok c) ↔ ∀ setting : Setting, ∃ value, setting.Settles vars value := by
  constructor
  · rintro ⟨c, loaded⟩ setting
    exact ⟨_, ofVars_eq_ok.1 loaded setting⟩
  · intro settled
    obtain ⟨buffer, readBuffer⟩ := Setting.exists_read (settled .sendBuffer)
    obtain ⟨bytes, readBytes⟩ := Setting.exists_read (settled .maxInboundBytes)
    obtain ⟨height, readHeight⟩ := Setting.exists_read (settled .maxFrameHeight)
    obtain ⟨c, loaded, -⟩ := ofVars_eq readBuffer readBytes readHeight
    exact ⟨c, loaded⟩

/-- The error is that of the first setting that has no value. -/
theorem ofVars_eq_error {e : ConfigError} : ofVars vars = .error e ↔
    e.setting.Spoils vars e.value ∧
      ∀ setting ∈ Setting.all.takeWhile (· ≠ e.setting), ∃ value, setting.Settles vars value := by
  constructor
  · intro refused
    rcases bind_eq_error.1 refused with readBuffer | ⟨buffer, readBuffer, refused⟩
    · obtain ⟨named, spoils⟩ := Setting.read_eq_error.1 readBuffer
      rw [named]
      exact ⟨spoils, List.forall_mem_nil _⟩
    · have first := Setting.settles_iff.2 ⟨buffer, readBuffer, rfl⟩
      rcases bind_eq_error.1 refused with readBytes | ⟨bytes, readBytes, refused⟩
      · obtain ⟨named, spoils⟩ := Setting.read_eq_error.1 readBytes
        rw [named]
        exact ⟨spoils, List.forall_mem_singleton.2 ⟨_, first⟩⟩
      · have second := Setting.settles_iff.2 ⟨bytes, readBytes, rfl⟩
        rcases bind_eq_error.1 refused with readHeight | ⟨height, -, refused⟩
        · obtain ⟨named, spoils⟩ := Setting.read_eq_error.1 readHeight
          rw [named]
          exact ⟨spoils, List.forall_mem_cons.2
            ⟨⟨_, first⟩, List.forall_mem_singleton.2 ⟨_, second⟩⟩⟩
        · cases refused
  · rintro ⟨spoils, settled⟩
    have refused := Setting.read_eq_error.2 ⟨rfl, spoils⟩
    unfold ofVars
    cases named : e.setting with
    | sendBuffer =>
      rw [named] at refused
      rw [refused]
      rfl
    | maxInboundBytes =>
      rw [named] at refused settled
      obtain ⟨buffer, readBuffer⟩ := Setting.exists_read (settled .sendBuffer (by decide))
      rw [readBuffer, refused]
      rfl
    | maxFrameHeight =>
      rw [named] at refused settled
      obtain ⟨buffer, readBuffer⟩ := Setting.exists_read (settled .sendBuffer (by decide))
      obtain ⟨bytes, readBytes⟩ := Setting.exists_read (settled .maxInboundBytes (by decide))
      rw [readBuffer, readBytes, refused]
      rfl

/-- The limits are loaded from the variables of the settings and from no others. They are loaded if
    and only if each of these variables is absent or holds a numeral for a value of its setting, and
    then each limit is that value, or its default where the variable is absent. In any other case
    the error tells of the first variable, in the order of the settings, that holds something else,
    with its text as it stands. -/
theorem ofVars_settled (vars : String → Option String) :
    ((∃ c, ofVars vars = .ok c) ↔ ∀ (setting : Setting) (text : String),
      vars setting.variableName = some text → ∃ n, IsNumeral n text ∧ setting.Fits n) ∧
    (∀ c, ofVars vars = .ok c ↔ ∀ setting : Setting, setting.Settles vars (c.value setting)) ∧
    (∀ e, ofVars vars = .error e ↔ e.setting.Spoils vars e.value ∧
      ∀ setting ∈ Setting.all.takeWhile (· ≠ e.setting), ∃ value, setting.Settles vars value) ∧
    ∀ others, (∀ setting : Setting, others setting.variableName = vars setting.variableName) →
      ofVars others = ofVars vars := by
  refine ⟨?_, fun c => ofVars_eq_ok, fun e => ofVars_eq_error, ?_⟩
  · rw [exists_ofVars]
    exact forall_congr' fun setting => Setting.exists_settles
  · intro others same
    unfold ofVars Setting.read
    simp only [same]

example : (ofVars fun name =>
    if name = "BRIDGE_SOCKET_SEND_BUFFER" then none else some " 0 ").mapError
    (·.message) =
      .error "Invalid configuration value for BRIDGE_MAX_INBOUND_MESSAGE_BYTES:  0 " := by
  decide +kernel

/-- Numerals with white space, a plus sign and zeros in front, and a variable of no setting. -/
def roundabout : String → Option String
  | "BRIDGE_SOCKET_SEND_BUFFER" => some "\u2003+000256\u0085"
  | "BRIDGE_DEFAULT_MAX_FRAME_HEIGHT" => some "2147483647"
  | "BRIDGE_MAX_FRAME_HEIGHT" => some "none"
  | _ => none

theorem ofVars_settled_roundabout : ofVars roundabout = .ok ⟨256, 65536, 2147483647⟩ := by
  have buffer : IsNumeral 256 "\u2003+000256\u0085" :=
    ⟨['\u2003'], ['+'], ['0', '0', '0', '2', '5', '6'], ['\u0085'], rfl, List.all_eq_true.1 rfl,
      List.all_eq_true.1 rfl, .inr rfl, List.cons_ne_nil _ _, List.all_eq_true.1 rfl, rfl⟩
  have height : IsNumeral 2147483647 "2147483647" :=
    ⟨[], [], ['2', '1', '4', '7', '4', '8', '3', '6', '4', '7'], [], rfl, List.all_eq_true.1 rfl,
      List.all_eq_true.1 rfl, .inl rfl, List.cons_ne_nil _ _, List.all_eq_true.1 rfl, rfl⟩
  refine ((ofVars_settled roundabout).2.1 _).2 ?_
  rintro (_ | _ | _)
  · exact .numeral rfl buffer (Setting.fits_iff.2 (by decide))
  · exact .default rfl
  · exact .numeral rfl height (Setting.fits_iff.2 (by decide))

end Config

end ControlChannel
