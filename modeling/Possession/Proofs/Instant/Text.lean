import Mathlib.Data.Nat.Digits.Defs
import Possession.Instant.Reader
import Possession.Proofs.Instant.Calendar
import Possession.Proofs.Outcome

/-!
# Reading instants back

Every instant of the calendar is read back from the text in which it is written, leap seconds and
years of any sign and length included. Each number in the text ends where something that is no digit
begins, so each part is read off the front, whatever follows.
-/

namespace Possession

/-! ## Written numbers -/

/-- What stands behind a number does not go on with it. -/
def EndsDigits (rest : List Char) : Prop :=
  ∀ c ∈ rest.head?, c.isDigit = false

theorem endsDigits_cons {c : Char} (h : c.isDigit = false) (rest : List Char) :
    EndsDigits (c :: rest) := by
  intro next hnext
  cases hnext
  exact h

theorem decimal_append_digit (digits : List Char) {value : Nat} (h : value < 10) :
    Digits.decimal (digits ++ [Char.ofNat (48 + value)]) = Digits.decimal digits * 10 + value := by
  have hvalue : ∀ value < 10, (Char.ofNat (48 + value)).toNat - 48 = value := by decide
  rw [Digits.decimal, List.foldl_append, List.foldl_cons, List.foldl_nil, hvalue value h,
    Digits.decimal]

/-- What is needed to read a number off the front: digits, at least one, and their value. -/
structure Denotes (digits : List Char) (value : Nat) : Prop where
  ne_nil : digits ≠ []
  digit : ∀ c ∈ digits, c.isDigit = true
  decimal_eq : Digits.decimal digits = value

@[simp]
theorem length_fixedDigits (width value : Nat) : (fixedDigits width value).length = width := by
  induction width generalizing value with
  | zero => rfl
  | succ width ih => simp [fixedDigits, ih]

theorem isDigit_of_mem_fixedDigits {width value : Nat} :
    ∀ c ∈ fixedDigits width value, c.isDigit = true := by
  have hdigit : ∀ value < 10, (Char.ofNat (48 + value)).isDigit = true := by decide
  induction width generalizing value with
  | zero => simp [fixedDigits]
  | succ width ih =>
    intro c hc
    rcases List.mem_append.mp hc with hc | hc
    · exact ih c hc
    · rw [List.mem_singleton.mp hc]
      exact hdigit _ (Nat.mod_lt _ (by omega))

theorem decimal_fixedDigits {width value : Nat} (h : value < 10 ^ width) :
    Digits.decimal (fixedDigits width value) = value := by
  induction width generalizing value with
  | zero =>
    have hzero : value = 0 := by simpa using h
    rw [hzero]
    rfl
  | succ width ih =>
    have hhigh : value / 10 < 10 ^ width := by
      apply Nat.div_lt_of_lt_mul
      rwa [Nat.mul_comm, ← pow_succ]
    rw [fixedDigits, decimal_append_digit _ (Nat.mod_lt _ (by omega)), ih hhigh]
    omega

theorem denotes_fixedDigits {width value : Nat} (hwidth : width ≠ 0) (h : value < 10 ^ width) :
    Denotes (fixedDigits width value) value where
  ne_nil := by
    intro hnil
    have hlength := length_fixedDigits width value
    rw [hnil] at hlength
    exact hwidth hlength.symm
  digit := isDigit_of_mem_fixedDigits
  decimal_eq := decimal_fixedDigits h

theorem denotes_paddedDigits (width value : Nat) : Denotes (paddedDigits width value) value where
  ne_nil := by simp [paddedDigits, Nat.toDigits_ne_nil]
  digit := by
    intro c hc
    rcases List.mem_append.mp hc with hc | hc
    · rw [List.eq_of_mem_replicate hc]
      decide
    · exact Nat.isDigit_of_mem_toDigits (by omega) (by omega) hc
  decimal_eq := by
    have hfold (digits : List Char) : Digits.decimal digits = Nat.ofDigitChars 10 digits 0 := by
      rw [Digits.decimal, Nat.ofDigitChars_eq_foldl]
      simp only [Nat.mul_comm]
      rfl
    rw [hfold, paddedDigits, Nat.ofDigitChars_append, Nat.ofDigitChars_replicate_zero,
      Nat.mul_zero, Nat.ofDigitChars_toDigits (by omega) (by omega)]

/-- A moment whose parts can be written, the last second of a minute being a leap second or not. -/
structure Moment.Writable (moment : Moment) : Prop where
  year : Date.inCalendar moment.date.year = true
  month : 1 ≤ moment.date.month ∧ moment.date.month ≤ 12
  day : 1 ≤ moment.date.day ∧ moment.date.day ≤ 31
  hour : moment.hour ≤ 23
  minute : moment.minute ≤ 59
  second : moment.second ≤ 60

namespace Instant

/-! ## Parts -/

theorem skipBlanks_cons {c : Char} (h : Text.isBlank c = false) (rest : List Char) :
    skipBlanks (c :: rest) = c :: rest := by
  simp [skipBlanks, h]

theorem isBlank_of_isDigit {c : Char} (h : c.isDigit = true) : Text.isBlank c = false := by
  have hbounds : 48 ≤ c.toNat ∧ c.toNat ≤ 57 := Char.isDigit_iff_toNat.mp h
  simp [Text.isBlank]
  omega

theorem skipBlanks_digits {digits : List Char} {value : Nat} (h : Denotes digits value)
    (rest : List Char) : skipBlanks (digits ++ rest) = digits ++ rest := by
  cases digits with
  | nil => exact absurd rfl h.ne_nil
  | cons c digits => exact skipBlanks_cons (isBlank_of_isDigit (h.digit c List.mem_cons_self)) _

theorem readDigits_denotes {most value : Nat} {digits rest : List Char} (h : Denotes digits value)
    (hmost : digits.length ≤ most) (hrest : EndsDigits rest) :
    readDigits most (digits ++ rest) = .ok (digits, rest) := by
  have hends : (rest.take (most - digits.length)).takeWhile Char.isDigit = [] := by
    cases rest with
    | nil => simp
    | cons c rest =>
      cases most - digits.length with
      | zero => rfl
      | succ left => simp [hrest c rfl]
  have htake : ((digits ++ rest).take most).takeWhile Char.isDigit = digits := by
    rw [List.take_append, List.take_of_length_le hmost,
      List.takeWhile_append_of_pos h.digit, hends, List.append_nil]
  rw [readDigits, htake]
  cases digits with
  | nil => exact absurd rfl h.ne_nil
  | cons c digits => simp

theorem readField_denotes {low high value : Nat} {rest : List Char} (hlow : low ≤ value)
    (hhigh : value ≤ high) (hfits : high < 100) (hrest : EndsDigits rest) :
    readField low high (fixedDigits 2 value ++ rest) = .ok (value, rest) := by
  have hdenotes : Denotes (fixedDigits 2 value) value := denotes_fixedDigits (by omega) (by omega)
  rw [readField, skipBlanks_digits hdenotes, readDigits_denotes hdenotes (by simp) hrest]
  simp [hdenotes.decimal_eq, hlow, hhigh]

theorem readMark_cons {mark : Char} (h : Text.isBlank mark = false) (rest : List Char) :
    readMark mark (mark :: rest) = .ok rest := by
  rw [readMark, skipBlanks_cons h]
  simp

theorem readYear_unsigned {digits rest : List Char} {value : Nat} (h : Denotes digits value)
    (hlength : digits.length ≤ 4) (hrest : EndsDigits rest) :
    readYear (digits ++ rest) = .ok (value, rest) := by
  have hread := readDigits_denotes h hlength hrest
  rw [readYear, skipBlanks_digits h]
  cases digits with
  | nil => exact absurd rfl h.ne_nil
  | cons c digits =>
    -- a digit is no sign
    have hdigit : c.isDigit = true := h.digit c List.mem_cons_self
    have hminus : c ≠ '-' := by
      rintro rfl
      exact absurd hdigit (by decide)
    have hplus : c ≠ '+' := by
      rintro rfl
      exact absurd hdigit (by decide)
    rw [List.cons_append] at hread ⊢
    split
    · next heq =>
      cases heq
      exact absurd rfl hminus
    · next heq =>
      cases heq
      exact absurd rfl hplus
    · rw [hread]
      simp [h.decimal_eq]

theorem readYear_signed {digits rest : List Char} {value : Nat} (h : Denotes digits value)
    (hvalue : value ≤ maxWritten) (hrest : EndsDigits rest) :
    readYear ('-' :: (digits ++ rest)) = .ok (-value, rest) ∧
      readYear ('+' :: (digits ++ rest)) = .ok (value, rest) := by
  have hlength : digits.length ≤ (digits ++ rest).length.succ := by
    rw [List.length_append]
    omega
  have hread := readDigits_denotes h hlength hrest
  constructor
  · rw [readYear, skipBlanks_cons (by decide)]
    simp only [hread, Outcome.ok_bind, h.decimal_eq]
    rw [if_pos (by omega)]
    rfl
  · rw [readYear, skipBlanks_cons (by decide)]
    simp only [hread, Outcome.ok_bind, h.decimal_eq]
    rw [if_pos hvalue]
    rfl

/-- Every year of the calendar is read back. -/
theorem readYear_writeYear {year : Int} (h : Date.inCalendar year = true) {rest : List Char}
    (hrest : EndsDigits rest) : readYear (writeYear year ++ rest) = .ok (year, rest) := by
  have hbounds : -262143 ≤ year ∧ year ≤ 262142 := by
    rw [Date.inCalendar, Bool.and_eq_true, decide_eq_true_iff, decide_eq_true_iff] at h
    exact h
  have hwritten : year.natAbs ≤ maxWritten := by
    unfold maxWritten
    omega
  have hsigned := readYear_signed (denotes_paddedDigits 4 year.natAbs) hwritten hrest
  rw [writeYear]
  split
  · have hdigits : Denotes (fixedDigits 4 year.toNat) year.toNat :=
      denotes_fixedDigits (by omega) (by omega)
    rw [readYear_unsigned hdigits (by simp) hrest, Int.toNat_of_nonneg (by omega)]
  · split
    · have hvalue : -(year.natAbs : Int) = year := by omega
      rw [List.cons_append, hsigned.1, hvalue]
    · have hvalue : (year.natAbs : Int) = year := by omega
      rw [List.cons_append, hsigned.2, hvalue]

/-- The fraction of a second is read back from as many digits as it needs. -/
theorem readFraction_writeFraction {nanos : Nat} (h : nanos < nanosPerSecond) {rest : List Char}
    (hrest : EndsDigits rest) (hpoint : rest.head? ≠ some '.') :
    readFraction (writeFraction nanos ++ rest) = .ok (nanos, rest) := by
  have hnanos : nanos < 1000000000 := h
  have hdrop : rest.dropWhile Char.isDigit = rest := by
    cases rest with
    | nil => rfl
    | cons c rest => simp [hrest c rfl]
  have hdigits {width value : Nat} (hwidth : width ≠ 0) (hmost : width ≤ 9)
      (hvalue : value < 10 ^ width) (heq : value * Nat.pow 10 (9 - width) = nanos) :
      readFraction ('.' :: fixedDigits width value ++ rest) = .ok (nanos, rest) := by
    have hdenotes := denotes_fixedDigits hwidth hvalue
    rw [List.cons_append, readFraction, readDigits_denotes hdenotes (by simpa using hmost) hrest]
    simp only [Outcome.ok_bind, hdenotes.decimal_eq, length_fixedDigits, hdrop, heq]
    rfl
  rw [writeFraction]
  split
  · next hzero =>
    rw [List.nil_append, readFraction.eq_2 _ fun after heq => hpoint (by rw [heq]; rfl), hzero]
  · split
    · exact hdigits (by omega) (by omega) (by omega) (by simp; omega)
    · split
      · exact hdigits (by omega) (by omega) (by omega) (by simp; omega)
      · exact hdigits (by omega) (by omega) (by omega) (by simp)

theorem endsDigits_writeFraction (nanos : Nat) {rest : List Char} (hrest : EndsDigits rest) :
    EndsDigits (writeFraction nanos ++ rest) := by
  have hpoint (more : List Char) : EndsDigits ('.' :: more) := endsDigits_cons (by decide) more
  rw [writeFraction]
  split
  · exact hrest
  · split
    · exact hpoint _
    · split
      · exact hpoint _
      · exact hpoint _

/-! ## Whole instants -/

/-- The text of a moment in universal time. -/
def writeParts (moment : Moment) (nanos : Nat) : List Char :=
  writeYear moment.date.year ++ '-' :: (fixedDigits 2 moment.date.month ++
    '-' :: (fixedDigits 2 moment.date.day ++ 'T' :: (fixedDigits 2 moment.hour ++
      ':' :: (fixedDigits 2 moment.minute ++ ':' :: (fixedDigits 2 moment.second ++
        (writeFraction nanos ++ ['Z']))))))

theorem parseChars_writeParts {moment : Moment} {nanos : Nat} (h : moment.Writable)
    (hnanos : nanos < nanosPerSecond) :
    parseChars (writeParts moment nanos) = ofLocal moment nanos 0 := by
  have hdash (more : List Char) : EndsDigits ('-' :: more) := endsDigits_cons (by decide) more
  have hcolon (more : List Char) : EndsDigits (':' :: more) := endsDigits_cons (by decide) more
  have hletter (more : List Char) : EndsDigits ('T' :: more) := endsDigits_cons (by decide) more
  have hzone : EndsDigits ['Z'] := endsDigits_cons (by decide) []
  have hseparator (more : List Char) : readSeparator ('T' :: more) = .ok more := rfl
  have hend : readZone (skipBlanks ['Z']) = .ok (0, []) := by decide
  -- each part is read off the front
  rw [parseChars, writeParts, readYear_writeYear h.year (hdash _)]
  simp only [Outcome.ok_bind]
  rw [readMark_cons (by decide)]
  simp only [Outcome.ok_bind]
  rw [readField_denotes h.month.1 h.month.2 (by omega) (hdash _)]
  simp only [Outcome.ok_bind]
  rw [readMark_cons (by decide)]
  simp only [Outcome.ok_bind]
  rw [readField_denotes h.day.1 h.day.2 (by omega) (hletter _)]
  simp only [Outcome.ok_bind, hseparator]
  rw [readField_denotes (Nat.zero_le _) h.hour (by omega) (hcolon _)]
  simp only [Outcome.ok_bind]
  rw [readMark_cons (by decide)]
  simp only [Outcome.ok_bind]
  rw [readField_denotes (Nat.zero_le _) h.minute (by omega) (hcolon _)]
  simp only [Outcome.ok_bind]
  rw [readMark_cons (by decide)]
  simp only [Outcome.ok_bind]
  rw [readField_denotes (Nat.zero_le _) h.second (by omega) (endsDigits_writeFraction nanos hzone)]
  simp only [Outcome.ok_bind]
  rw [readFraction_writeFraction hnanos hzone (by decide)]
  simp only [Outcome.ok_bind, hend]
  rfl

/-- An instant of the calendar. -/
def IsValid (instant : Instant) : Prop :=
  ofTimestamp? instant.seconds instant.nanos = some instant

theorem isValid_iff {instant : Instant} : instant.IsValid ↔
    (instant.nanos < nanosPerSecond ∨
      instant.nanos < 2 * nanosPerSecond ∧ instant.seconds % 60 = 59) ∧
        Date.inCalendar (Moment.ofSeconds instant.seconds).date.year = true := by
  rw [IsValid, ofTimestamp?]
  split
  · next h =>
    rw [Bool.and_eq_true] at h
    simpa using h
  · next h =>
    rw [Bool.and_eq_true] at h
    simpa using h

/-- The first of January 1970. -/
theorem isValid_epoch : IsValid ⟨0, 0⟩ :=
  isValid_iff.mpr ⟨.inl (by decide), by decide⟩

/-- The moment that is written for an instant: a leap second is second sixty. -/
def written (instant : Instant) : Moment :=
  { Moment.ofSeconds instant.seconds with
    second := if nanosPerSecond ≤ instant.nanos then (Moment.ofSeconds instant.seconds).second + 1
      else (Moment.ofSeconds instant.seconds).second }

theorem written_writable {instant : Instant} (h : instant.IsValid) : instant.written.Writable := by
  rcases isValid_iff.mp h with ⟨-, hyear⟩
  rcases Date.ofDays_valid (instant.seconds / secondsPerDay) with ⟨hlow, hhigh, hfirst, hlast⟩
  rcases Moment.ofSeconds_valid instant.seconds with ⟨hhour, hminute, hsecond⟩
  refine ⟨hyear, ⟨hlow, hhigh⟩, ⟨hfirst, le_trans hlast ?_⟩, hhour, hminute, ?_⟩
  · exact Date.monthLength_le _ _
  · simp only [written]
    split
    · omega
    · omega

theorem text_eq (instant : Instant) : instant.text.toList =
    writeParts instant.written (if nanosPerSecond ≤ instant.nanos then
      instant.nanos - nanosPerSecond else instant.nanos) := by
  simp [text, writeMoment, writeParts, written]

/-- Second sixty is written for leap seconds only. -/
theorem second_written {instant : Instant} (h : instant.IsValid) :
    instant.written.second = 60 ↔ nanosPerSecond ≤ instant.nanos := by
  rcases isValid_iff.mp h with ⟨hnanos, -⟩
  have hsecond := Moment.second_ofSeconds instant.seconds
  simp only [written]
  split
  · omega
  · omega

theorem toSeconds_written (instant : Instant) : instant.written.toSeconds =
    instant.seconds + if nanosPerSecond ≤ instant.nanos then 1 else 0 := by
  have hseconds := Moment.toSeconds_ofSeconds instant.seconds
  rw [Moment.toSeconds] at hseconds ⊢
  simp only [written, Int.ofNat_eq_natCast] at hseconds ⊢
  split
  · omega
  · omega

/-- Every instant of the calendar is read back from its text. -/
theorem parse_text {instant : Instant} (h : instant.IsValid) :
    parse instant.text = .ok instant := by
  rcases isValid_iff.mp h with ⟨hnanos, hyear⟩
  have hday : ¬ Date.monthLength instant.written.date.year instant.written.date.month <
      instant.written.date.day :=
    not_lt.mpr (Date.ofDays_valid (instant.seconds / secondsPerDay)).2.2.2
  have hdate : Date.inCalendar instant.written.date.year = true := hyear
  have hfraction : (if nanosPerSecond ≤ instant.nanos then instant.nanos - nanosPerSecond
      else instant.nanos) < nanosPerSecond := by
    split
    · omega
    · omega
  rw [parse, text_eq, parseChars_writeParts (written_writable h) hfraction, ofLocal]
  simp only [hdate, hday, second_written h, toSeconds_written]
  -- the second that a leap second is ahead of its minute is taken back
  by_cases hleap : nanosPerSecond ≤ instant.nanos
  · simp [hleap, hyear]
  · simp [hleap, hyear]

/-! ## Characters -/

/-- The characters in the text of an instant that are no digits. -/
def marks : List Char := ['-', '+', '.', ':', 'T', 'Z']

theorem mem_writeYear {year : Int} {c : Char} (h : c ∈ writeYear year) :
    c.isDigit = true ∨ c ∈ marks := by
  rw [writeYear] at h
  split at h
  · exact .inl (isDigit_of_mem_fixedDigits c h)
  · rcases List.mem_cons.mp h with rfl | h
    · split <;> exact .inr (by decide)
    · exact .inl ((denotes_paddedDigits _ _).digit c h)

theorem mem_writeFraction {nanos : Nat} {c : Char} (h : c ∈ writeFraction nanos) :
    c.isDigit = true ∨ c ∈ marks := by
  have hpoint {width value : Nat} (h : c ∈ '.' :: fixedDigits width value) :
      c.isDigit = true ∨ c ∈ marks := by
    rcases List.mem_cons.mp h with rfl | h
    · exact .inr (by decide)
    · exact .inl (isDigit_of_mem_fixedDigits c h)
  rw [writeFraction] at h
  split at h
  · cases h
  · split at h
    · exact hpoint h
    · split at h
      · exact hpoint h
      · exact hpoint h

theorem mem_text {instant : Instant} {c : Char} (h : c ∈ instant.text.toList) :
    c.isDigit = true ∨ c ∈ marks := by
  have hfield {mark : Char} {value : Nat} (hmark : mark ∈ marks)
      (h : c ∈ mark :: fixedDigits 2 value) : c.isDigit = true ∨ c ∈ marks := by
    rcases List.mem_cons.mp h with rfl | h
    · exact .inr hmark
    · exact .inl (isDigit_of_mem_fixedDigits c h)
  simp only [text, String.toList_ofList, writeMoment, List.mem_append] at h
  rcases h with ((((((h | h) | h) | h) | h) | h) | h) | h
  · exact mem_writeYear h
  · exact hfield (by decide) h
  · exact hfield (by decide) h
  · exact hfield (by decide) h
  · exact hfield (by decide) h
  · exact hfield (by decide) h
  · exact mem_writeFraction h
  · rw [List.mem_singleton.mp h]
    exact .inr (by decide)

end Instant
end Possession
