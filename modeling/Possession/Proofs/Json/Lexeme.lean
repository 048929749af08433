import Possession.Json.Skip
import Possession.Proofs.Json.Grammar
import Possession.Proofs.Json.Number
import Possession.Proofs.Json.Text
import Mathlib.Data.List.TakeWhile

/-!
# Lexemes are read as the grammar has them

Whatever passes over blanks, numbers and texts accepts what the grammar allows in its place, and
nothing else, and stops right behind it; and so does the reader of texts. A number must be followed
by something that cannot go on with it; all else ends by itself.
-/

namespace Possession
namespace Json

variable {bytes rest gap digits body : Bytes}

/-! ## Blanks and words -/

theorem Blanks.nil : Blanks [] :=
  nofun

theorem Blanks.append {front back : Bytes} (hfront : Blanks front) (hback : Blanks back) :
    Blanks (front ++ back) := by
  intro byte hbyte
  rcases List.mem_append.mp hbyte with hmem | hmem
  · exact hfront byte hmem
  · exact hback byte hmem

theorem skipBlanks_append (h : Blanks gap) (rest : Bytes) :
    skipBlanks (gap ++ rest) = skipBlanks rest :=
  List.dropWhile_append_of_pos h

/-- Blanks are skipped up to what is none. -/
theorem exists_blanks (bytes : Bytes) : ∃ gap, Blanks gap ∧ bytes = gap ++ skipBlanks bytes :=
  ⟨bytes.takeWhile isBlank, fun _ => List.mem_takeWhile_imp,
    List.takeWhile_append_dropWhile.symm⟩

theorem skipWord_eq_ok_iff {word : Bytes} :
    skipWord word bytes = .ok rest ↔ bytes = word ++ rest := by
  induction word generalizing bytes with
  | nil => simp [skipWord]
  | cons expected word ih =>
    cases bytes with
    | nil => simp [skipWord]
    | cons byte bytes =>
      rw [skipWord, List.cons_append, List.cons.injEq]
      split
      · next heq => rw [ih, and_iff_right heq]
      · next hne => simp [hne]

/-! ## Digits -/

/-- Whether octets do not begin with a digit. -/
def NoDigit (rest : Bytes) : Prop :=
  ∀ byte ∈ rest.head?, isDigit byte = false

theorem EndsNumber.noDigit (h : EndsNumber rest) : NoDigit rest :=
  fun byte hbyte => (h byte hbyte).1

theorem noDigit_cons {byte : UInt8} (h : isDigit byte = false) (rest : Bytes) :
    NoDigit (byte :: rest) := by
  intro first hfirst
  cases hfirst
  exact h

theorem takeWhile_digits (h : Digits digits) (hrest : NoDigit rest) :
    (digits ++ rest).takeWhile isDigit = digits := by
  rw [List.takeWhile_append_of_pos h.2]
  cases rest with
  | nil => rw [List.takeWhile_nil, List.append_nil]
  | cons byte rest =>
    have hbyte := hrest byte rfl
    rw [List.takeWhile_cons_of_neg (by simp [hbyte]), List.append_nil]

theorem skipDigits_append (h : Digits digits) (hrest : NoDigit rest) :
    skipDigits (digits ++ rest) = .ok rest := by
  have htake := takeWhile_digits h hrest
  have hdrop : (digits ++ rest).dropWhile isDigit = rest := by
    have hwhole := (List.takeWhile_append_dropWhile (p := isDigit) (l := digits ++ rest))
    rw [htake] at hwhole
    exact List.append_cancel_left hwhole
  rw [skipDigits, htake, if_neg (by simpa using h.1), hdrop]

theorem exists_digits (h : skipDigits bytes = .ok rest) :
    Digits (bytes.takeWhile isDigit) ∧ bytes = bytes.takeWhile isDigit ++ rest := by
  rw [skipDigits] at h
  split at h
  · cases h
  · next hne =>
    cases h
    exact ⟨⟨by simpa using hne, fun _ => List.mem_takeWhile_imp⟩,
      List.takeWhile_append_dropWhile.symm⟩

/-! ## Numbers -/

theorem exists_exponent (h : skipExponent bytes = .ok rest) :
    ∃ exponent, Exponent exponent ∧ bytes = exponent ++ rest := by
  have hwritten {letter : UInt8} {sign behind : Bytes} (hletter : letter = 101 ∨ letter = 69)
      (hsign : sign = [] ∨ sign = [43] ∨ sign = [45]) (h : skipDigits behind = .ok rest) :
      ∃ exponent, Exponent exponent ∧ letter :: (sign ++ behind) = exponent ++ rest := by
    rcases exists_digits h with ⟨hdigits, hbehind⟩
    refine ⟨_, Exponent.some hletter hsign hdigits, ?_⟩
    rw [List.cons_append, List.append_assoc, ← hbehind]
  unfold skipExponent at h
  split at h
  · exact hwritten (.inl rfl) (.inr (.inl rfl)) h
  · exact hwritten (.inr rfl) (.inr (.inl rfl)) h
  · exact hwritten (.inl rfl) (.inr (.inr rfl)) h
  · exact hwritten (.inr rfl) (.inr (.inr rfl)) h
  · exact hwritten (.inl rfl) (.inl rfl) h
  · exact hwritten (.inr rfl) (.inl rfl) h
  · cases h
    exact ⟨[], .none, rfl⟩

/-- Without a sign the digits follow at once. -/
theorem skipExponent_digit {letter digit : UInt8} (hletter : letter = 101 ∨ letter = 69)
    (hdigit : isDigit digit = true) (rest : Bytes) :
    skipExponent (letter :: digit :: rest) = skipDigits (digit :: rest) := by
  have hplus : digit ≠ 43 := by
    rintro rfl
    exact absurd hdigit (by decide)
  have hminus : digit ≠ 45 := by
    rintro rfl
    exact absurd hdigit (by decide)
  rcases hletter with rfl | rfl
  · rw [skipExponent]
    · exact fun _ heq => hplus (List.cons.inj heq).1
    · exact fun _ heq => hminus (List.cons.inj heq).1
  · rw [skipExponent]
    · exact fun _ heq => hplus (List.cons.inj heq).1
    · exact fun _ heq => hminus (List.cons.inj heq).1

theorem skipExponent_append {exponent : Bytes} (h : Exponent exponent) (hrest : EndsNumber rest) :
    skipExponent (exponent ++ rest) = .ok rest := by
  cases h with
  | none =>
    have hletter {letter : UInt8} (hfirst : rest.head? = some letter) :
        letter ≠ 101 ∧ letter ≠ 69 := (hrest letter hfirst).2.2
    rw [List.nil_append]
    unfold skipExponent
    split
    · exact absurd rfl (hletter rfl).1
    · exact absurd rfl (hletter rfl).2
    · exact absurd rfl (hletter rfl).1
    · exact absurd rfl (hletter rfl).2
    · exact absurd rfl (hletter rfl).1
    · exact absurd rfl (hletter rfl).2
    · rfl
  | @some letter sign digits hletter hsign hdigits =>
    have hskip := skipDigits_append hdigits hrest.noDigit
    rcases hsign with rfl | rfl | rfl
    · obtain ⟨digit, more, rfl⟩ := List.exists_cons_of_ne_nil hdigits.1
      rw [← hskip]
      exact skipExponent_digit hletter (hdigits.2 digit List.mem_cons_self) _
    · rcases hletter with rfl | rfl
      · exact hskip
      · exact hskip
    · rcases hletter with rfl | rfl
      · exact hskip
      · exact hskip

theorem exists_magnitude (h : skipMagnitude bytes = .ok rest) :
    ∃ whole fraction exponent, Whole whole ∧ Fraction fraction ∧ Exponent exponent ∧
      bytes = whole ++ (fraction ++ (exponent ++ rest)) := by
  simp only [skipMagnitude, Outcome.bind_eq_ok_iff] at h
  rcases h with ⟨behind, hdigits, h⟩
  rcases exists_digits hdigits with ⟨hwhole, hbytes⟩
  generalize bytes.takeWhile isDigit = whole at h hwhole hbytes
  split at h
  · cases h
  · next hzero =>
    have hwhole : Whole whole := by
      refine ⟨hwhole, ?_⟩
      rintro (_ | ⟨digit, digits⟩) rfl
      · rfl
      · exact absurd rfl (hzero digit digits)
    split at h
    · simp only [Outcome.bind_eq_ok_iff] at h
      rcases h with ⟨last, hfraction, h⟩
      rcases exists_digits hfraction with ⟨hdigits, hbehind⟩
      rcases exists_exponent h with ⟨exponent, hexponent, rfl⟩
      refine ⟨whole, _, exponent, hwhole, .some hdigits, hexponent, ?_⟩
      rw [hbytes, List.cons_append, ← hbehind]
    · rcases exists_exponent h with ⟨exponent, hexponent, rfl⟩
      exact ⟨whole, [], exponent, hwhole, .none, hexponent, hbytes⟩

theorem Exponent.noDigit {exponent : Bytes} (h : Exponent exponent) (hrest : EndsNumber rest) :
    NoDigit (exponent ++ rest) := by
  cases h with
  | none => exact hrest.noDigit
  | some hletter =>
    rcases hletter with rfl | rfl
    · exact noDigit_cons (by decide) _
    · exact noDigit_cons (by decide) _

theorem Exponent.noPoint {exponent : Bytes} (h : Exponent exponent) (hrest : EndsNumber rest)
    (behind : Bytes) : exponent ++ rest ≠ 46 :: behind := by
  cases h with
  | none =>
    rintro rfl
    exact (hrest 46 rfl).2.1 rfl
  | some hletter =>
    rcases hletter with rfl | rfl
    · exact fun heq => absurd (List.cons.inj heq).1 (by decide)
    · exact fun heq => absurd (List.cons.inj heq).1 (by decide)

theorem skipMagnitude_append {whole fraction exponent : Bytes} (hwhole : Whole whole)
    (hfraction : Fraction fraction) (hexponent : Exponent exponent) (hrest : EndsNumber rest) :
    skipMagnitude (whole ++ (fraction ++ (exponent ++ rest))) = .ok rest := by
  have hbehind : NoDigit (fraction ++ (exponent ++ rest)) := by
    cases hfraction with
    | none => exact hexponent.noDigit hrest
    | some hdigits => exact noDigit_cons (by decide) _
  rw [skipMagnitude, skipDigits_append hwhole.1 hbehind, Outcome.ok_bind,
    takeWhile_digits hwhole.1 hbehind]
  split
  · next digit digits => exact absurd (hwhole.2 _ rfl) (List.cons_ne_nil _ _)
  · cases hfraction with
    | none =>
      -- neither an exponent nor what ends a number begins with a point
      split
      · next heq => exact absurd heq (hexponent.noPoint hrest _)
      · exact skipExponent_append hexponent hrest
    | some hdigits =>
      simp only [List.cons_append]
      rw [skipDigits_append hdigits (hexponent.noDigit hrest), Outcome.ok_bind]
      exact skipExponent_append hexponent hrest

/-! ## Texts that are not looked into -/

/-- An octet stands for itself if it is no control character, closes nothing and escapes nothing. -/
theorem isPlain_of_last {byte : UInt8} {rest : List UInt8} (hquote : byte = 34 → False)
    (hend : byte = 92 → rest = [] → False)
    (hletter : ∀ letter behind, byte = 92 → rest = letter :: behind → False)
    (hcontrol : ¬ byte < 32) : IsPlain byte := by
  refine ⟨Nat.not_lt.mp hcontrol, hquote, ?_⟩
  intro hbackslash
  cases rest with
  | nil => exact hend hbackslash rfl
  | cons letter behind => exact hletter letter behind hbackslash rfl

theorem skipText_plain {byte : UInt8} (h : IsPlain byte) (rest : Bytes) :
    skipText (byte :: rest) = skipText rest := by
  rcases h with ⟨hcontrol, hquote, hbackslash⟩
  have hlow : ¬ byte < 32 := Nat.not_lt.mpr hcontrol
  rw [skipText.eq_7 byte rest hquote (fun _ _ _ _ _ heq _ => hbackslash heq)
    (fun _ heq _ => hbackslash heq) (fun heq _ => hbackslash heq)
    (fun _ _ heq _ => hbackslash heq), if_neg hlow]

theorem ne_unit_of_escaped {letter : UInt8} (h : (escaped? letter).isSome) : letter ≠ 117 := by
  rintro rfl
  exact absurd h (by decide)

theorem skipText_append (h : Quotable body) (rest : Bytes) :
    skipText (body ++ 34 :: rest) = .ok rest := by
  induction h with
  | nil => exact skipText.eq_2 rest
  | plain hplain _ ih =>
    exact (skipText_plain hplain _).trans ih
  | letter hletter _ ih =>
    have hunit := ne_unit_of_escaped hletter
    rw [List.cons_append, List.cons_append,
      skipText.eq_6 _ _ (fun _ _ _ _ _ heq _ => hunit heq) hunit, if_pos hletter, ih]
  | unit hunit _ ih =>
    simp only [List.cons_append]
    rw [skipText.eq_3, if_pos hunit, ih]

theorem exists_quotable (h : skipText bytes = .ok rest) :
    ∃ body, Quotable body ∧ bytes = body ++ 34 :: rest := by
  fun_induction skipText bytes
  case case1 => cases h
  case case2 =>
    cases h
    exact ⟨[], .nil, rfl⟩
  case case3 hunit ih =>
    rcases ih h with ⟨body, hbody, rfl⟩
    exact ⟨_, .unit hunit hbody, rfl⟩
  case case4 => cases h
  case case5 => cases h
  case case6 => cases h
  case case7 hletter ih =>
    rcases ih h with ⟨body, hbody, rfl⟩
    exact ⟨_, .letter hletter hbody, rfl⟩
  case case8 => cases h
  case case9 => cases h
  case case10 hquote _ _ hend hletter hcontrol ih =>
    rcases ih h with ⟨body, hbody, rfl⟩
    exact ⟨_, .plain (isPlain_of_last hquote hend hletter hcontrol) hbody, rfl⟩

/-- What is skipped up to a quote is what may stand between two quotes. -/
theorem skipText_eq_ok_iff :
    skipText bytes = .ok rest ↔ ∃ body, Quotable body ∧ bytes = body ++ 34 :: rest := by
  constructor
  · exact exists_quotable
  · rintro ⟨body, hbody, rfl⟩
    exact skipText_append hbody rest

/-! ## Texts that are read -/

theorem prepend_eq_ok_iff {front content : Bytes} {reading : Except Error (Bytes × Bytes)} :
    prepend front reading = .ok (content, rest) ↔
      ∃ last, reading = .ok (last, rest) ∧ content = front ++ last := by
  cases reading with
  | error fault => simp [prepend, Except.map]
  | ok read =>
    rcases read with ⟨last, behind⟩
    constructor
    · intro h
      cases h
      exact ⟨last, rfl, rfl⟩
    · rintro ⟨_, ⟨⟩, rfl⟩
      rfl

theorem not_isLowSurrogate {unit : Nat} (h : isHighSurrogate unit = true) :
    isLowSurrogate unit = false := by
  simp only [isHighSurrogate, isLowSurrogate, Bool.and_eq_true, decide_eq_true_eq,
    Bool.and_eq_false_iff, decide_eq_false_iff_not] at *
  omega

theorem readTextBytes_append {content : Bytes} (h : Spells body content) (rest : Bytes) :
    readTextBytes (body ++ 34 :: rest) = .ok (content, rest) := by
  induction h with
  | nil => exact readTextBytes.eq_2 rest
  | plain hplain _ ih =>
    rw [List.cons_append, readTextBytes_plain hplain, ih]
    rfl
  | letter hletter _ ih =>
    have hunit := ne_unit_of_escaped (Option.isSome_of_eq_some hletter)
    rw [List.cons_append, List.cons_append, readTextBytes_letter hunit hletter, ih]
    rfl
  | unit hunit hhigh hlow _ ih =>
    simp only [List.cons_append]
    rw [readTextBytes.eq_3, hunit]
    simp only [hhigh, hlow, Bool.false_eq_true, if_false, ih]
    rfl
  | pair hfirst hhigh hsecond hlow _ ih =>
    -- no unit is both halves of a pair
    have hnotLow := not_isLowSurrogate hhigh
    simp only [List.cons_append]
    rw [readTextBytes.eq_3, hfirst]
    simp only [hhigh, hnotLow, Bool.false_eq_true, if_false, if_true, hsecond, hlow, ih]
    rfl

theorem exists_spelled {content : Bytes} (h : readTextBytes bytes = .ok (content, rest)) :
    ∃ body, Spells body content ∧ bytes = body ++ 34 :: rest := by
  fun_induction readTextBytes bytes generalizing content
  case case2 =>
    cases h
    exact ⟨[], .nil, rfl⟩
  case case6 hfirst _ hhigh _ _ _ _ _ _ hsecond hlow ih =>
    rcases prepend_eq_ok_iff.mp h with ⟨last, hread, hcontent⟩
    rcases ih hread with ⟨body, hbody, rfl⟩
    rw [hcontent]
    exact ⟨_, .pair hfirst hhigh hsecond hlow hbody, rfl⟩
  case case12 hunit hlow hhigh ih =>
    rcases prepend_eq_ok_iff.mp h with ⟨last, hread, rfl⟩
    rcases ih hread with ⟨body, hbody, rfl⟩
    exact ⟨_, .unit hunit (Bool.not_eq_true _ ▸ hhigh) (Bool.not_eq_true _ ▸ hlow) hbody, rfl⟩
  case case15 hletter ih =>
    rcases prepend_eq_ok_iff.mp h with ⟨last, hread, rfl⟩
    rcases ih hread with ⟨body, hbody, rfl⟩
    exact ⟨_, .letter hletter hbody, rfl⟩
  case case18 hquote _ _ hend hletter hcontrol ih =>
    rcases prepend_eq_ok_iff.mp h with ⟨last, hread, rfl⟩
    rcases ih hread with ⟨body, hbody, rfl⟩
    exact ⟨_, .plain (isPlain_of_last hquote hend hletter hcontrol) hbody, rfl⟩
  -- the other cases are faults
  all_goals cases h

theorem readTextBytes_eq_ok_iff {content : Bytes} :
    readTextBytes bytes = .ok (content, rest) ↔
      ∃ body, Spells body content ∧ bytes = body ++ 34 :: rest := by
  constructor
  · exact exists_spelled
  · rintro ⟨body, hbody, rfl⟩
    exact readTextBytes_append hbody rest

theorem readText_eq_ok_iff {text : String} :
    readText bytes = .ok (text, rest) ↔
      ∃ body, SpellsText body text ∧ bytes = body ++ 34 :: rest := by
  have hread : readText bytes = .ok (text, rest) ↔
      readTextBytes bytes = .ok (Utf8.encode text, rest) := by
    rw [readText, Outcome.bind_eq_ok_iff]
    constructor
    · rintro ⟨⟨content, behind⟩, hbytes, hdecode⟩
      dsimp only at hdecode
      split at hdecode
      · next found hfound =>
        cases hdecode
        rw [hbytes, Utf8.decode?_eq_some_iff.mp hfound]
      · cases hdecode
    · intro hbytes
      refine ⟨_, hbytes, ?_⟩
      dsimp only
      rw [Utf8.decode?_encode]
      rfl
  exact hread.trans readTextBytes_eq_ok_iff

/-- What spells octets can be skipped. -/
theorem Spells.quotable {content : Bytes} (h : Spells body content) : Quotable body := by
  induction h with
  | nil => exact .nil
  | plain hplain _ ih => exact .plain hplain ih
  | letter hletter _ ih => exact .letter (Option.isSome_of_eq_some hletter) ih
  | unit hunit _ _ _ ih => exact .unit (Option.isSome_of_eq_some hunit) ih
  | pair hfirst _ hsecond _ _ ih =>
    exact .unit (Option.isSome_of_eq_some hfirst) (.unit (Option.isSome_of_eq_some hsecond) ih)

/-- A text is spelled in no two ways read differently. -/
theorem SpellsText.unique {text other : String} (h : SpellsText body text)
    (hother : SpellsText body other) : text = other := by
  have hread : readText (body ++ [34]) = .ok (text, []) :=
    readText_eq_ok_iff.mpr ⟨body, h, rfl⟩
  have hagain : readText (body ++ [34]) = .ok (other, []) :=
    readText_eq_ok_iff.mpr ⟨body, hother, rfl⟩
  rw [hread] at hagain
  cases hagain
  rfl

/-- What is written for a text between its quotes spells the text. -/
theorem spellsText_written (text : String) :
    SpellsText (Utf8.encodeChars (text.toList.flatMap writeChar)) text := by
  rcases readText_eq_ok_iff.mp (readText_written text []) with ⟨body, hbody, hsame⟩
  rwa [List.append_cancel_right hsame]

end Json
end Possession
