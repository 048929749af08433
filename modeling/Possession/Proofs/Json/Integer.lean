import Possession.Proofs.Json.Lexeme

/-!
# Integers are read as the grammar has them

A number is read as an integer when it is a literal without fraction and exponent, and then as the
integer that it denotes. The literal of an integer is its decimal form; so it has only one.
-/

namespace Possession
namespace Json

variable {bytes rest digits : Bytes}

/-! ## Reading -/

theorem exists_readDigits (h : readDigits bytes = .ok (digits, rest)) :
    Digits digits ∧ bytes = digits ++ rest := by
  rw [readDigits] at h
  split at h
  · cases h
  · next hne =>
    cases h
    exact ⟨⟨fun hnil => hne hnil, fun _ => List.mem_takeWhile_imp⟩,
      List.takeWhile_append_dropWhile.symm⟩

theorem exists_readWhole (h : readWhole bytes = .ok (digits, rest)) :
    Whole digits ∧ bytes = digits ++ rest := by
  simp only [readWhole, Outcome.bind_eq_ok_iff] at h
  rcases h with ⟨⟨found, behind⟩, hread, h⟩
  rcases exists_readDigits hread with ⟨hdigits, rfl⟩
  dsimp only at h
  split at h
  · cases h
  · next hzero =>
    cases h
    refine ⟨⟨hdigits, ?_⟩, rfl⟩
    rintro (_ | ⟨digit, more⟩) rfl
    · rfl
    · exact absurd rfl (hzero digit more)

/-- Digits that are all taken make the number that they denote. -/
theorem takeDigits_whole {digits : Bytes} {number significand : Nat}
    (h : takeDigits number digits = (significand, digits.length)) :
    digits.foldl (fun number digit => number * 10 + digitValue digit) number = significand := by
  induction digits generalizing number with
  | nil =>
    cases h
    rfl
  | cons digit digits ih =>
    rw [takeDigits] at h
    dsimp only at h
    split at h
    · apply ih
      have hfirst := congrArg Prod.fst h
      have hcount := congrArg Prod.snd h
      exact Prod.ext hfirst (Nat.succ.inj hcount)
    · exact absurd (congrArg Prod.snd h) (Nat.succ_ne_zero _).symm

theorem boundedReal_ne_integer {real : Real} {behind : Bytes} {value : Int} :
    (do return (← boundedReal real, behind)) ≠ Except.ok (Number.integer value, rest) := by
  intro h
  rcases Outcome.bind_eq_ok_iff.mp h with ⟨number, hreal, hnumber⟩
  cases hnumber
  rw [boundedReal] at hreal
  split at hreal
  · cases hreal
  · cases hreal

/-- With a fraction or an exponent it is no integer. -/
theorem readExponent_ne_integer {negative : Bool} {significand : Nat} {exponent value : Int} :
    readExponent negative significand exponent bytes ≠ .ok (.integer value, rest) := by
  intro h
  unfold readExponent at h
  dsimp only at h
  split at h
  case h_7 => exact boundedReal_ne_integer h
  -- whatever the sign, a size within bounds makes a real number and any other makes zero
  all_goals
    rcases Outcome.bind_eq_ok_iff.mp h with ⟨read, -, hsize⟩
    split at hsize
    · exact boundedReal_ne_integer hsize
    · split at hsize
      · cases hsize
      · cases hsize

theorem exists_readMagnitude {negative : Bool} {value : Int}
    (h : readMagnitude negative bytes = .ok (.integer value, rest)) :
    ∃ digits, Whole digits ∧ bytes = digits ++ rest ∧
      wholeNumber negative (decimal digits) = .integer value := by
  simp only [readMagnitude, Outcome.bind_eq_ok_iff] at h
  rcases h with ⟨⟨digits, behind⟩, hread, h⟩
  rcases exists_readWhole hread with ⟨hwhole, hbytes⟩
  dsimp only at h
  split at h
  · rcases Outcome.bind_eq_ok_iff.mp h with ⟨_, _, hexponent⟩
    exact absurd hexponent readExponent_ne_integer
  · split at h
    · next hall =>
      -- all digits were taken, so the significand is their number
      have hcount : (takeDigits 0 digits).2 = digits.length := by omega
      have hdecimal : decimal digits = (takeDigits 0 digits).1 :=
        takeDigits_whole (Prod.ext rfl hcount)
      have hread := Except.ok.inj h
      have hrest : behind = rest := congrArg Prod.snd hread
      subst hrest
      exact ⟨digits, hwhole, hbytes, hdecimal ▸ congrArg Prod.fst hread⟩
    · exact absurd h readExponent_ne_integer

/-- An integer that is read has a literal at the front. -/
theorem exists_integerLiteral {value : Int} (h : readNumber bytes = .ok (.integer value, rest)) :
    ∃ lexeme, IntegerLiteral lexeme value ∧ bytes = lexeme ++ rest := by
  unfold readNumber at h
  split at h
  · rcases exists_readMagnitude h with ⟨digits, hwhole, rfl, hvalue⟩
    rw [wholeNumber, if_pos rfl] at hvalue
    split at hvalue
    · next hbounds =>
      cases hvalue
      exact ⟨45 :: digits, .negative hwhole hbounds.1, rfl⟩
    · cases hvalue
  · rcases exists_readMagnitude h with ⟨digits, hwhole, rfl, hvalue⟩
    cases hvalue
    exact ⟨digits, .plain hwhole, rfl⟩

/-! ## The decimal form -/

theorem digitOctet_digitValue {digit : UInt8} (h : isDigit digit = true) :
    digitOctet (digitValue digit) = digit ∧ digitValue digit < 10 := by
  have hbounds : 48 ≤ digit.toNat ∧ digit.toNat ≤ 57 := by
    simpa [isDigit, UInt8.le_iff_toNat_le] using h
  have hback : 48 + digitValue digit = digit.toNat := Nat.add_sub_cancel' hbounds.1
  refine ⟨?_, by omega⟩
  rw [digitOctet, hback]
  exact UInt8.ofNat_toNat

theorem decimal_append (front : Bytes) (digit : UInt8) :
    decimal (front ++ [digit]) = decimal front * 10 + digitValue digit := by
  rw [decimal, List.foldl_append]
  rfl

theorem Whole.decimal_pos {first : UInt8} {digits : Bytes} (h : Digits (first :: digits))
    (hzero : first ≠ 48) : 0 < decimal (first :: digits) := by
  have hfirst := digitOctet_digitValue (h.2 first List.mem_cons_self)
  have hpos : 0 < digitValue first := by
    apply Nat.pos_of_ne_zero
    intro hnone
    rw [hnone] at hfirst
    exact hzero hfirst.1.symm
  have hle := le_foldl_digits digits (0 * 10 + digitValue first)
  rw [decimal, List.foldl_cons]
  omega

/-- A number has one row of digits: its decimal form. -/
theorem Whole.eq_decimalOctets (h : Whole digits) : digits = decimalOctets (decimal digits) := by
  -- along the digits from the last one, as the decimal form is made
  induction digits using List.reverseRecOn with
  | nil => exact absurd rfl h.1.1
  | append_singleton front digit ih =>
    have hdigit := digitOctet_digitValue (h.1.2 digit (by simp))
    rw [decimal_append]
    cases front with
    | nil =>
      have hsingle : decimal [] * 10 + digitValue digit = digitValue digit := Nat.zero_add _
      rw [hsingle, decimalOctets_of_lt hdigit.2, hdigit.1]
      rfl
    | cons first front =>
      have hdigits : Digits (first :: front) :=
        ⟨List.cons_ne_nil _ _, fun byte hbyte => h.1.2 byte (List.mem_append_left _ hbyte)⟩
      have hzero : first ≠ 48 := by
        rintro rfl
        exact List.append_ne_nil_of_right_ne_nil _ (List.cons_ne_nil _ _) (h.2 _ rfl)
      have hfront := ih ⟨hdigits, fun _ heq => absurd (List.cons.inj heq).1 hzero⟩
      have hpos := Whole.decimal_pos hdigits hzero
      have hdiv : (decimal (first :: front) * 10 + digitValue digit) / 10 =
          decimal (first :: front) := by omega
      have hmod : (decimal (first :: front) * 10 + digitValue digit) % 10 = digitValue digit := by
        omega
      rw [decimalOctets_of_le (by omega), hdiv, hmod, hdigit.1, ← hfront]

/-- An integer has one literal: its decimal form. -/
theorem IntegerLiteral.eq_written {lexeme : Bytes} {value : Int} (h : IntegerLiteral lexeme value) :
    lexeme = Utf8.encode (toString value) := by
  rw [encode_toString]
  cases h with
  | plain hwhole =>
    rw [if_neg (Int.not_lt.mpr (Int.natCast_nonneg _)), Int.natAbs_natCast]
    exact hwhole.eq_decimalOctets
  | @negative digits hwhole hpos =>
    have hneg : -(decimal digits : Int) < 0 := by omega
    have habs : (-(decimal digits : Int)).natAbs = decimal digits := by omega
    rw [if_pos hneg, habs, ← hwhole.eq_decimalOctets]
    rfl

theorem readNumber_literal {lexeme : Bytes} {value : Int} (h : IntegerLiteral lexeme value)
    (hlow : -0x8000_0000_0000_0000 ≤ value) (hhigh : value ≤ 0x7fff_ffff_ffff_ffff)
    (hrest : EndsNumber rest) : readNumber (lexeme ++ rest) = .ok (.integer value, rest) := by
  rw [h.eq_written]
  exact readNumber_written hlow hhigh hrest

theorem IntegerLiteral.numeral {lexeme : Bytes} {value : Int} (h : IntegerLiteral lexeme value) :
    Numeral lexeme := by
  have hnumeral {sign digits : Bytes} (hsign : sign = [] ∨ sign = [45]) (hwhole : Whole digits) :
      Numeral (sign ++ digits) := by
    have hbare := Numeral.mk hsign hwhole .none .none
    simpa only [List.append_nil] using hbare
  cases h with
  | plain hwhole => exact hnumeral (.inl rfl) hwhole
  | negative hwhole => exact hnumeral (.inr rfl) hwhole

/-- No other integer has the same literal. -/
theorem IntegerLiteral.unique {lexeme : Bytes} {value other : Int} (h : IntegerLiteral lexeme value)
    (hother : IntegerLiteral lexeme other) : value = other := by
  have hsign {digits : Bytes} (hwhole : Whole (45 :: digits)) : False :=
    absurd (hwhole.1.2 45 List.mem_cons_self) (by decide)
  cases h with
  | plain hwhole =>
    cases hother with
    | plain => rfl
    | negative => exact (hsign hwhole).elim
  | negative =>
    cases hother with
    | plain hwhole => exact (hsign hwhole).elim
    | negative => rfl

end Json
end Possession
