import Possession.Json.Record
import Possession.Proofs.Bytes
import Possession.Proofs.Outcome
import Possession.Proofs.Text.Utf8

/-!
# JSON integers read back

An integer of 64 bits reads back from its decimal form, and reading stops in front of the first
octet that cannot go on with a number.
-/

namespace Possession
namespace Json

/-! ## Decimal digits -/

/-- The octets of the decimal digits of a number. -/
def decimalOctets (value : Nat) : Bytes :=
  Utf8.encodeChars (Nat.toDigits 10 value)

/-- The octet of a decimal digit. -/
def digitOctet (value : Nat) : UInt8 :=
  UInt8.ofNat (48 + value)

theorem encodeChars_digitChar : ∀ value < 10,
    Utf8.encodeChars [Nat.digitChar value] = [digitOctet value] ∧ isDigit (digitOctet value) ∧
      digitValue (digitOctet value) = value := by
  decide

theorem decimalOctets_of_lt {value : Nat} (h : value < 10) :
    decimalOctets value = [digitOctet value] := by
  rw [decimalOctets, Nat.toDigits_of_lt_base h]
  exact (encodeChars_digitChar value h).1

theorem decimalOctets_of_le {value : Nat} (h : 10 ≤ value) :
    decimalOctets value = decimalOctets (value / 10) ++ [digitOctet (value % 10)] := by
  have hlast := (encodeChars_digitChar (value % 10) (by omega)).1
  rw [decimalOctets, Nat.toDigits_of_base_le (by omega) h, Utf8.encodeChars_append, hlast]
  rfl

/-- A property of digits, proved along the digits of a number. -/
theorem decimalOctets_induction {motive : Nat → Prop}
    (single : ∀ value < 10, motive value)
    (more : ∀ value, 10 ≤ value → motive (value / 10) → motive value) (value : Nat) :
    motive value := by
  induction value using Nat.strongRecOn with
  | ind value ih =>
    by_cases h : value < 10
    · exact single value h
    · exact more value (by omega) (ih (value / 10) (by omega))

theorem decimalOctets_ne_nil (value : Nat) : decimalOctets value ≠ [] := by
  induction value using decimalOctets_induction with
  | single value h => simp [decimalOctets_of_lt h]
  | more value h ih => simp [decimalOctets_of_le h]

theorem isDigit_of_mem (value : Nat) : ∀ byte ∈ decimalOctets value, isDigit byte := by
  induction value using decimalOctets_induction with
  | single value h =>
    rw [decimalOctets_of_lt h]
    simp [(encodeChars_digitChar value h).2.1]
  | more value h ih =>
    have hlast := (encodeChars_digitChar (value % 10) (by omega)).2.1
    rw [decimalOctets_of_le h]
    intro byte hbyte
    rcases List.mem_append.mp hbyte with hbyte | hbyte
    · exact ih byte hbyte
    · rw [List.mem_singleton.mp hbyte]
      exact hlast

/-- The number that digits denote. -/
theorem foldl_decimalOctets (value : Nat) :
    (decimalOctets value).foldl (fun number digit => number * 10 + digitValue digit) 0 = value := by
  induction value using decimalOctets_induction with
  | single value h =>
    rw [decimalOctets_of_lt h]
    simp [(encodeChars_digitChar value h).2.2]
  | more value h ih =>
    have hlast := (encodeChars_digitChar (value % 10) (by omega)).2.2
    rw [decimalOctets_of_le h, List.foldl_append, ih]
    simp only [List.foldl_cons, List.foldl_nil, hlast]
    omega

/-- Only zero begins with a zero. -/
theorem decimalOctets_head_ne {value : Nat} (h : 0 < value) :
    ∃ first rest, decimalOctets value = first :: rest ∧ first ≠ 48 := by
  induction value using decimalOctets_induction with
  | single value hlt =>
    -- a single digit is zero only for the number zero
    refine ⟨digitOctet value, [], decimalOctets_of_lt hlt, ?_⟩
    intro heq
    have hnat := congrArg UInt8.toNat heq
    rw [digitOctet, Bytes.toNat_octet (by omega)] at hnat
    change 48 + value = 48 at hnat
    omega
  | more value hle ih =>
    rcases ih (by omega) with ⟨first, rest, heq, hfirst⟩
    exact ⟨first, rest ++ [digitOctet (value % 10)], by rw [decimalOctets_of_le hle, heq]; rfl,
      hfirst⟩

/-! ## Reading digits -/

/-- What may stand behind a number: nothing that would go on with it. -/
def EndsNumber (rest : Bytes) : Prop :=
  ∀ byte ∈ rest.head?, isDigit byte = false ∧ byte ≠ 46 ∧ byte ≠ 101 ∧ byte ≠ 69

theorem takeWhile_of_ends {rest : Bytes} (h : EndsNumber rest) : rest.takeWhile isDigit = [] := by
  cases rest with
  | nil => rfl
  | cons byte rest =>
    have hbyte : isDigit byte = false := (h byte (by simp)).1
    simp [hbyte]

theorem dropWhile_of_ends {rest : Bytes} (h : EndsNumber rest) :
    rest.dropWhile isDigit = rest := by
  cases rest with
  | nil => rfl
  | cons byte rest =>
    have hbyte : isDigit byte = false := (h byte (by simp)).1
    simp [hbyte]

theorem le_foldl_digits (digits : Bytes) (number : Nat) :
    number ≤ digits.foldl (fun number digit => number * 10 + digitValue digit) number := by
  induction digits generalizing number with
  | nil => exact Nat.le_refl number
  | cons digit digits ih =>
    have hnext := ih (number * 10 + digitValue digit)
    simp only [List.foldl_cons]
    omega

/-- Digits that denote a number of 64 bits are all taken. -/
theorem takeDigits_eq (digits : Bytes) (number : Nat)
    (h : digits.foldl (fun number digit => number * 10 + digitValue digit) number ≤
      0xffff_ffff_ffff_ffff) :
    takeDigits number digits =
      (digits.foldl (fun number digit => number * 10 + digitValue digit) number,
        digits.length) := by
  induction digits generalizing number with
  | nil => rfl
  | cons digit digits ih =>
    -- the number grows with each digit, so no front of the digits overflows either
    have hle := le_foldl_digits digits (number * 10 + digitValue digit)
    have hnext : number * 10 + digitValue digit ≤ 0xffff_ffff_ffff_ffff := Nat.le_trans hle h
    rw [takeDigits]
    simp only [hnext, if_true, ih _ h]
    rfl

theorem readDigits_decimal (value : Nat) {rest : Bytes} (hrest : EndsNumber rest) :
    readDigits (decimalOctets value ++ rest) = .ok (decimalOctets value, rest) := by
  have htake : (decimalOctets value ++ rest).takeWhile isDigit = decimalOctets value := by
    rw [List.takeWhile_append_of_pos (isDigit_of_mem value), takeWhile_of_ends hrest, List.append_nil]
  have hdrop : (decimalOctets value ++ rest).dropWhile isDigit = rest := by
    rw [List.dropWhile_append_of_pos (isDigit_of_mem value), dropWhile_of_ends hrest]
  rw [readDigits, htake, hdrop]
  split
  · rename_i hnil
    exact absurd hnil (decimalOctets_ne_nil value)
  · rfl

theorem readWhole_decimal (value : Nat) {rest : Bytes} (hrest : EndsNumber rest) :
    readWhole (decimalOctets value ++ rest) = .ok (decimalOctets value, rest) := by
  rw [readWhole, readDigits_decimal value hrest, Outcome.ok_bind]
  dsimp only
  split
  · rename_i heq
    -- A zero in front of further digits would be the form of no number.
    by_cases hzero : value = 0
    · subst hzero
      have hdigits : decimalOctets 0 = [48] := by decide
      rw [hdigits] at heq
      cases heq
    · rcases decimalOctets_head_ne (Nat.pos_of_ne_zero hzero) with ⟨first, digits, hfirst, hne⟩
      rw [hfirst] at heq
      exact absurd (List.cons.inj heq).1 hne
  · rfl

theorem readMagnitude_decimal (negative : Bool) {value : Nat} (hvalue : value ≤ 0xffff_ffff_ffff_ffff)
    {rest : Bytes} (hrest : EndsNumber rest) :
    readMagnitude negative (decimalOctets value ++ rest) = .ok (wholeNumber negative value, rest) := by
  have hdigits : takeDigits 0 (decimalOctets value) = (value, (decimalOctets value).length) := by
    rw [takeDigits_eq _ _ (by rw [foldl_decimalOctets]; exact hvalue), foldl_decimalOctets]
  rw [readMagnitude, readWhole_decimal value hrest, Outcome.ok_bind]
  simp only [hdigits]
  -- neither a fraction nor an exponent follows, as the octets behind end the number
  split
  · exact absurd rfl (hrest 46 (by simp)).2.1
  · have hone : rest.head? ≠ some 101 := fun heq => (hrest 101 heq).2.2.1 rfl
    have htwo : rest.head? ≠ some 69 := fun heq => (hrest 69 heq).2.2.2 rfl
    rw [if_pos ⟨by omega, hone, htwo⟩]
    rfl

/-! ## Reading integers -/

/-- The octets of a written integer: its digits, behind a minus sign if it is negative. -/
theorem encode_toString (value : Int) :
    Utf8.encode (toString value) =
      (if value < 0 then [45] else []) ++ decimalOctets value.natAbs := by
  rw [Int.toString_eq_repr, Int.repr_eq_if]
  by_cases h : 0 ≤ value
  · have habs : value.toNat = value.natAbs := by omega
    simp [h, Int.not_lt.mpr h, Utf8.encode, decimalOctets, habs]
  · have habs : (-value).toNat = value.natAbs := by omega
    have hminus : Utf8.encode "-" = [45] := by decide
    rw [if_neg h, if_pos (by omega), Utf8.encode_append, hminus, habs]
    simp [Utf8.encode, decimalOctets]

theorem readNumber_written {value : Int} (hlow : -0x8000_0000_0000_0000 ≤ value)
    (hhigh : value ≤ 0x7fff_ffff_ffff_ffff) {rest : Bytes} (hrest : EndsNumber rest) :
    readNumber (Utf8.encode (toString value) ++ rest) = .ok (.integer value, rest) := by
  have hmagnitude : value.natAbs ≤ 0xffff_ffff_ffff_ffff := by omega
  rw [encode_toString]
  by_cases hnegative : value < 0
  · have hwhole : wholeNumber true value.natAbs = .integer value := by
      have habs : -(value.natAbs : Int) = value := by omega
      rw [wholeNumber, if_pos rfl, if_pos (by omega), habs]
    rw [if_pos hnegative, List.append_assoc, List.singleton_append, readNumber,
      readMagnitude_decimal true hmagnitude hrest, hwhole]
  · have hwhole : wholeNumber false value.natAbs = .integer value := by
      have habs : (value.natAbs : Int) = value := by omega
      rw [wholeNumber, if_neg Bool.false_ne_true, habs]
    -- without a sign the first octet is a digit, which is not taken for one
    rw [if_neg hnegative, List.nil_append]
    obtain ⟨first, digits, hfirst⟩ := List.exists_cons_of_ne_nil (decimalOctets_ne_nil value.natAbs)
    have hdigit : isDigit first := isDigit_of_mem value.natAbs first (by simp [hfirst])
    have hminus : first ≠ 45 := by
      rintro rfl
      exact absurd hdigit (by decide)
    have hmagnitude := readMagnitude_decimal false hmagnitude hrest
    rw [hfirst] at hmagnitude ⊢
    rw [List.cons_append, readNumber.eq_2, ← List.cons_append, hmagnitude, hwhole]
    intro more heq
    exact hminus (List.cons.inj heq).1

end Json
end Possession
