import Possession.Json.Printer
import Possession.Json.Lexeme
import Possession.Proofs.Bytes
import Possession.Proofs.Outcome
import Possession.Proofs.Text.Utf8

/-!
# JSON texts read back

Whatever characters a text holds, its written form reads back as the text, and reading stops right
behind the closing quote.
-/

namespace Possession
namespace Json

/-! ## Octets that stand for themselves -/

/-- An octet that a text may hold as it is. -/
def IsPlain (byte : UInt8) : Prop :=
  32 ≤ byte.toNat ∧ byte ≠ 34 ∧ byte ≠ 92

theorem prepend_prepend (front next : Bytes) (reading : Except Error (Bytes × Bytes)) :
    prepend front (prepend next reading) = prepend (front ++ next) reading := by
  cases reading with
  | ok read => simp [prepend]
  | error fault => rfl

theorem prepend_nil (reading : Except Error (Bytes × Bytes)) : prepend [] reading = reading := by
  cases reading with
  | ok read => simp [prepend]
  | error fault => rfl

theorem readTextBytes_plain {byte : UInt8} (h : IsPlain byte) (rest : Bytes) :
    readTextBytes (byte :: rest) = prepend [byte] (readTextBytes rest) := by
  rcases h with ⟨hcontrol, hquote, hbackslash⟩
  have hlow : ¬ byte < 32 := by
    rw [UInt8.lt_iff_toNat_lt]
    exact Nat.not_lt.mpr hcontrol
  -- the equation of the last case asks that none of the earlier ones applies
  rw [readTextBytes.eq_7 byte rest hquote (fun _ _ _ _ _ heq _ => hbackslash heq)
    (fun _ heq _ => hbackslash heq) (fun heq _ => hbackslash heq)
    (fun _ _ heq _ => hbackslash heq), if_neg hlow]

theorem readTextBytes_plain_append {front : Bytes} (h : ∀ byte ∈ front, IsPlain byte)
    (rest : Bytes) : readTextBytes (front ++ rest) = prepend front (readTextBytes rest) := by
  induction front with
  | nil =>
    exact (prepend_nil _).symm
  | cons byte front ih =>
    rw [List.cons_append, readTextBytes_plain (h byte (by simp)),
      ih (fun b hb => h b (by simp [hb])), prepend_prepend]
    rfl

/-! ## Escapes -/

theorem readTextBytes_letter {letter byte : UInt8} (hletter : letter ≠ 117)
    (h : escaped? letter = some byte) (rest : Bytes) :
    readTextBytes (92 :: letter :: rest) = prepend [byte] (readTextBytes rest) := by
  rw [readTextBytes.eq_6 letter rest (fun _ _ _ _ _ heq _ => hletter heq) hletter, h]

theorem readTextBytes_unit {a b c d : UInt8} {unit : Nat} (h : unit? a b c d = some unit)
    (hscalar : unit < 0xD800) (rest : Bytes) :
    readTextBytes (92 :: 117 :: a :: b :: c :: d :: rest) =
      prepend (characterBytes unit) (readTextBytes rest) := by
  have hlow : isLowSurrogate unit = false := by
    simp [isLowSurrogate]
    omega
  have hhigh : isHighSurrogate unit = false := by
    simp [isHighSurrogate]
    omega
  rw [readTextBytes.eq_3, h]
  simp [hlow, hhigh]

/-! ## Characters -/

/-- Whether a character must not stand for itself. -/
def NeedsEscape (c : Char) : Prop :=
  c.toNat < 32 ∨ c = '"' ∨ c = '\\'

theorem writeChar_plain {c : Char} (h : ¬ NeedsEscape c) : writeChar c = [c] := by
  obtain ⟨hcontrol, hquote, hbackslash⟩ : ¬ c.toNat < 32 ∧ c ≠ '"' ∧ c ≠ '\\' := by
    simpa [NeedsEscape] using h
  have hother : ∀ d : Char, d.toNat < 32 → c ≠ d := by
    rintro d hd rfl
    exact hcontrol hd
  simp [writeChar, hquote, hbackslash, hcontrol, hother '\x08' (by decide), hother '\t' (by decide),
    hother '\n' (by decide), hother '\x0c' (by decide), hother '\r' (by decide)]

theorem isPlain_of_mem {c : Char} (h : ¬ NeedsEscape c) {byte : UInt8}
    (hbyte : byte ∈ String.utf8EncodeChar c) : IsPlain byte := by
  obtain ⟨hcontrol, hquote, hbackslash⟩ : ¬ c.toNat < 32 ∧ c ≠ '"' ∧ c ≠ '\\' := by
    simpa [NeedsEscape] using h
  -- an octet tells its character only within ASCII; beyond it no octet is a quote
  by_cases hascii : c.toNat < 128
  · rw [Utf8.utf8EncodeChar_ascii hascii, List.mem_singleton] at hbyte
    have hnat : byte.toNat = c.toNat := by
      rw [hbyte]
      exact Bytes.toNat_octet (by omega)
    have hback : Char.ofNat byte.toNat = c := by rw [hnat, Char.ofNat_toNat]
    refine ⟨by omega, ?_, ?_⟩
    · rintro rfl
      exact hquote hback.symm
    · rintro rfl
      exact hbackslash hback.symm
  · have hhigh := Utf8.le_of_mem_utf8EncodeChar (by omega) hbyte
    refine ⟨by omega, ?_, ?_⟩
    · rintro rfl
      exact absurd hhigh (by decide)
    · rintro rfl
      exact absurd hhigh (by decide)

/-- Whether octets are an escape of the character with a given code: a letter that stands for it, or
its code in four digits. -/
def isEscapeOf (code : Nat) : Bytes → Bool
  | [92, letter] => letter != 117 && escaped? letter == some (UInt8.ofNat code)
  | [92, 117, a, b, c, d] => unit? a b c d == some code
  | _ => false

theorem isEscapeOf_writeChar : ∀ code < 128, NeedsEscape (Char.ofNat code) →
    isEscapeOf code (Utf8.encodeChars (writeChar (Char.ofNat code))) := by
  -- a table of the ASCII characters, of which 34 need an escape
  unfold NeedsEscape
  decide

theorem readTextBytes_escape {c : Char} (hascii : c.toNat < 128) {bytes : Bytes}
    (h : isEscapeOf c.toNat bytes) (rest : Bytes) :
    readTextBytes (bytes ++ rest) = prepend (String.utf8EncodeChar c) (readTextBytes rest) := by
  unfold isEscapeOf at h
  split at h
  · rename_i letter
    obtain ⟨hletter, hbyte⟩ : letter ≠ 117 ∧ escaped? letter = some (UInt8.ofNat c.toNat) := by
      simpa using h
    rw [Utf8.utf8EncodeChar_ascii hascii]
    exact readTextBytes_letter hletter hbyte rest
  · have hcharacter : characterBytes c.toNat = String.utf8EncodeChar c := by
      rw [characterBytes, Char.ofNat_toNat]
    rw [← hcharacter]
    exact readTextBytes_unit (by simpa using h) (by omega) rest
  · cases h

/-- A character reads back from its written form, whatever follows. -/
theorem readTextBytes_writeChar (c : Char) (rest : Bytes) :
    readTextBytes (Utf8.encodeChars (writeChar c) ++ rest) =
      prepend (String.utf8EncodeChar c) (readTextBytes rest) := by
  by_cases hescape : NeedsEscape c
  -- only ASCII characters need an escape, so the table covers them all
  · have hascii : c.toNat < 128 := by
      rcases hescape with h | rfl | rfl
      · omega
      · decide
      · decide
    have hwritten := isEscapeOf_writeChar c.toNat hascii
    rw [Char.ofNat_toNat] at hwritten
    exact readTextBytes_escape hascii (hwritten hescape) rest
  · rw [writeChar_plain hescape, Utf8.encodeChars_cons, Utf8.encodeChars_nil, List.append_nil]
    exact readTextBytes_plain_append (fun _ => isPlain_of_mem hescape) rest

/-! ## Whole texts -/

theorem readTextBytes_written (chars : List Char) (rest : Bytes) :
    readTextBytes (Utf8.encodeChars (chars.flatMap writeChar) ++ 34 :: rest) =
      .ok (Utf8.encodeChars chars, rest) := by
  induction chars with
  | nil =>
    -- the closing quote
    exact readTextBytes.eq_2 rest
  | cons c chars ih =>
    rw [List.flatMap_cons, Utf8.encodeChars_append, List.append_assoc, readTextBytes_writeChar, ih,
      Utf8.encodeChars_cons]
    rfl

/-- The octets of a written text: a quote, what stands for the characters, and a quote. -/
theorem encode_writeText (text : String) :
    Utf8.encode (writeText text) =
      34 :: Utf8.encodeChars (text.toList.flatMap writeChar) ++ [34] := by
  rw [writeText, Utf8.encode_ofList, Utf8.encodeChars_append]
  rfl

theorem readText_written (text : String) (rest : Bytes) :
    readText (Utf8.encodeChars (text.toList.flatMap writeChar) ++ 34 :: rest) = .ok (text, rest) := by
  have hback : Utf8.decode? (Utf8.encodeChars text.toList) = some text := Utf8.decode?_encode text
  rw [readText, readTextBytes_written, Outcome.ok_bind]
  simp [hback]

end Json
end Possession
