import Possession.Proofs.Jwk
import Possession.Proofs.Rsa.Encoding

/-!
# Public keys in distinguished encoding

The form in which a public key is handed out is that of RFC 5280: a sequence of the algorithm and of
a bit string, inside which stand modulus and exponent. Nothing in the program reads it, so a strict
reader of the form is defined here, and a usable key comes back out of what is written: numbers
whose first octet is high have a zero in front, and no part is longer than its length can say.

* `Rsa.PublicKey.ofDer?` reads a public key.
* `Rsa.PublicKey.ofDer?_toDer` reads a usable key back.
-/

namespace Possession

namespace Der

/-- The octets of a bit string at the front that leaves no bit of its last octet unused. -/
def readBitString? (bytes : Bytes) : Option (Bytes × Bytes) := do
  let (contents, rest) ← readTag? bitStringTag bytes
  match contents with
  | 0 :: octets => return (octets, rest)
  | _ => none

/-- The contents of a sequence that fills an octet string. -/
def readSequence? (bytes : Bytes) : Option Bytes := do
  let (contents, rest) ← readTag? sequenceTag bytes
  if rest.isEmpty then return contents else none

variable {octets contents : Bytes}

theorem readBitString?_write (h : (0 :: octets).length ≤ maxLength) (rest : Bytes) :
    readBitString? (write bitStringTag (0 :: octets) ++ rest) = some (octets, rest) := by
  rw [readBitString?, readTag?_write bitStringTag (by decide) h]
  rfl

theorem readSequence?_write (h : contents.length ≤ maxLength) :
    readSequence? (write sequenceTag contents) = some contents := by
  have hread := readTag?_write sequenceTag (by decide) h []
  rw [List.append_nil] at hread
  rw [readSequence?, hread]
  rfl

end Der

namespace Rsa.PublicKey

/-! ## Modulus and exponent -/

/-- Modulus and exponent as they stand inside the form in which a key is handed out. -/
def content (key : PublicKey) : Bytes :=
  Der.sequence [Der.natural key.modulus, Der.natural key.exponent]

/-- Reads modulus and exponent, with nothing behind them. -/
def ofContent? (octets : Bytes) : Option PublicKey := do
  match ← readNumbers? 2 (← Der.readSequence? octets) with
  | [modulus, exponent] => some ⟨modulus, exponent⟩
  | _ => none

variable {key : PublicKey}

/-- No number of a usable key is longer than the longest modulus that is accepted. -/
theorem width_le_of_mem (h : key.fault? = none) {number : Nat}
    (hnumber : number ∈ [key.modulus, key.exponent]) :
    Bytes.width number ≤ maxModulusBits / 8 + 1 := by
  rcases fault?_eq_none_iff.mp h with ⟨hbits, hexponent, -, -, -, -⟩
  have hmodulus : key.modulus < 2 ^ maxModulusBits := by
    calc
      key.modulus < 2 ^ key.bits := lt_two_pow_bitLength key.modulus
      _ ≤ 2 ^ maxModulusBits := Nat.pow_le_pow_right (by decide) hbits
  apply Bytes.width_le_of_lt
  simp only [List.mem_cons, List.not_mem_nil, or_false] at hnumber
  rcases hnumber with rfl | rfl
  · exact hmodulus
  · exact lt_trans hexponent hmodulus

theorem length_numbers_le (h : key.fault? = none) :
    [Der.natural key.modulus, Der.natural key.exponent].flatten.length ≤ 1040 := by
  have hfits : maxModulusBits / 8 + 1 + 1 ≤ Der.maxLength := by decide
  calc
    [Der.natural key.modulus, Der.natural key.exponent].flatten.length
    _ ≤ 2 * (maxModulusBits / 8 + 1 + 7) :=
      Der.length_naturals_le (fun _ => width_le_of_mem h) hfits
    _ = 1040 := by decide

theorem length_content_le (h : key.fault? = none) : key.content.length ≤ 1046 := by
  have hmax : Der.maxLength = 268435455 := rfl
  have hnumbers := length_numbers_le h
  exact (Der.length_write_le (by omega)).trans (by omega)

/-- Modulus and exponent of a usable key are read back. -/
theorem ofContent?_content (h : key.fault? = none) : ofContent? key.content = some key := by
  have hmax : Der.maxLength = 268435455 := rfl
  have hnumbers := length_numbers_le h
  have hshort : ∀ number ∈ [key.modulus, key.exponent],
      (Der.naturalContents number).length ≤ Der.maxLength := by
    intro number hnumber
    have hwidth := width_le_of_mem h hnumber
    have hlimit : maxModulusBits / 8 + 1 = 513 := rfl
    have hlength := Der.length_naturalContents_le number
    omega
  have hread : readNumbers? 2 [Der.natural key.modulus, Der.natural key.exponent].flatten =
      some [key.modulus, key.exponent] :=
    readNumbers?_natural hshort
  rw [ofContent?, content, Der.sequence, Der.readSequence?_write (by omega),
    Option.bind_eq_bind, Option.bind_some, hread]
  rfl

/-! ## The whole form -/

/-- Reads a `SubjectPublicKeyInfo` of an RSA key, with nothing behind any of its parts. -/
def ofDer? (bytes : Bytes) : Option PublicKey := do
  let info ← Der.readSequence? bytes
  let (algorithm, rest) ← Der.readTag? Der.sequenceTag info
  let (octets, rest) ← Der.readBitString? rest
  if algorithm == Der.rsaAlgorithm && rest.isEmpty then ofContent? octets else none

/-- A usable key comes back out of the form in which it is handed out. -/
theorem ofDer?_toDer (h : key.fault? = none) : ofDer? key.toDer = some key := by
  have hmax : Der.maxLength = 268435455 := rfl
  have hcontent := length_content_le h
  have hbits : (0 :: key.content).length ≤ 1047 := by
    rw [List.length_cons]
    omega
  have hkey : (Der.write Der.bitStringTag (0 :: key.content)).length ≤ 1053 :=
    (Der.length_write_le (by omega)).trans (by omega)
  have hname : (Der.write Der.sequenceTag Der.rsaAlgorithm).length = 15 := by decide
  have hinfo : [Der.write Der.sequenceTag Der.rsaAlgorithm,
      Der.write Der.bitStringTag (0 :: key.content)].flatten.length ≤ Der.maxLength := by
    simp only [List.flatten_cons, List.flatten_nil, List.length_append, List.length_nil]
    omega
  -- the parts are read from the outside in
  have houter : Der.readSequence? key.toDer = some (Der.write Der.sequenceTag Der.rsaAlgorithm ++
      Der.write Der.bitStringTag (0 :: key.content)) := by
    rw [toDer, ← content, Der.sequence, Der.readSequence?_write hinfo]
    simp
  have halgorithm := Der.readTag?_write Der.sequenceTag (by decide)
    (by decide : Der.rsaAlgorithm.length ≤ Der.maxLength)
    (Der.write Der.bitStringTag (0 :: key.content))
  have hstring := Der.readBitString?_write (hbits.trans (by omega)) []
  rw [List.append_nil] at hstring
  simp only [ofDer?, houter, halgorithm, hstring, Option.bind_eq_bind, Option.bind_some,
    beq_self_eq_true, List.isEmpty_nil, Bool.and_self, if_true, ofContent?_content h]

end Rsa.PublicKey

end Possession
