import Possession.Der.KeyInfo
import Possession.Proofs.Bytes

/-!
# Reading distinguished encoding back

What is written is read as it was, whatever stands behind it, as long as its contents are not longer
than the encoding allows. So a private key whose numbers belong together comes back out of the form
in which it is kept.
-/

namespace Possession
namespace Der

variable {tag : UInt8} {contents : Bytes} {length value : Nat}

/-! ## Lengths -/

theorem width_le_of_le_maxLength (h : length ≤ maxLength) : Bytes.width length ≤ 4 := by
  by_cases hzero : length = 0
  · simp [hzero, Bytes.width]
  · have hpow : 256 ^ (Bytes.width length - 1) < 256 ^ 4 :=
      lt_of_le_of_lt (Bytes.pow_width_le hzero) (lt_of_le_of_lt h (by decide))
    have hlt : Bytes.width length - 1 < 4 := (Nat.pow_lt_pow_iff_right (by omega)).mp hpow
    omega

theorem readLength?_write (h : length ≤ maxLength) (rest : Bytes) :
    readLength? (writeLength length ++ rest) = some (length, rest) := by
  by_cases hshort : length < 128
  · have hvalue : (UInt8.ofNat length).toNat = length := Bytes.toNat_octet (by omega)
    have hfirst : UInt8.ofNat length < 0x80 := by
      rw [UInt8.lt_iff_toNat_lt, hvalue]
      exact hshort
    simp [writeLength, hshort, readLength?, hfirst, hvalue]
  · -- the first octet tells how many octets the length has
    have hdigits : (Bytes.ofNat length).length = Bytes.width length :=
      Bytes.length_ofNatPadded _ _
    have hwidth : Bytes.width length ≤ 4 := width_le_of_le_maxLength h
    have hpos : 1 ≤ Bytes.width length := by
      rw [← hdigits]
      exact List.length_pos_iff.mpr (Bytes.ofNat_ne_nil (by omega))
    have hvalue : (UInt8.ofNat (128 + Bytes.width length)).toNat = 128 + Bytes.width length :=
      Bytes.toNat_octet (by omega)
    have hfirst : ¬ UInt8.ofNat (128 + Bytes.width length) < 0x80 := by
      rw [UInt8.lt_iff_toNat_lt, hvalue]
      simp
    have hwritten : writeLength length =
        UInt8.ofNat (128 + Bytes.width length) :: Bytes.ofNat length := by
      rw [writeLength, if_neg hshort]
      dsimp only
      rw [hdigits]
    have htake : (Bytes.ofNat length ++ rest).take (Bytes.width length) = Bytes.ofNat length := by
      rw [← hdigits, List.take_left]
    have hdrop : (Bytes.ofNat length ++ rest).drop (Bytes.width length) = rest := by
      rw [← hdigits, List.drop_left]
    rw [hwritten, List.cons_append, readLength?, if_neg hfirst]
    simp only [hvalue, Nat.add_sub_cancel_left, htake, hdrop, Bytes.toNat_ofNat]
    rw [if_pos]
    refine ⟨hpos, hwidth, ?_, h, hwritten⟩
    rw [List.length_append, hdigits]
    exact Nat.le_add_right _ _

/-! ## Values -/

theorem length_le_write (tag : UInt8) (contents : Bytes) :
    contents.length ≤ (write tag contents).length := by
  simp [write]
  omega

/-- No part of a sequence is longer than the whole. -/
theorem length_le_sequence {values : List Bytes} {part : Bytes} (h : part ∈ values) :
    part.length ≤ (sequence values).length :=
  le_trans (List.sublist_flatten_of_mem h).length_le (length_le_write _ _)

theorem read?_write (htag : isTag tag = true) (h : contents.length ≤ maxLength) (rest : Bytes) :
    read? (write tag contents ++ rest) = some ⟨tag, contents, rest⟩ := by
  simp [write, read?, readLength?_write h (contents ++ rest), htag]

theorem readTag?_write (tag : UInt8) (htag : isTag tag = true) (h : contents.length ≤ maxLength)
    (rest : Bytes) : readTag? tag (write tag contents ++ rest) = some (contents, rest) := by
  simp [readTag?, read?_write htag h]

theorem toNat_naturalContents (value : Nat) : Bytes.toNat (naturalContents value) = value := by
  have hvalue := Bytes.toNat_ofNat value
  rw [naturalContents]
  cases hbytes : Bytes.ofNat value with
  | nil =>
    rw [hbytes] at hvalue
    exact hvalue
  | cons first rest =>
    rw [hbytes] at hvalue
    dsimp only
    split
    · exact hvalue
    · rw [Bytes.toNat_cons, hvalue]
      simp

theorem readNatural?_natural (h : (naturalContents value).length ≤ maxLength) (rest : Bytes) :
    readNatural? (natural value ++ rest) = some (value, rest) := by
  simp [readNatural?, natural, readTag?_write integerTag (by decide) h,
    toNat_naturalContents]

end Der

namespace Rsa

/-! ## Keys -/

theorem readNumbers?_natural {values : List Nat}
    (h : ∀ value ∈ values, (Der.naturalContents value).length ≤ Der.maxLength) :
    readNumbers? values.length (values.map Der.natural).flatten = some values := by
  induction values with
  | nil => rfl
  | cons value values ih =>
    have hvalue := h value List.mem_cons_self
    have hrest := ih fun other hother => h other (List.mem_cons_of_mem value hother)
    simp [readNumbers?, Der.readNatural?_natural hvalue, hrest]

/-- A private key whose numbers belong together comes back out of its distinguished encoding. -/
theorem PrivateKey.ofDer?_toDer {key : PrivateKey} (hkey : key.isConsistent = true)
    (h : key.toDer.length ≤ Der.maxLength) : ofDer? key.toDer = some key := by
  have hwhole : [Der.natural 0, Der.write Der.sequenceTag Der.rsaAlgorithm,
      Der.write Der.octetStringTag
        (Der.sequence (key.numbers.map Der.natural))].flatten.length ≤ Der.maxLength :=
    le_trans (Der.length_le_write _ _) h
  have hoctets : (Der.sequence (key.numbers.map Der.natural)).length ≤ Der.maxLength := by
    refine le_trans (Der.length_le_write Der.octetStringTag _) (le_trans ?_ h)
    exact Der.length_le_sequence (by simp)
  have hcontents : (key.numbers.map Der.natural).flatten.length ≤ Der.maxLength :=
    le_trans (Der.length_le_write _ _) hoctets
  have hnumbers : ∀ value ∈ key.numbers,
      (Der.naturalContents value).length ≤ Der.maxLength := by
    intro value hvalue
    refine le_trans (Der.length_le_write Der.integerTag _) (le_trans ?_ hoctets)
    exact Der.length_le_sequence (List.mem_map_of_mem hvalue)
  have houter : Der.privateKeyOctets? key.toDer =
      some (Der.sequence (key.numbers.map Der.natural)) := by
    have hread := Der.readTag?_write Der.sequenceTag (by decide) hwhole []
    rw [List.append_nil] at hread
    have hzero : (Der.naturalContents 0).length ≤ Der.maxLength := by decide
    have hversion := Der.readNatural?_natural hzero
    have hname : Der.rsaAlgorithm.length ≤ Der.maxLength := by decide
    have halgorithm := Der.readTag?_write Der.sequenceTag (by decide) hname
    have hkey := Der.readTag?_write Der.octetStringTag (by decide) hoctets []
    rw [List.append_nil] at hkey
    rw [Der.privateKeyOctets?, toDer, Der.sequence, hread]
    simp [hversion, halgorithm, hkey, Der.fitsVersion, Der.skipAttributes, Der.areExtensions]
  have hinner := Der.readTag?_write Der.sequenceTag (by decide) hcontents []
  rw [List.append_nil] at hinner
  have hread : readNumbers? 9 (key.numbers.map Der.natural).flatten = some key.numbers :=
    readNumbers?_natural hnumbers
  rw [ofDer?, houter, Option.bind_eq_bind, Option.bind_some, Der.sequence, hinner]
  simp [hread]
  simp [numbers, hkey]

end Rsa
end Possession
