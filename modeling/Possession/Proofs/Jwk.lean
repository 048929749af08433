import Possession.Jwk
import Possession.Proofs.Base64
import Possession.Proofs.Json.Record

/-!
# Keys in JSON

The JSON form of a key is read back as it was written, and a usable key is found again in its JSON
form. A JSON form denotes a key exactly when its type is RSA and its numbers are base64url texts of
non-empty octet strings that make a usable key.
-/

namespace Possession

/-! ## Usable keys -/

namespace Rsa.PublicKey

theorem make_eq_ok_iff {modulus exponent : Nat} {key : PublicKey} :
    make modulus exponent = .ok key ↔ key = ⟨modulus, exponent⟩ ∧ key.fault? = none := by
  rw [make]
  constructor
  · intro h
    -- the key is made first and then asked for a fault
    split at h
    · cases h
    · rename_i hnone
      cases h
      exact ⟨rfl, hnone⟩
  · rintro ⟨rfl, hnone⟩
    rw [hnone]

/-- The conditions on a usable key. The exponent is bounded twice, and the second bound is the
tighter one. -/
theorem fault?_eq_none_iff {key : PublicKey} :
    key.fault? = none ↔
      key.bits ≤ maxModulusBits ∧ key.exponent < key.modulus ∧ key.modulus % 2 = 1 ∧
        key.exponent % 2 = 1 ∧ 2 ≤ key.exponent ∧ key.exponent ≤ maxExponent := by
  -- an exponent of at most 33 bits has at most 64
  have hsmall : key.exponent ≤ maxExponent → bitLength key.exponent ≤ 64 := by
    intro hle
    have hlt : key.exponent < 2 ^ 64 := lt_of_le_of_lt hle (by decide)
    unfold bitLength
    split
    · exact Nat.zero_le _
    · rename_i hzero
      exact Nat.succ_le_of_lt ((Nat.log2_lt hzero).mpr hlt)
  rw [fault?, shapeFault?]
  split_ifs <;> simp only [false_iff, true_iff] <;> omega

theorem exponent_lt_modulus {key : PublicKey} (h : key.fault? = none) :
    0 < key.exponent ∧ key.exponent < key.modulus := by
  rcases fault?_eq_none_iff.mp h with ⟨-, hlt, -, -, hexponent, -⟩
  exact ⟨by omega, hlt⟩

theorem positive_of_shapeFault? {key : PublicKey} (h : key.shapeFault? = none) :
    0 < key.modulus ∧ 0 < key.exponent := by
  rw [shapeFault?] at h
  split_ifs at h
  omega

end Rsa.PublicKey

open Json

/-! ## Numbers -/

namespace Jwk

theorem decodeMember_eq_ok_iff {name text : String} {bytes : Bytes} :
    decodeMember name text = .ok bytes ↔ text = Base64.url.encode bytes ∧ bytes ≠ [] := by
  rw [← Base64.decode_eq_ok_iff Base64.proper_url, decodeMember]
  by_cases hempty : text.isEmpty
  -- the empty text is refused although it is the text of no octets
  · have hnone : Base64.url.decode text = .ok bytes → bytes = [] := by
      intro hdecode
      rw [Base64.decode_eq_ok_iff Base64.proper_url] at hdecode
      rw [← Base64.encode_eq_empty_iff, ← hdecode]
      exact String.isEmpty_iff.mp hempty
    rw [if_pos hempty]
    simp only [reduceCtorEq, false_iff, not_and, not_not]
    exact hnone
  · have hsome : Base64.url.decode text = .ok bytes → bytes ≠ [] := by
      rintro hdecode rfl
      rw [Base64.decode_eq_ok_iff Base64.proper_url] at hdecode
      exact hempty (String.isEmpty_iff.mpr hdecode)
    rw [if_neg hempty]
    cases hdecode : Base64.url.decode text with
    | ok decoded =>
      rw [hdecode] at hsome
      simpa using fun h => hsome (by rw [h])
    | error fault => simp

theorem components_eq_ok_iff {jwk : Jwk} {modulus exponent : Bytes} :
    jwk.components = .ok (modulus, exponent) ↔
      jwk = rsa (Base64.url.encode modulus) (Base64.url.encode exponent) ∧
        modulus ≠ [] ∧ exponent ≠ [] := by
  rcases jwk with ⟨keyType, modulusText, exponentText⟩
  rw [components]
  by_cases htype : keyType = "RSA"
  · simp only [htype, ne_eq, not_true, if_false, Outcome.bind_eq_ok_iff, Outcome.pure_eq,
      decodeMember_eq_ok_iff, rsa, Jwk.mk.injEq]
    -- what is left is to sort the conjuncts of the two numbers
    grind
  · simp [htype, rsa]

/-- A JSON form denotes a key when its numbers are texts of octets that make the key. -/
theorem toKey_eq_ok_iff {jwk : Jwk} {key : Rsa.PublicKey} :
    jwk.toKey = .ok key ↔
      ∃ modulus exponent : Bytes,
        jwk = rsa (Base64.url.encode modulus) (Base64.url.encode exponent) ∧
          (modulus ≠ [] ∧ exponent ≠ []) ∧
            Rsa.PublicKey.make (Bytes.toNat modulus) (Bytes.toNat exponent) = .ok key := by
  rw [toKey, Outcome.bind_eq_ok_iff]
  constructor
  · rintro ⟨⟨modulus, exponent⟩, hcomponents, hkey⟩
    rcases components_eq_ok_iff.mp hcomponents with ⟨hjwk, hne⟩
    cases hmake : Rsa.PublicKey.make (Bytes.toNat modulus) (Bytes.toNat exponent) with
    | ok made =>
      simp only [hmake, Outcome.pure_eq, Except.ok.injEq] at hkey
      exact ⟨modulus, exponent, hjwk, hne, by rw [hmake, hkey]⟩
    | error fault => simp [hmake] at hkey
  · rintro ⟨modulus, exponent, hjwk, hne, hkey⟩
    exact ⟨(modulus, exponent), components_eq_ok_iff.mpr ⟨hjwk, hne⟩, by simp [hkey]⟩

/-- The JSON form of a key without a zero among its numbers has their shortest octets as
components. -/
theorem components_ofKey_of_pos {key : Rsa.PublicKey} (hmodulus : 0 < key.modulus)
    (hexponent : 0 < key.exponent) :
    (ofKey key).components = .ok (Bytes.ofNat key.modulus, Bytes.ofNat key.exponent) :=
  components_eq_ok_iff.mpr
    ⟨rfl, Bytes.ofNat_ne_nil (Nat.ne_of_gt hmodulus), Bytes.ofNat_ne_nil (Nat.ne_of_gt hexponent)⟩

theorem components_ofKey {key : Rsa.PublicKey} (h : key.fault? = none) :
    (ofKey key).components = .ok (Bytes.ofNat key.modulus, Bytes.ofNat key.exponent) := by
  rcases Rsa.PublicKey.exponent_lt_modulus h with ⟨hexponent, hmodulus⟩
  exact components_ofKey_of_pos (lt_trans hexponent hmodulus) hexponent

/-- A usable key is found again in its JSON form. -/
theorem toKey_ofKey {key : Rsa.PublicKey} (h : key.fault? = none) :
    (ofKey key).toKey = .ok key := by
  rcases components_eq_ok_iff.mp (components_ofKey h) with ⟨hjwk, hne⟩
  refine toKey_eq_ok_iff.mpr ⟨_, _, hjwk, hne, ?_⟩
  -- the shortest octets of a number denote the number
  rw [Bytes.toNat_ofNat, Bytes.toNat_ofNat]
  exact Rsa.PublicKey.make_eq_ok_iff.mpr ⟨rfl, h⟩

/-- The JSON form of a key with a zero among its numbers has no components. -/
theorem positive_of_components {key : Rsa.PublicKey} {numbers : Bytes × Bytes}
    (h : (ofKey key).components = .ok numbers) : 0 < key.modulus ∧ 0 < key.exponent := by
  rcases components_eq_ok_iff.mp h with ⟨hsame, hmodulus, hexponent⟩
  have htexts := Jwk.mk.inj hsame
  have hzero {value : Nat} {bytes : Bytes} (hne : bytes ≠ [])
      (htext : number value = Base64.url.encode bytes) : 0 < value := by
    have hbytes : Bytes.ofNat value = bytes := Base64.encode_injective Base64.proper_url htext
    rw [Nat.pos_iff_ne_zero]
    rintro rfl
    exact hne (hbytes.symm.trans rfl)
  exact ⟨hzero hmodulus htexts.2.1, hzero hexponent htexts.2.2⟩

/-- A key that is not usable is refused in its JSON form, if its numbers are not zero. -/
theorem toKey_ofKey_of_fault {key : Rsa.PublicKey} {fault : Rsa.Fault} (hmodulus : 0 < key.modulus)
    (hexponent : 0 < key.exponent) (h : key.fault? = some fault) :
    (ofKey key).toKey = .error (.invalidJwk fault.message) := by
  rw [toKey, components_ofKey_of_pos hmodulus hexponent, Outcome.ok_bind]
  dsimp only
  rw [Bytes.toNat_ofNat, Bytes.toNat_ofNat, Rsa.PublicKey.make, h]
  rfl

end Jwk

/-! ## JSON -/

namespace Jwk

/-- A key reads back from its JSON form. -/
theorem reads_toJson (jwk : Jwk) :
    Reads shape.read jwk.toJson
      (.record [.text jwk.keyType, .text jwk.modulus, .text jwk.exponent]) := by
  have hslots : Fills shape.members [none, none, none]
      [("kty", writeText jwk.keyType), ("n", writeText jwk.modulus), ("e", writeText jwk.exponent)]
      [some (.text jwk.keyType), some (.text jwk.modulus), some (.text jwk.exponent)] := by
    refine Fills.next rfl rfl rfl (reads_text _) ?_
    refine Fills.next rfl rfl rfl (reads_text _) ?_
    refine Fills.next rfl rfl rfl (reads_text _) ?_
    exact Fills.done _
  exact reads_record hslots rfl

theorem ofJson_toJson (jwk : Jwk) : ofJson (Utf8.encode jwk.toJson) = .ok jwk := by
  rw [ofJson, Json.Shape.decode, Json.readWholeText_of_reads jwk.reads_toJson]
  rfl

end Jwk

namespace Confirmation

theorem reads_toJson (confirmation : Confirmation) :
    Reads shape.read confirmation.toJson
      (.record [.record [.text confirmation.jwk.keyType, .text confirmation.jwk.modulus,
        .text confirmation.jwk.exponent]]) := by
  have hslots : Fills shape.members [none] [("jwk", confirmation.jwk.toJson)]
      [some (.record [.text confirmation.jwk.keyType, .text confirmation.jwk.modulus,
        .text confirmation.jwk.exponent])] := by
    refine Fills.next rfl rfl rfl (Jwk.reads_toJson confirmation.jwk) ?_
    exact Fills.done _
  exact reads_record hslots rfl

end Confirmation

end Possession
