import Possession.Proofs.Validation.KeyBinding

/-!
# Thumbprints of keys and of their JSON forms

The thumbprint of a key is taken of the shortest texts of its numbers, that of a JSON form of the
texts that stand in it. A JSON form whose numbers have zeros in front denotes a key too, but its
texts are others, so the two thumbprints differ unless the hash function has a collision. They agree
where no number has a zero in front, and there a key has only one JSON form.
-/

namespace Possession

namespace Jwk

/-- Whether the numbers of a JSON form are texts of octets without a zero in front. -/
def isShortest (jwk : Jwk) : Bool :=
  match jwk.components with
  | .ok (modulus, exponent) => modulus.head? != some 0 && exponent.head? != some 0
  | .error _ => false

/-- The JSON form in which a key is written is the one whose numbers have no zero in front. -/
theorem eq_ofKey_iff {jwk : Jwk} {key : Rsa.PublicKey} (h : jwk.toKey = .ok key) :
    jwk = ofKey key ↔ jwk.isShortest = true := by
  rcases toKey_eq_ok_iff.mp h with ⟨modulus, exponent, hjwk, hne, hmake⟩
  have hcomponents : jwk.components = .ok (modulus, exponent) :=
    components_eq_ok_iff.mpr ⟨hjwk, hne⟩
  have hkey : key = ⟨Bytes.toNat modulus, Bytes.toNat exponent⟩ :=
    (Rsa.PublicKey.make_eq_ok_iff.mp hmake).1
  have hnumber (bytes : Bytes) : Base64.url.encode bytes = number (Bytes.toNat bytes) ↔
      bytes.head? ≠ some 0 := by
    rw [← Bytes.ofNat_toNat_iff, number]
    constructor
    · intro htext
      exact (Base64.encode_injective Base64.proper_url htext).symm
    · intro hbytes
      rw [hbytes]
  have hforms : jwk = ofKey key ↔ Base64.url.encode modulus = number (Bytes.toNat modulus) ∧
      Base64.url.encode exponent = number (Bytes.toNat exponent) := by
    rw [hjwk, hkey, ofKey]
    simp [rsa]
  rw [hforms, hnumber, hnumber, isShortest, hcomponents]
  simp

end Jwk

namespace Thumbprint

/-- Whether the canonical texts of two JSON forms are different texts of one hash value. -/
def Collide (first second : Jwk) : Prop :=
  canonical first.modulus first.exponent ≠ canonical second.modulus second.exponent ∧
    Digest.sha256.hash (Utf8.encode (canonical first.modulus first.exponent)) =
      Digest.sha256.hash (Utf8.encode (canonical second.modulus second.exponent))

/-- Two JSON forms of usable keys have one thumbprint when they are the same or collide. -/
theorem ofComponents_eq_iff {first second : Jwk} {firstKey secondKey : Rsa.PublicKey}
    (hfirst : first.toKey = .ok firstKey) (hsecond : second.toKey = .ok secondKey) :
    ofComponents first.modulus first.exponent = ofComponents second.modulus second.exponent ↔
      first = second ∨ Collide first second := by
  constructor
  · intro h
    by_cases hcanonical : canonical first.modulus first.exponent =
        canonical second.modulus second.exponent
    · exact .inl (Jwk.eq_of_canonical hfirst hsecond hcanonical)
    · exact .inr ⟨hcanonical, hash_eq_of_ofComponents h⟩
  · rintro (rfl | ⟨-, hhash⟩)
    · rfl
    · rw [ofComponents, ofComponents, hhash]

/-- The thumbprint of a key's JSON form is that of the key when no number has a zero in front, and
apart from that only by a collision. -/
theorem eq_ofKey_iff {jwk : Jwk} {key : Rsa.PublicKey} (h : jwk.toKey = .ok key) :
    ofComponents jwk.modulus jwk.exponent = ofKey key ↔
      jwk.isShortest = true ∨ Collide jwk (Jwk.ofKey key) := by
  have hfault : key.fault? = none := by
    rcases Jwk.toKey_eq_ok_iff.mp h with ⟨_, _, -, -, hmake⟩
    rcases Rsa.PublicKey.make_eq_ok_iff.mp hmake with ⟨rfl, hfault⟩
    exact hfault
  have hnumbers : ofKey key =
      ofComponents (Jwk.ofKey key).modulus (Jwk.ofKey key).exponent := by
    rw [ofKey, Jwk.ofKey, Jwk.rsa]
  rw [← Jwk.eq_ofKey_iff h, hnumbers]
  exact ofComponents_eq_iff h (Jwk.toKey_ofKey hfault)

end Thumbprint

/-- When the thumbprint of a JSON form is a function of the key that it denotes. Every JSON form of
a usable key has a thumbprint. It is the thumbprint that the holder of the key computes, and the one
that is reported of an accepted token, exactly if no number has a zero in front or there is a
collision of the hash function; two JSON forms of one key without such zeros have one thumbprint. -/
theorem thumbprint_of_toKey {jwk : Jwk} {key : Rsa.PublicKey} (h : jwk.toKey = .ok key) :
    (∃ thumbprint, Thumbprint.ofJwk jwk = .ok thumbprint ∧
      (thumbprint = Thumbprint.ofKey key ↔
        jwk.isShortest = true ∨ Thumbprint.Collide jwk (Jwk.ofKey key))) ∧
    (∀ other : Jwk, other.toKey = .ok key → jwk.isShortest = true → other.isShortest = true →
      Thumbprint.ofJwk jwk = Thumbprint.ofJwk other) ∧
    (∀ text expectations now accepted, validate text expectations now = .ok accepted →
      accepted.claims.confirmation.jwk = jwk →
        (accepted.thumbprint = Thumbprint.ofKey key ↔
          jwk.isShortest = true ∨ Thumbprint.Collide jwk (Jwk.ofKey key))) := by
  refine ⟨⟨_, Validation.ofJwk_of_toKey h, Thumbprint.eq_ofKey_iff h⟩, ?_, ?_⟩
  · intro other hother hshortest hotherShortest
    -- both are the form in which the key is written
    rw [(Jwk.eq_ofKey_iff h).mpr hshortest, (Jwk.eq_ofKey_iff hother).mpr hotherShortest]
  · rintro text expectations now accepted hvalid rfl
    rcases validate_eq_ok_iff.mp hvalid with ⟨token, _, -, hauthentic, hclaims, -⟩
    rw [hauthentic.computed, ← hclaims]
    exact Thumbprint.eq_ofKey_iff h

/-! ## A key with two thumbprints -/

/-- The JSON form of a key with a zero in front of its exponent. -/
def Jwk.padded : Jwk :=
  .rsa "Iw" "AAM"

/-- The key that the padded form denotes. -/
def Jwk.paddedKey : Rsa.PublicKey :=
  ⟨35, 3⟩

theorem Jwk.padded_components : padded.components = .ok ([35], [0, 3]) :=
  components_eq_ok_iff.mpr ⟨rfl, by decide, by decide⟩

theorem Jwk.padded_toKey : padded.toKey = .ok paddedKey := by
  have hfault : paddedKey.fault? = none := by
    simp [Rsa.PublicKey.fault?, Rsa.PublicKey.shapeFault?, Rsa.PublicKey.bits, Rsa.bitLength,
      Nat.log2_def, Rsa.maxModulusBits, Rsa.maxExponent, paddedKey]
  exact toKey_eq_ok_iff.mpr ⟨[35], [0, 3], rfl, ⟨by decide, by decide⟩,
    Rsa.PublicKey.make_eq_ok_iff.mpr ⟨rfl, hfault⟩⟩

theorem Jwk.padded_hash_ne :
    Digest.sha256.hash (Utf8.encode (Thumbprint.canonical padded.modulus padded.exponent)) ≠
      Digest.sha256.hash (Utf8.encode
        (Thumbprint.canonical (ofKey paddedKey).modulus (ofKey paddedKey).exponent)) := by
  decide +kernel

/-- The padded form has another thumbprint than its key. -/
theorem not_forall_ofJwk_eq_ofKey :
    ¬ ∀ (jwk : Jwk) (key : Rsa.PublicKey), jwk.toKey = .ok key →
      Thumbprint.ofJwk jwk = .ok (Thumbprint.ofKey key) := by
  intro h
  have hsame := h _ _ Jwk.padded_toKey
  rw [Validation.ofJwk_of_toKey Jwk.padded_toKey, Except.ok.injEq] at hsame
  exact Jwk.padded_hash_ne (Thumbprint.hash_eq_of_ofComponents hsame)

/-- The padded form is not the shortest, and has no collision with the one that is. -/
theorem padded_thumbprint :
    Jwk.padded.toKey = .ok Jwk.paddedKey ∧
      ∃ thumbprint, Thumbprint.ofJwk Jwk.padded = .ok thumbprint ∧
        thumbprint ≠ Thumbprint.ofKey Jwk.paddedKey := by
  rcases (thumbprint_of_toKey Jwk.padded_toKey).1 with ⟨thumbprint, hthumbprint, hiff⟩
  refine ⟨Jwk.padded_toKey, thumbprint, hthumbprint, ?_⟩
  rw [ne_eq, hiff, not_or]
  constructor
  · rw [Jwk.isShortest, Jwk.padded_components]
    decide
  · rintro ⟨-, hhash⟩
    exact Jwk.padded_hash_ne hhash

end Possession
