import Possession.Proofs.Validation.Minted

/-!
# Keys behind a binding

An access token is bound to a thumbprint. Two requests that pass under one binding carry the same
key, unless somebody has found two canonical texts of one hash value. What makes the canonical text
of a key unambiguous is that the numbers of an accepted key are base64url texts.
-/

namespace Possession

theorem verifyBinding_eq_ok_iff {request bound : String} :
    verifyBinding request bound = .ok () ↔ request = bound := by
  rw [verifyBinding]
  split
  · rename_i hsame
    simp [hsame]
  · rename_i hdiffer
    simp [hdiffer]

namespace Jwk

/-- The canonical text of a usable key determines the key's JSON form. -/
theorem eq_of_canonical {first second : Jwk} {firstKey secondKey : Rsa.PublicKey}
    (hfirst : first.toKey = .ok firstKey) (hsecond : second.toKey = .ok secondKey)
    (h : Thumbprint.canonical first.modulus first.exponent =
      Thumbprint.canonical second.modulus second.exponent) : first = second := by
  rcases toKey_eq_ok_iff.mp hfirst with ⟨modulus, exponent, rfl, -, -⟩
  rcases toKey_eq_ok_iff.mp hsecond with ⟨modulus', exponent', rfl, -, -⟩
  -- base64url texts hold no quote, so the unescaped text falls apart in one way
  rcases Thumbprint.canonical_injective (Thumbprint.quote_not_mem_encode exponent)
    (Thumbprint.quote_not_mem_encode exponent') h with ⟨hmodulus, hexponent⟩
  simp only [rsa] at hmodulus hexponent ⊢
  rw [hmodulus, hexponent]

end Jwk

namespace Thumbprint

/-- Equal thumbprints are equal hash values of the canonical texts. -/
theorem hash_eq_of_ofComponents {modulus exponent modulus' exponent' : String}
    (h : ofComponents modulus exponent = ofComponents modulus' exponent') :
    Digest.sha256.hash (Utf8.encode (canonical modulus exponent)) =
      Digest.sha256.hash (Utf8.encode (canonical modulus' exponent')) :=
  Base64.encode_injective Base64.proper_url h

end Thumbprint

/-- Two accepted tokens that pass under one binding carry the same key, which verified both
signatures, or their keys' canonical texts are a collision of SHA-256. -/
theorem jwk_eq_or_collision {first second bound : String}
    {firstExpectations secondExpectations : Expectations} {firstNow secondNow : Int}
    {firstAccepted secondAccepted : Accepted}
    (hfirst : validate first firstExpectations firstNow = .ok firstAccepted)
    (hsecond : validate second secondExpectations secondNow = .ok secondAccepted)
    (hfirstBound : verifyBinding firstAccepted.thumbprint bound = .ok ())
    (hsecondBound : verifyBinding secondAccepted.thumbprint bound = .ok ()) :
    let firstJwk := firstAccepted.claims.confirmation.jwk
    let secondJwk := secondAccepted.claims.confirmation.jwk
    (firstJwk = secondJwk ∧
      ∃ key firstToken secondToken, firstJwk.toKey = .ok key ∧
        (Token.decode first = .ok firstToken ∧
          firstAccepted.algorithm.verify key (Utf8.encode firstToken.signingInput)
            firstToken.signature = true) ∧
        (Token.decode second = .ok secondToken ∧
          secondAccepted.algorithm.verify key (Utf8.encode secondToken.signingInput)
            secondToken.signature = true)) ∨
    (Thumbprint.canonical firstJwk.modulus firstJwk.exponent ≠
        Thumbprint.canonical secondJwk.modulus secondJwk.exponent ∧
      Digest.sha256.hash (Utf8.encode
          (Thumbprint.canonical firstJwk.modulus firstJwk.exponent)) =
        Digest.sha256.hash (Utf8.encode
          (Thumbprint.canonical secondJwk.modulus secondJwk.exponent))) := by
  intro firstJwk secondJwk
  rcases validate_eq_ok_iff.mp hfirst with
    ⟨firstToken, firstKey, hfirstDecode, hfirstAuthentic, hfirstClaims, -⟩
  rcases validate_eq_ok_iff.mp hsecond with
    ⟨secondToken, secondKey, hsecondDecode, hsecondAuthentic, hsecondClaims, -⟩
  have hfirstUsable : firstJwk.toKey = .ok firstKey := by
    change firstAccepted.claims.confirmation.jwk.toKey = .ok firstKey
    rw [hfirstClaims]
    exact hfirstAuthentic.usable
  have hsecondUsable : secondJwk.toKey = .ok secondKey := by
    change secondAccepted.claims.confirmation.jwk.toKey = .ok secondKey
    rw [hsecondClaims]
    exact hsecondAuthentic.usable
  by_cases hcanonical : Thumbprint.canonical firstJwk.modulus firstJwk.exponent =
      Thumbprint.canonical secondJwk.modulus secondJwk.exponent
  · left
    -- one canonical text: the same JSON form, hence the same key
    have hjwk : firstJwk = secondJwk := Jwk.eq_of_canonical hfirstUsable hsecondUsable hcanonical
    have hkey : firstKey = secondKey := by
      rw [hjwk, hsecondUsable] at hfirstUsable
      exact (Except.ok.inj hfirstUsable).symm
    refine ⟨hjwk, firstKey, firstToken, secondToken, hfirstUsable, ?_, ?_⟩
    · exact ⟨hfirstDecode, hfirstAuthentic.signed⟩
    · exact ⟨hsecondDecode, hkey ▸ hsecondAuthentic.signed⟩
  · right
    refine ⟨hcanonical, Thumbprint.hash_eq_of_ofComponents ?_⟩
    -- both thumbprints are the one that the access token is bound to
    have hfirstThumbprint := hfirstAuthentic.computed
    have hsecondThumbprint := hsecondAuthentic.computed
    rw [verifyBinding_eq_ok_iff.mp hfirstBound, ← hfirstClaims] at hfirstThumbprint
    rw [verifyBinding_eq_ok_iff.mp hsecondBound, ← hsecondClaims] at hsecondThumbprint
    exact hfirstThumbprint.symm.trans hsecondThumbprint

theorem sample_jwk_eq_or_collision :
    ∃ text first second,
      (validate text .standard 10 = .ok first ∧
        validate text ⟨5, some "GET", none, none, false, none, none⟩ 7 = .ok second) ∧
      (verifyBinding first.thumbprint Client.sample.thumbprint = .ok () ∧
        verifyBinding second.thumbprint Client.sample.thumbprint = .ok ()) ∧
      (first.claims.confirmation.jwk = second.claims.confirmation.jwk ∨
        Thumbprint.canonical first.claims.confirmation.jwk.modulus
            first.claims.confirmation.jwk.exponent ≠
          Thumbprint.canonical second.claims.confirmation.jwk.modulus
            second.claims.confirmation.jwk.exponent) := by
  rcases Client.sample_sign with ⟨signature, hsign⟩
  have hfirst := Client.validate_join .standard 10
    Client.sample_usable nofun hsign (by decide) (by decide) ⟨by decide, by decide⟩
    ⟨nofun, nofun, nofun, nofun, nofun⟩
  have hsecond := Client.validate_join ⟨5, some "GET", none, none, false, none, none⟩ 7
    Client.sample_usable nofun hsign (by decide) (by decide) ⟨by decide, by decide⟩
    ⟨fun _ h => h, nofun, nofun, nofun, nofun⟩
  have hbound : verifyBinding Client.sample.thumbprint Client.sample.thumbprint = .ok () :=
    verifyBinding_eq_ok_iff.mpr rfl
  refine ⟨_, _, _, ⟨hfirst, hsecond⟩, ⟨hbound, hbound⟩, ?_⟩
  exact (jwk_eq_or_collision hfirst hsecond hbound hbound).imp And.left And.left

end Possession
