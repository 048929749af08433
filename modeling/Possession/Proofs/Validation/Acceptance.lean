import Possession.Proofs.Algorithm
import Possession.Proofs.Thumbprint
import Possession.Proofs.Token
import Possession.Validation

/-!
# What is accepted

A token is accepted under exactly these conditions: it can be taken apart, its header names one of
the algorithms, its key is a usable RSA key, its signature verifies under that key, its key id is
the thumbprint of that key, and its claims are on time and meet the server's expectations.

Sums and differences of times stay inside 64 bits while they are computed. The conditions are on
unbounded integers nevertheless, for every clock and every timestamp of 64 bits.
-/

namespace Possession
namespace Validation

/-! ## Time -/

/-- Whether a timestamp is at most `maxLead` seconds ahead and not too old; an age that no 64-bit
difference exceeds is no bound. -/
def OnTime (maxAge : Nat) (now timestamp : Int) : Prop :=
  timestamp ≤ now + maxLead ∧ ((maxAge : Int) < Claims.maxTimestamp → now - timestamp ≤ maxAge)

/-- What it means for a timestamp not to be expired, with both limits in place. -/
theorem isExpired_eq_false_iff_saturate {maxAge : Nat} {now timestamp : Int} :
    isExpired maxAge now timestamp = false ↔
      saturate (now - timestamp) ≤ min (maxAge : Int) Claims.maxTimestamp ∧
        timestamp ≤ saturate (now + maxLead) := by
  simp [isExpired]

/-- A timestamp of 64 bits that is on time is not expired, whatever the clock shows. -/
theorem isExpired_of_onTime {maxAge : Nat} {now timestamp : Int}
    (hhigh : timestamp ≤ Claims.maxTimestamp) (h : OnTime maxAge now timestamp) :
    isExpired maxAge now timestamp = false := by
  have hmin : Claims.minTimestamp = -0x8000_0000_0000_0000 := rfl
  have hmax : Claims.maxTimestamp = 0x7fff_ffff_ffff_ffff := rfl
  rcases h with ⟨hlead, hage⟩
  rw [isExpired_eq_false_iff_saturate]
  -- a sum or difference beyond 64 bits stays at the end that it has passed
  unfold saturate
  omega

theorem isExpired_eq_false_iff {maxAge : Nat} {now timestamp : Int}
    (hnow : Claims.minTimestamp ≤ now) (hlow : Claims.minTimestamp ≤ timestamp)
    (hhigh : timestamp ≤ Claims.maxTimestamp) :
    isExpired maxAge now timestamp = false ↔ OnTime maxAge now timestamp := by
  constructor
  · intro h
    have hmin : Claims.minTimestamp = -0x8000_0000_0000_0000 := rfl
    have hmax : Claims.maxTimestamp = 0x7fff_ffff_ffff_ffff := rfl
    have hlead : maxLead = 5 := rfl
    rw [isExpired_eq_false_iff_saturate] at h
    -- the converse asks that the clock, too, is within 64 bits
    unfold saturate at h
    unfold OnTime
    omega
  · exact isExpired_of_onTime hhigh

/-! ## Expectations -/

/-- What a server expects of claims, apart from their time. -/
structure Meets (expectations : Expectations) (claims : Claims) : Prop where
  method : ∀ expected, expectations.method = some expected → claims.method = some expected
  authority : ∀ expected, expectations.authority = some expected →
    Ascii.eqIgnoringCase claims.authority expected = true
  path : ∀ expected, expectations.path = some expected → claims.path = some expected
  nonce : expectations.requireNonce = true → ∃ nonce, claims.nonce = some nonce ∧
    ∀ expected, expectations.nonce = some expected → nonce = expected
  accessToken : ∀ expected, expectations.accessToken = some expected →
    claims.accessToken = expected

theorem nonceRefusal?_eq_none_iff {expected actual : Option String} :
    nonceRefusal? expected actual = none ↔
      ∃ nonce, actual = some nonce ∧ ∀ wanted, expected = some wanted → nonce = wanted := by
  cases actual with
  | none => simp [nonceRefusal?]
  | some actual =>
    cases expected with
    | none => simp [nonceRefusal?]
    | some expected => simp [nonceRefusal?]

/-- Nothing is refused of claims that are on time and meet the expectations. -/
theorem claimsRefusal?_eq_none_iff {expectations : Expectations} {now : Int} {claims : Claims} :
    claimsRefusal? expectations now claims = none ↔
      isExpired expectations.maxAge now claims.timestamp = false ∧ Meets expectations claims := by
  have horElse (first second : Option Refusal) :
      (first <|> second) = none ↔ first = none ∧ second = none := by
    cases first <;> simp
  rcases expectations with ⟨maxAge, method, authority, path, requireNonce, nonce, accessToken⟩
  have hmeets : Meets ⟨maxAge, method, authority, path, requireNonce, nonce, accessToken⟩ claims ↔
      (∀ expected, method = some expected → claims.method = some expected) ∧
      (∀ expected, authority = some expected →
        Ascii.eqIgnoringCase claims.authority expected = true) ∧
      (∀ expected, path = some expected → claims.path = some expected) ∧
      (requireNonce = true → nonceRefusal? nonce claims.nonce = none) ∧
      (∀ expected, accessToken = some expected → claims.accessToken = expected) := by
    rw [nonceRefusal?_eq_none_iff]
    exact ⟨fun ⟨a, b, c, d, e⟩ => ⟨a, b, c, d, e⟩, fun ⟨a, b, c, d, e⟩ => ⟨a, b, c, d, e⟩⟩
  -- the checks come one after the other, and each is silent by itself
  rw [hmeets, claimsRefusal?]
  cases isExpired maxAge now claims.timestamp with
  | true => simp
  | false =>
    simp only [Bool.false_eq_true, if_false, horElse, true_and]
    refine and_congr ?_ (and_congr ?_ (and_congr ?_ (and_congr ?_ ?_)))
    · cases method <;> simp
    · cases authority <;> simp
    · cases path <;> simp
    · cases requireNonce <;> simp
    · cases accessToken <;> simp

/-! ## Tokens -/

/-- A token passes the checks on itself when its header names the algorithm, its key is usable and
verifies its signature, and its key id is the thumbprint of its key. -/
structure Authentic (token : Token) (algorithm : Algorithm) (thumbprint : String)
    (key : Rsa.PublicKey) : Prop where
  named : token.header.algorithm = algorithm.name
  usable : token.claims.confirmation.jwk.toKey = .ok key
  signed : algorithm.verify key (Utf8.encode token.signingInput) token.signature = true
  identified : token.header.keyId = thumbprint
  computed : thumbprint = Thumbprint.ofComponents token.claims.confirmation.jwk.modulus
    token.claims.confirmation.jwk.exponent

/-- A usable key has a thumbprint. -/
theorem ofJwk_of_toKey {jwk : Jwk} {key : Rsa.PublicKey} (h : jwk.toKey = .ok key) :
    Thumbprint.ofJwk jwk = .ok (Thumbprint.ofComponents jwk.modulus jwk.exponent) := by
  rw [Jwk.toKey, Outcome.bind_eq_ok_iff] at h
  rcases h with ⟨numbers, hcomponents, -⟩
  exact Thumbprint.ofJwk_eq_ok_iff.mpr ⟨⟨numbers, hcomponents⟩, rfl⟩

theorem authenticate_eq_ok_iff {text thumbprint : String} {token : Token} {algorithm : Algorithm} :
    authenticate text = .ok (token, algorithm, thumbprint) ↔
      Token.decode text = .ok token ∧ ∃ key, Authentic token algorithm thumbprint key := by
  constructor
  · intro h
    rw [authenticate, Outcome.bind_eq_ok_iff] at h
    rcases h with ⟨decoded, hdecode, h⟩
    rw [Outcome.mapError_eq_ok_iff] at hdecode
    cases hname : Algorithm.ofHeader? decoded.header.algorithm with
    | none => simp [hname] at h
    | some named =>
      simp only [hname, Outcome.bind_eq_ok_iff, Outcome.mapError_eq_ok_iff] at h
      rcases h with ⟨key, hkey, h⟩
      -- a key that is usable has a thumbprint, so this step cannot fail
      rw [ofJwk_of_toKey hkey, Outcome.mapError_ok, Outcome.ok_bind] at h
      split at h
      · cases h
      · rename_i hsigned
        split at h
        · cases h
        · rename_i hkeyId
          cases h
          refine ⟨hdecode, key, Algorithm.ofHeader?_eq_some_iff.mp hname, hkey, ?_, ?_, rfl⟩
          · simpa using hsigned
          · simpa using hkeyId
  · rintro ⟨hdecode, key, hauthentic⟩
    have hname := Algorithm.ofHeader?_eq_some_iff.mpr hauthentic.named
    have hthumbprint := ofJwk_of_toKey hauthentic.usable
    have hkeyId := hauthentic.identified
    rw [hauthentic.computed] at hkeyId ⊢
    simp [authenticate, hdecode, hname, hauthentic.usable, hauthentic.signed, hthumbprint, hkeyId]

end Validation

/-- A token is accepted when it can be taken apart, passes the checks on itself and has claims that
nothing is refused of. -/
theorem validate_eq_ok_iff {text : String} {expectations : Expectations} {now : Int}
    {accepted : Accepted} :
    validate text expectations now = .ok accepted ↔
      ∃ token key, Token.decode text = .ok token ∧
        Validation.Authentic token accepted.algorithm accepted.thumbprint key ∧
          accepted.claims = token.claims ∧
            Validation.isExpired expectations.maxAge now token.claims.timestamp = false ∧
              Validation.Meets expectations token.claims := by
  constructor
  · intro h
    rw [validate, Outcome.bind_eq_ok_iff] at h
    rcases h with ⟨⟨token, algorithm, thumbprint⟩, hauthenticate, h⟩
    rcases Validation.authenticate_eq_ok_iff.mp hauthenticate with ⟨hdecode, key, hauthentic⟩
    cases hrefusal : Validation.claimsRefusal? expectations now token.claims with
    | some refusal => simp [hrefusal] at h
    | none =>
      simp only [hrefusal, Outcome.pure_eq, Except.ok.injEq] at h
      subst h
      rcases Validation.claimsRefusal?_eq_none_iff.mp hrefusal with ⟨htime, hmeets⟩
      exact ⟨token, key, hdecode, hauthentic, rfl, htime, hmeets⟩
  · rintro ⟨token, key, hdecode, hauthentic, hclaims, htime, hmeets⟩
    have hauthenticate := Validation.authenticate_eq_ok_iff.mpr ⟨hdecode, key, hauthentic⟩
    have hrefusal := Validation.claimsRefusal?_eq_none_iff.mpr ⟨htime, hmeets⟩
    simp only [validate, hauthenticate, Outcome.ok_bind, hrefusal, Outcome.pure_eq]
    rw [← hclaims]

/-- The exact conditions under which a token is accepted at a time of 64 bits. -/
theorem exists_validate_eq_ok_iff (text : String) (expectations : Expectations) (now : Int64) :
    (∃ accepted, validate text expectations now.toInt = .ok accepted) ↔
      ∃ (headerBytes claimsBytes signature : Bytes) (header : Header) (claims : Claims)
        (algorithm : Algorithm) (modulus exponent : Bytes) (key : Rsa.PublicKey),
        -- three segments, none of them empty, of which the first two are read
        (text = Base64.url.encode headerBytes ++ "." ++ Base64.url.encode claimsBytes ++ "." ++
            Base64.url.encode signature ∧
          (headerBytes ≠ [] ∧ claimsBytes ≠ [] ∧ signature ≠ []) ∧
          Header.ofJson headerBytes = .ok header ∧ Claims.ofJson claimsBytes = .ok claims) ∧
        -- the header's name of an algorithm
        header.algorithm = algorithm.name ∧
        -- a usable key
        (claims.confirmation.jwk =
            ⟨"RSA", Base64.url.encode modulus, Base64.url.encode exponent⟩ ∧
          Rsa.PublicKey.make (Bytes.toNat modulus) (Bytes.toNat exponent) = .ok key) ∧
        -- its signature over the text before the second dot, and its thumbprint
        algorithm.verify key
          (Utf8.encode (Base64.url.encode headerBytes ++ "." ++ Base64.url.encode claimsBytes))
          signature = true ∧
        header.keyId = Thumbprint.ofComponents claims.confirmation.jwk.modulus
          claims.confirmation.jwk.exponent ∧
        -- time, over unbounded integers
        (claims.timestamp ≤ now.toInt + 5 ∧
          ((expectations.maxAge : Int) < 2 ^ 63 - 1 →
            now.toInt - claims.timestamp ≤ expectations.maxAge)) ∧
        Validation.Meets expectations claims := by
  have hnow : Claims.minTimestamp ≤ now.toInt := now.le_toInt
  constructor
  · rintro ⟨accepted, h⟩
    rcases validate_eq_ok_iff.mp h with ⟨token, key, hdecode, hauthentic, -, htime, hmeets⟩
    rcases Token.decode_eq_ok_iff.mp hdecode with
      ⟨headerBytes, claimsBytes, hne, hinput, htext, hheader, hclaims⟩
    rcases Jwk.toKey_eq_ok_iff.mp hauthentic.usable with ⟨modulus, exponent, hjwk, -, hmake⟩
    rcases Claims.timestamp_bounds hclaims with ⟨hlow, hhigh⟩
    have hkeyId : token.header.keyId = Thumbprint.ofComponents
        token.claims.confirmation.jwk.modulus token.claims.confirmation.jwk.exponent := by
      rw [hauthentic.identified, hauthentic.computed]
    have hsigned := hauthentic.signed
    rw [hinput] at hsigned htext
    exact ⟨headerBytes, claimsBytes, token.signature, token.header, token.claims,
      accepted.algorithm, modulus, exponent, key, ⟨htext, hne, hheader, hclaims⟩,
      hauthentic.named, ⟨hjwk, hmake⟩, hsigned, hkeyId,
      (Validation.isExpired_eq_false_iff hnow hlow hhigh).mp htime, hmeets⟩
  · rintro ⟨headerBytes, claimsBytes, signature, header, claims, algorithm, modulus, exponent, key,
      ⟨htext, hne, hheader, hclaims⟩, hname, ⟨hjwk, hmake⟩, hsigned, hkeyId, htime, hmeets⟩
    have hdecode : Token.decode text = .ok ⟨header, claims,
        Base64.url.encode headerBytes ++ "." ++ Base64.url.encode claimsBytes, signature⟩ :=
      Token.decode_eq_ok_iff.mpr
        ⟨headerBytes, claimsBytes, hne, rfl, htext, hheader, hclaims⟩
    -- the octets of modulus and exponent are not empty, because no usable key is zero
    have hnumbers : modulus ≠ [] ∧ exponent ≠ [] := by
      rcases Rsa.PublicKey.make_eq_ok_iff.mp hmake with ⟨rfl, hfault⟩
      rcases Rsa.PublicKey.exponent_lt_modulus hfault with ⟨hpositive, hlt⟩
      constructor
      · rintro rfl
        exact absurd hlt (Nat.not_lt_zero _)
      · rintro rfl
        exact absurd hpositive (Nat.lt_irrefl 0)
    have hkey := Jwk.toKey_eq_ok_iff.mpr ⟨modulus, exponent, hjwk, hnumbers, hmake⟩
    have hhigh := (Claims.timestamp_bounds hclaims).2
    exact ⟨⟨algorithm, _, claims⟩, validate_eq_ok_iff.mpr
      ⟨_, key, hdecode, ⟨hname, hkey, hsigned, hkeyId, rfl⟩, rfl,
        Validation.isExpired_of_onTime hhigh htime, hmeets⟩⟩

end Possession
