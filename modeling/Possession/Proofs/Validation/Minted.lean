import Possession.Proofs.Mint
import Possession.Proofs.Validation.Acceptance

/-!
# Minted tokens are accepted

What a client mints, a server accepts: the token is taken apart into the header and the claims that
were put in, the key in the claims is the client's key again and has the client's thumbprint, and
the signature verifies. What is left to require is what depends on the server: the time and its
expectations.
-/

namespace Possession

namespace Client

/-- The text that a client signs for a request. -/
def signingInput (client : Client) (request : Request) (target : Target) : String :=
  Token.signingInputOf (Mint.header client.algorithm client.thumbprint)
    (Mint.claims request target client.publicJwk)

variable {client : Client} {salt signature : Bytes} {request : Request} {target : Target}

theorem mint_eq_ok (hkey : client.key.publicKey.fault? = none)
    (htarget : Target.parse request.url = .ok target)
    (hsign : client.algorithm.sign client.key salt
      (Utf8.encode (client.signingInput request target)) = .ok signature) :
    client.mint salt request = .ok (Token.join (client.signingInput request target) signature) := by
  have hform : client.publicJwk.IsWellFormed :=
    (Thumbprint.ofJwk_eq_ok_iff_isWellFormed.mp (Thumbprint.ofJwk_ofKey hkey)).1
  refine mint_eq_ok_iff.mpr ⟨target, client.publicJwk, signature, htarget, rfl, hform, ?_, rfl⟩
  exact Outcome.mapError_eq_ok_iff.mpr hsign

/-- A token that a client put together and signed is taken apart into what the client put in, and its
signature verifies. -/
theorem decode_join (client : Client) (hmodulus : 0 < client.key.modulus)
    (hsalt : client.algorithm.padding = .salted → salt.length = client.algorithm.saltSize)
    (hsign : client.algorithm.sign client.key salt
      (Utf8.encode (client.signingInput request target)) = .ok signature)
    (hlow : Claims.minTimestamp ≤ request.timestamp)
    (hhigh : request.timestamp ≤ Claims.maxTimestamp) :
    client.algorithm.verify client.key.publicKey
        (Utf8.encode (client.signingInput request target)) signature = true ∧
      Token.decode (Token.join (client.signingInput request target) signature) =
        .ok ⟨Mint.header client.algorithm client.thumbprint,
          Mint.claims request target client.publicJwk, client.signingInput request target,
          signature⟩ := by
  rcases Algorithm.verify_sign hmodulus hsalt hsign with ⟨hsize, hverify⟩
  -- a signature is as long as the modulus, so its segment is not empty
  have hsignature : signature ≠ [] := by
    intro hnil
    have hpositive : 0 < client.key.publicKey.size := Rsa.PublicKey.size_pos hmodulus
    rw [hnil] at hsize
    exact absurd hsize (Nat.ne_of_lt hpositive)
  exact ⟨hverify, Token.decode_join _ _ hlow hhigh hsignature⟩

/-- A token that a client put together and signed is accepted if its claims are on time and meet the
server's expectations. -/
theorem validate_join (expectations : Expectations) (now : Int)
    (hkey : client.key.publicKey.fault? = none)
    (hsalt : client.algorithm.padding = .salted → salt.length = client.algorithm.saltSize)
    (hsign : client.algorithm.sign client.key salt
      (Utf8.encode (client.signingInput request target)) = .ok signature)
    (hlow : Claims.minTimestamp ≤ request.timestamp)
    (hhigh : request.timestamp ≤ Claims.maxTimestamp)
    (htime : Validation.OnTime expectations.maxAge now request.timestamp)
    (hmeets : Validation.Meets expectations (Mint.claims request target client.publicJwk)) :
    validate (Token.join (client.signingInput request target) signature) expectations now =
      .ok ⟨client.algorithm, client.thumbprint, Mint.claims request target client.publicJwk⟩ := by
  have hmodulus : 0 < client.key.modulus := by
    rcases Rsa.PublicKey.exponent_lt_modulus hkey with ⟨hexponent, hlt⟩
    exact lt_trans hexponent hlt
  rcases client.decode_join hmodulus hsalt hsign hlow hhigh with ⟨hverify, hdecode⟩
  refine validate_eq_ok_iff.mpr ⟨_, client.key.publicKey, hdecode, ?_, rfl, ?_, hmeets⟩
  · exact ⟨rfl, Jwk.toKey_ofKey hkey, hverify, rfl, rfl⟩
  · exact Validation.isExpired_of_onTime hhigh htime

/-- A client mints a token for every request that it can sign, and a server accepts it at every time
around the request's timestamp, whatever it expects of what the request says. -/
theorem mint_validates {expectations : Expectations} {now : Int}
    (hkey : client.key.publicKey.fault? = none)
    (hsalt : client.algorithm.padding = .salted → salt.length = client.algorithm.saltSize)
    (htarget : Target.parse request.url = .ok target)
    (hsign : client.algorithm.sign client.key salt
      (Utf8.encode (client.signingInput request target)) = .ok signature)
    (hlow : Claims.minTimestamp ≤ request.timestamp)
    (hhigh : request.timestamp ≤ Claims.maxTimestamp)
    (hage : now - expectations.maxAge ≤ request.timestamp)
    (hlead : request.timestamp ≤ now + 5)
    (hmethod : ∀ expected, expectations.method = some expected →
      expected ≠ "" ∧ request.method = some expected)
    (hauthority : ∀ expected, expectations.authority = some expected →
      Ascii.eqIgnoringCase (String.ofList target.authority) expected = true)
    (hpath : ∀ expected, expectations.path = some expected →
      expected ≠ "" ∧ String.ofList target.pathChars = expected)
    (hnonce : expectations.requireNonce = true → ∃ nonce, nonce ≠ "" ∧
      request.nonce = some nonce ∧
        ∀ expected, expectations.nonce = some expected → nonce = expected)
    (haccess : ∀ expected, expectations.accessToken = some expected →
      request.accessToken = expected) :
    ∃ text, client.mint salt request = .ok text ∧
      validate text expectations now = .ok {
        algorithm := client.algorithm
        thumbprint := client.thumbprint
        claims := {
          accessToken := request.accessToken
          timestamp := request.timestamp
          authority := String.ofList target.authority
          path := if target.pathChars = [] then none else some (String.ofList target.pathChars)
          method := if request.method = some "" then none else request.method
          nonce := if request.nonce = some "" then none else request.nonce
          confirmation := ⟨Jwk.ofKey client.key.publicKey⟩ } } := by
  have hclaimed : target.path =
      if target.pathChars = [] then none else some (String.ofList target.pathChars) := by
    simp [Target.path]
  -- an age of any size bounds the difference, so the case of a huge one is no exception
  have htime : Validation.OnTime expectations.maxAge now request.timestamp := by
    refine ⟨hlead, ?_⟩
    intro _
    omega
  -- an expected method, path or nonce is not empty, so minting has not left it out
  have hmeets : Validation.Meets expectations (Mint.claims request target client.publicJwk) := by
    refine ⟨?_, hauthority, ?_, ?_, haccess⟩
    · intro expected hexpected
      rcases hmethod expected hexpected with ⟨hne, hsame⟩
      simp [Mint.claims, Mint.nonEmpty_eq, hsame, hne]
    · intro expected hexpected
      rcases hpath expected hexpected with ⟨hne, rfl⟩
      have hchars : target.pathChars ≠ [] := by
        intro hnil
        exact hne (by rw [hnil])
      simp [Mint.claims, hclaimed, hchars]
    · intro hrequired
      rcases hnonce hrequired with ⟨nonce, hne, hsame, hexpected⟩
      exact ⟨nonce, by simp [Mint.claims, Mint.nonEmpty_eq, hsame, hne], hexpected⟩
  have hvalid := validate_join expectations now hkey hsalt hsign hlow hhigh htime hmeets
  rw [Mint.claims, hclaimed, Mint.nonEmpty_eq, Mint.nonEmpty_eq] at hvalid
  exact ⟨_, mint_eq_ok hkey htarget hsign, hvalid⟩

/-! ## A sample -/

/-- A client with the shortest key that can sign with its algorithm. -/
def sample : Client := ofKey {
  modulus := 137741475365489258673040105009079231838072952952952370577846251769541593882081844486825387168494437713134212269288144555597825697964281303715047052887
  publicExponent := 3
  privateExponent := 91827650243659505782026736672719487892048635301968247051897501179694395920888294102061758201565063973580952316433293106155662538927599375180682573851
  prime1 := 426275534153505531614926833542476973931993494644504523856877413989998924613
  prime2 := 323127799579244334531914919220306820706211401719827365716004826954024267499 }

/-- A request with everything that a token can say. -/
def sampleRequest : Request :=
  ⟨"https://[::1]/b", "t", 7, some "GET", some "n"⟩

def sampleTarget : Target :=
  ⟨"[::1]".toList, "/b".toList⟩

theorem sample_usable : sample.key.publicKey.fault? = none := by
  decide +kernel

theorem sampleTarget_parse : Target.parse sampleRequest.url = .ok sampleTarget := by
  rfl

theorem sample_thumbprint :
    sample.thumbprint = "9oOBGn2Zzl6uVXMUE61g6l5vjZKHdzuZ_3uDyhd_ylU" := by
  rw [Client.thumbprint, Thumbprint.ofKey, Thumbprint.ofComponents]
  decide +kernel

theorem sample_claims : Mint.claims sampleRequest sampleTarget sample.publicJwk =
    ⟨"t", 7, "[::1]", some "/b", some "GET", some "n", ⟨Jwk.ofKey sample.key.publicKey⟩⟩ := by
  rfl

theorem sample_sign : ∃ signature, sample.algorithm.sign sample.key []
    (Utf8.encode (sample.signingInput sampleRequest sampleTarget)) = .ok signature := by
  have hok : (sample.algorithm.sign sample.key []
      (Utf8.encode (sample.signingInput sampleRequest sampleTarget))).isOk = true := by
    have halgorithm : sample.algorithm = ⟨.deterministic, .sha256⟩ := rfl
    rw [signingInput, Token.encode_signingInputOf, sample_thumbprint, sample_claims, halgorithm]
    simp only [Algorithm.sign]
    rw [Rsa.Deterministic.sign, Rsa.Deterministic.encode?, Rsa.Deterministic.info]
    -- the signing input as octets, since texts are slow to evaluate
    simp only [Header.toJson, Claims.toJson, Claims.member?, Confirmation.toJson, Jwk.toJson,
      Mint.header, List.cons_append, List.nil_append, Json.encode_writeRecord, Json.memberOctets,
      Json.encode_writeText, Json.encode_toString, Jwk.ofKey, Jwk.rsa]
    decide +kernel
  cases hsign : sample.algorithm.sign sample.key []
      (Utf8.encode (sample.signingInput sampleRequest sampleTarget)) with
  | ok signature => exact ⟨signature, rfl⟩
  | error fault =>
    rw [hsign] at hok
    cases hok

theorem sample_mint_validates :
    ∃ text, sample.mint [] sampleRequest = .ok text ∧
      validate text ⟨60, some "GET", some "[::1]", some "/b", true, some "n", some "t"⟩ 10 =
        .ok ⟨sample.algorithm, sample.thumbprint,
          ⟨"t", 7, "[::1]", some "/b", some "GET", some "n",
            ⟨Jwk.ofKey sample.key.publicKey⟩⟩⟩ := by
  rcases sample_sign with ⟨signature, hsign⟩
  refine mint_validates sample_usable nofun sampleTarget_parse hsign (by decide) (by decide)
    (by decide) (by decide) ?_ ?_ ?_ ?_ ?_
  · rintro expected ⟨⟩
    exact ⟨by decide, rfl⟩
  · rintro expected ⟨⟩
    decide
  · rintro expected ⟨⟩
    exact ⟨by decide, rfl⟩
  · intro _
    refine ⟨"n", by decide, rfl, ?_⟩
    rintro expected ⟨⟩
    rfl
  · rintro expected ⟨⟩
    rfl

end Client
end Possession
