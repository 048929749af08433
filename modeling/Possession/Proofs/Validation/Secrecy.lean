import Possession.Proofs.Validation.Minted

/-!
# What a refusal tells

A token that does not pass the checks on itself is refused in one way, whatever the server expects
and whatever its clock shows. A token that does pass is held against the expectations in a fixed
order, and those that are secrets, the nonce and the access token, come last: every earlier refusal
is the same whatever the secrets are.

* `validate_eq_error_iff` splits refusals into those of the token and those of its claims.
* `claimsRefusal?_eq` splits the checks of the claims into those before the secrets and the rest.
-/

namespace Possession

namespace Refusal

/-- Whether a refusal is about the token itself and not about what the server expects of it. -/
def ofToken : Refusal → Bool
  | .format | .encoding | .json _ | .unsupportedAlgorithm _ | .invalidKey _ | .invalidSignature
  | .keyIdMismatch _ _ => true
  | _ => false

/-- Whether a refusal is about one of the server's secrets. -/
def ofSecret : Refusal → Bool
  | .missingNonce | .nonceMismatch | .accessTokenMismatch => true
  | _ => false

theorem ofToken_ofError (error : RequestError) : (ofError error).ofToken = true := by
  cases error <;> rfl

end Refusal

/-- What a server expects, apart from its secrets. -/
def Expectations.withoutSecrets (expectations : Expectations) : Expectations :=
  { expectations with nonce := none, accessToken := none }

namespace Validation

variable {text : String} {expectations : Expectations} {now : Int} {claims : Claims}
  {refusal : Refusal}

/-! ## Refusals of the token -/

theorem ofToken_of_authenticate (h : authenticate text = .error refusal) :
    refusal.ofToken = true := by
  have hlifted {α : Type} {result : Except RequestError α}
      (h : result.mapError Refusal.ofError = .error refusal) : refusal.ofToken = true := by
    cases result with
    | ok value => cases h
    | error error =>
      cases h
      exact Refusal.ofToken_ofError error
  -- one case for each step that may fail
  rw [authenticate] at h
  rcases Outcome.bind_eq_error_iff.mp h with hdecode | ⟨token, -, h⟩
  · exact hlifted hdecode
  · cases hname : Algorithm.ofHeader? token.header.algorithm with
    | none =>
      rw [hname] at h
      cases h
      rfl
    | some algorithm =>
      simp only [hname] at h
      rcases Outcome.bind_eq_error_iff.mp h with hkey | ⟨key, -, h⟩
      · exact hlifted hkey
      · split at h
        · cases h
          rfl
        · rcases Outcome.bind_eq_error_iff.mp h with hthumbprint | ⟨thumbprint, -, h⟩
          · exact hlifted hthumbprint
          · split at h
            · cases h
              rfl
            · cases h

/-- A token whose signature is not that of its key is refused as such. -/
theorem authenticate_of_not_verify {token : Token} {algorithm : Algorithm} {key : Rsa.PublicKey}
    (hdecode : Token.decode text = .ok token) (hname : token.header.algorithm = algorithm.name)
    (hkey : token.claims.confirmation.jwk.toKey = .ok key)
    (hverify : algorithm.verify key (Utf8.encode token.signingInput) token.signature = false) :
    authenticate text = .error .invalidSignature := by
  have hnamed := Algorithm.ofHeader?_eq_some_iff.mpr hname
  simp [authenticate, hdecode, hnamed, hkey, hverify]

/-! ## Refusals of the claims -/

theorem forall_mem_orElse {α : Type} {p : α → Prop} {first second : Option α}
    (hfirst : ∀ found ∈ first, p found) (hsecond : ∀ found ∈ second, p found) :
    ∀ found ∈ (first <|> second), p found := by
  cases first with
  | none => simpa using hsecond
  | some value => simpa using hfirst

/-- What is wrong with the claims that are compared with secrets, the nonce first. -/
def secretRefusal? (expectations : Expectations) (claims : Claims) : Option Refusal :=
  (if expectations.requireNonce then nonceRefusal? expectations.nonce claims.nonce else none) <|>
    (match expectations.accessToken with
      | some expected => if claims.accessToken = expected then none else some .accessTokenMismatch
      | none => none)

/-- The expectations that are checked before the secrets. -/
def publicPart (expectations : Expectations) : Expectations :=
  { expectations.withoutSecrets with requireNonce := false }

/-- The secrets are looked at when everything else has passed. -/
theorem claimsRefusal?_eq :
    claimsRefusal? expectations now claims =
      (claimsRefusal? (publicPart expectations) now claims <|>
        secretRefusal? expectations claims) := by
  have hassoc (first second third fourth fifth : Option Refusal) :
      (first <|> second <|> third <|> fourth <|> fifth) =
        ((first <|> second <|> third <|> none <|> none) <|> fourth <|> fifth) := by
    cases first <;> cases second <;> cases third <;> rfl
  rw [claimsRefusal?, claimsRefusal?]
  cases hexpired : isExpired expectations.maxAge now claims.timestamp with
  | true => simp [publicPart, Expectations.withoutSecrets, hexpired]
  | false =>
    simp only [publicPart, Expectations.withoutSecrets, hexpired, Bool.false_eq_true, if_false,
      secretRefusal?]
    exact hassoc _ _ _ _ _

theorem ofSecret_of_nonceRefusal? {expected actual : Option String} :
    ∀ found ∈ nonceRefusal? expected actual, found.ofSecret = true := by
  cases actual with
  | none => simp [nonceRefusal?, Refusal.ofSecret]
  | some actual => cases expected <;> simp [nonceRefusal?, Refusal.ofSecret]

theorem ofSecret_of_secretRefusal? :
    ∀ found ∈ secretRefusal? expectations claims, found.ofSecret = true := by
  refine forall_mem_orElse ?_ ?_
  · split
    · exact ofSecret_of_nonceRefusal?
    · simp
  · cases expectations.accessToken <;> simp [Refusal.ofSecret]

/-- No secret is looked at unless the result is about secrets. -/
theorem ofToken_of_claimsRefusal? :
    ∀ found ∈ claimsRefusal? expectations now claims, found.ofToken = false := by
  have hsecret : ∀ found ∈ secretRefusal? expectations claims, found.ofToken = false := by
    intro found h
    have := ofSecret_of_secretRefusal? found h
    cases found <;> simp_all [Refusal.ofSecret, Refusal.ofToken]
  rw [claimsRefusal?]
  split
  · simp [Refusal.ofToken]
  · refine forall_mem_orElse ?_ (forall_mem_orElse ?_ (forall_mem_orElse ?_ hsecret))
    · cases expectations.method <;> simp [Refusal.ofToken]
    · cases expectations.authority <;> simp [Refusal.ofToken]
    · cases expectations.path <;> simp [Refusal.ofToken]

end Validation

open Validation

variable {text : String} {first second : Expectations} {now later : Int} {refusal : Refusal}

/-- A token is refused because it does not pass the checks on itself, or because its claims are. -/
theorem validate_eq_error_iff {expectations : Expectations} :
    validate text expectations now = .error refusal ↔
      authenticate text = .error refusal ∨
        ∃ token algorithm thumbprint, authenticate text = .ok (token, algorithm, thumbprint) ∧
          claimsRefusal? expectations now token.claims = some refusal := by
  rw [validate, Outcome.bind_eq_error_iff]
  refine or_congr Iff.rfl ?_
  constructor
  · rintro ⟨⟨token, algorithm, thumbprint⟩, hauthenticate, h⟩
    refine ⟨token, algorithm, thumbprint, hauthenticate, ?_⟩
    cases hclaims : claimsRefusal? expectations now token.claims with
    | none => simp [hclaims] at h
    | some found => simpa [hclaims] using h
  · rintro ⟨token, algorithm, thumbprint, hauthenticate, h⟩
    exact ⟨_, hauthenticate, by simp [h]⟩

/-- A refusal of the token itself is the answer to it under all expectations and at all times. -/
theorem validate_of_ofToken (h : validate text first now = .error refusal)
    (htoken : refusal.ofToken = true) : validate text second later = .error refusal := by
  rcases validate_eq_error_iff.mp h with hauthenticate | ⟨token, _, _, -, hclaims⟩
  · exact validate_eq_error_iff.mpr (.inl hauthenticate)
  · rw [ofToken_of_claimsRefusal? refusal hclaims] at htoken
    cases htoken

/-- A refusal that is not about secrets is the answer whatever the secrets are. -/
theorem validate_of_not_ofSecret (hsame : first.withoutSecrets = second.withoutSecrets)
    (h : validate text first now = .error refusal) (hsecret : refusal.ofSecret = false) :
    validate text second now = .error refusal := by
  rcases validate_eq_error_iff.mp h with hauthenticate | ⟨token, algorithm, thumbprint, htoken, h⟩
  · exact validate_eq_error_iff.mpr (.inl hauthenticate)
  · refine validate_eq_error_iff.mpr (.inr ⟨token, algorithm, thumbprint, htoken, ?_⟩)
    have hpublic : publicPart first = publicPart second := by
      rw [publicPart, publicPart, hsame]
    rw [claimsRefusal?_eq] at h ⊢
    rw [← hpublic]
    cases hfound : claimsRefusal? (publicPart first) now token.claims with
    | some found => simpa [hfound] using h
    | none =>
      rw [hfound] at h
      rw [ofSecret_of_secretRefusal? refusal (by simpa using h)] at hsecret
      cases hsecret

/-- What a refusal tells of the server: nothing at all if it is about the token itself, and nothing
of the secrets unless it is about them. -/
theorem refusal_independent (text : String) (first second : Expectations) (now later : Int) :
    (∀ refusal : Refusal, refusal.ofToken = true →
      validate text first now = .error refusal → validate text second later = .error refusal) ∧
    (first.withoutSecrets = second.withoutSecrets →
      ∀ refusal : Refusal, refusal.ofSecret = false →
        validate text first now = .error refusal → validate text second now = .error refusal) :=
  ⟨fun _ htoken h => validate_of_ofToken h htoken,
    fun hsame _ hsecret h => validate_of_not_ofSecret hsame h hsecret⟩

/-- A token with a signature of the wrong size, and one that is signed but for another method. -/
theorem sample_refusal_independent :
    ∃ forged genuine,
      (validate forged .standard 10 = .error .invalidSignature ∧
        validate forged ⟨0, some "POST", none, some "/c", true, some "m", some "u"⟩ 99 =
          .error .invalidSignature) ∧
      (validate genuine ⟨60, some "POST", none, none, true, some "n", some "t"⟩ 10 =
          .error (.methodMismatch "POST" (some "GET")) ∧
        validate genuine ⟨60, some "POST", none, none, true, none, some "u"⟩ 10 =
          .error (.methodMismatch "POST" (some "GET"))) := by
  rcases Client.sample_sign with ⟨signature, hsign⟩
  have hforged : ∃ forged, validate forged .standard 10 = .error .invalidSignature := by
    have hdecode := Token.decode_join (Mint.header Client.sample.algorithm Client.sample.thumbprint)
      (Mint.claims Client.sampleRequest Client.sampleTarget Client.sample.publicJwk)
      (by decide) (by decide) (List.cons_ne_nil 0 [])
    -- one octet is not the size of the key, since the modulus needs more
    have hlarge : 256 < 256 ^ Client.sample.key.publicKey.size :=
      Client.sample.key.publicKey.lt_pow_size
        (show 256 < Client.sample.key.publicKey.modulus by decide)
    have hsize : ([0] : Bytes).length ≠ Client.sample.key.publicKey.size := by
      intro hone
      rw [← hone] at hlarge
      exact absurd hlarge (by decide)
    have hverify {key : Rsa.PublicKey} (message : Bytes) (h : ([0] : Bytes).length ≠ key.size) :
        Client.sample.algorithm.verify key message [0] = false := by
      rw [show Client.sample.algorithm = ⟨.deterministic, .sha256⟩ from rfl]
      simp only [Algorithm.verify, Rsa.Deterministic.verify, beq_false_of_ne h, Bool.false_and]
    exact ⟨_, validate_eq_error_iff.mpr (.inl (authenticate_of_not_verify hdecode rfl
      (Jwk.toKey_ofKey Client.sample_usable) (hverify _ hsize)))⟩
  have hgenuine : ∃ genuine,
      validate genuine ⟨60, some "POST", none, none, true, some "n", some "t"⟩ 10 =
        .error (.methodMismatch "POST" (some "GET")) := by
    have hmeets : Validation.Meets .standard
        (Mint.claims Client.sampleRequest Client.sampleTarget Client.sample.publicJwk) := by
      constructor <;> simp [Expectations.standard]
    have hvalid := Client.validate_join .standard 10 Client.sample_usable
      (fun hsalted => absurd hsalted (by decide)) hsign (by decide) (by decide)
      ⟨by decide, by decide⟩ hmeets
    rcases validate_eq_ok_iff.mp hvalid with ⟨token, key, hdecode, hauthentic, hclaims, -⟩
    refine ⟨_, validate_eq_error_iff.mpr (.inr ⟨token, _, _,
      authenticate_eq_ok_iff.mpr ⟨hdecode, key, hauthentic⟩, ?_⟩)⟩
    rw [← hclaims]
    decide
  rcases hforged with ⟨forged, hforged⟩
  rcases hgenuine with ⟨genuine, hgenuine⟩
  refine ⟨forged, genuine, ⟨hforged, ?_⟩, hgenuine, ?_⟩
  · exact (refusal_independent _ _ _ _ _).1 _ rfl hforged
  · exact (refusal_independent _ ⟨60, some "POST", none, none, true, some "n", some "t"⟩
      ⟨60, some "POST", none, none, true, none, some "u"⟩ 10 10).2 rfl _ rfl hgenuine

end Possession
