import Possession.Mint
import Possession.Proofs.Thumbprint
import Possession.Proofs.Token

/-!
# Minting over any signer

Minting asks nothing of a signer but its answers. Four things can go wrong, and the first one that
does is reported: the URL, the public key, the form of the key, the signature. A token that is
minted is taken apart into the header and the claims of the request, the key as the signer has told
it, and the octets that the signer has answered to the signing input.

* `Jwk.Flaw` says what is wrong with the form of a key.
* `Mint.Refuses` says why no token is minted, and `mint_eq_ok_iff` which one is.
* `mint_carries` is what a token is taken apart into.
-/

namespace Possession

/-! ## The form of keys -/

namespace Jwk

/-- A text that spells a number: base64url of octets, one at least. -/
def IsNumber (text : String) : Prop :=
  ∃ bytes : Bytes, bytes ≠ [] ∧ text = Base64.url.encode bytes

/-- What is wrong with a text that is to spell the number of a given name. -/
inductive NumberFlaw (name : String) : String → String → Prop where
  | empty : NumberFlaw name "" s!"empty member {name}"
  | encoding {text : String} :
    text ≠ "" → ¬ IsNumber text → NumberFlaw name text s!"member {name} is not base64url"

/-- What is wrong with the form of a key: its type, else its modulus, else its exponent. -/
inductive Flaw (jwk : Jwk) : String → Prop where
  | keyType : jwk.keyType ≠ "RSA" → Flaw jwk s!"kty={jwk.keyType}"
  | modulus {reason : String} :
    jwk.keyType = "RSA" → NumberFlaw "n" jwk.modulus reason → Flaw jwk reason
  | exponent {reason : String} :
    jwk.keyType = "RSA" → IsNumber jwk.modulus → NumberFlaw "e" jwk.exponent reason →
      Flaw jwk reason

/-- A key of the right type whose numbers are both spelled. -/
def IsWellFormed (jwk : Jwk) : Prop :=
  jwk.keyType = "RSA" ∧ IsNumber jwk.modulus ∧ IsNumber jwk.exponent

variable {jwk : Jwk} {name text reason : String} {fault : RequestError}

theorem exists_decodeMember_iff (name : String) :
    (∃ bytes, decodeMember name text = .ok bytes) ↔ IsNumber text := by
  simp only [decodeMember_eq_ok_iff, IsNumber, and_comm]

theorem decodeMember_of_not_isNumber (hempty : text ≠ "") (hnumber : ¬ IsNumber text) :
    decodeMember name text = .error (.invalidJwk s!"member {name} is not base64url") := by
  rw [← exists_decodeMember_iff name, decodeMember,
    if_neg (mt String.isEmpty_iff.mp hempty)] at hnumber
  rw [decodeMember, if_neg (mt String.isEmpty_iff.mp hempty)]
  cases hdecode : Base64.url.decode text with
  | ok bytes =>
    rw [hdecode] at hnumber
    exact absurd ⟨bytes, rfl⟩ hnumber
  | error fault => rfl

theorem decodeMember_eq_error_iff :
    decodeMember name text = .error fault ↔
      ∃ reason, NumberFlaw name text reason ∧ fault = .invalidJwk reason := by
  constructor
  · intro h
    have hnumber : ¬ IsNumber text := by
      rw [← exists_decodeMember_iff name, h]
      exact nofun
    by_cases hempty : text = ""
    · subst hempty
      cases h
      exact ⟨_, .empty, rfl⟩
    · rw [decodeMember_of_not_isNumber hempty hnumber] at h
      cases h
      exact ⟨_, .encoding hempty hnumber, rfl⟩
  · rintro ⟨reason, hflaw, rfl⟩
    cases hflaw with
    | empty => rfl
    | encoding hempty hnumber => exact decodeMember_of_not_isNumber hempty hnumber

theorem exists_components_iff : (∃ numbers, jwk.components = .ok numbers) ↔ jwk.IsWellFormed := by
  rcases jwk with ⟨keyType, modulus, exponent⟩
  simp only [Prod.exists, components_eq_ok_iff, IsWellFormed, IsNumber, rsa, Jwk.mk.injEq]
  grind

theorem components_eq_error_iff :
    jwk.components = .error fault ↔ ∃ reason, jwk.Flaw reason ∧ fault = .invalidJwk reason := by
  rw [components]
  by_cases htype : jwk.keyType = "RSA"
  · simp only [htype, ne_eq, not_true, if_false, Outcome.bind_eq_error_iff, Outcome.pure_eq,
      reduceCtorEq, and_false, exists_false, or_false]
    constructor
    · rintro (hmodulus | ⟨bytes, hmodulus, hexponent⟩)
      · rcases decodeMember_eq_error_iff.mp hmodulus with ⟨reason, hflaw, rfl⟩
        exact ⟨reason, .modulus htype hflaw, rfl⟩
      · rcases decodeMember_eq_error_iff.mp hexponent with ⟨reason, hflaw, rfl⟩
        have hnumber := (exists_decodeMember_iff "n").mp ⟨bytes, hmodulus⟩
        exact ⟨reason, .exponent htype hnumber hflaw, rfl⟩
    · rintro ⟨reason, hflaw, rfl⟩
      cases hflaw with
      | keyType hother => exact absurd htype hother
      | modulus _ hflaw => exact .inl (decodeMember_eq_error_iff.mpr ⟨reason, hflaw, rfl⟩)
      | exponent _ hnumber hflaw =>
        rcases (exists_decodeMember_iff "n").mpr hnumber with ⟨bytes, hmodulus⟩
        exact .inr ⟨bytes, hmodulus, decodeMember_eq_error_iff.mpr ⟨reason, hflaw, rfl⟩⟩
  · simp only [htype, ne_eq, not_false_eq_true, if_true, Outcome.throw_eq, Outcome.error_bind,
      Except.error.injEq]
    constructor
    · rintro rfl
      exact ⟨_, .keyType htype, rfl⟩
    · rintro ⟨reason, hflaw, rfl⟩
      cases hflaw with
      | keyType => rfl
      | modulus hrsa _ => exact absurd hrsa htype
      | exponent hrsa _ _ => exact absurd hrsa htype

end Jwk

namespace Thumbprint

variable {jwk : Jwk} {fault : RequestError} {thumbprint : String}

theorem ofJwk_eq_ok_iff_isWellFormed :
    ofJwk jwk = .ok thumbprint ↔
      jwk.IsWellFormed ∧ thumbprint = ofComponents jwk.modulus jwk.exponent := by
  rw [ofJwk_eq_ok_iff, Jwk.exists_components_iff]

theorem ofJwk_eq_error_iff :
    ofJwk jwk = .error fault ↔ ∃ reason, jwk.Flaw reason ∧ fault = .invalidJwk reason := by
  rw [← Jwk.components_eq_error_iff, ofJwk, Outcome.bind_eq_error_iff]
  simp only [Outcome.pure_eq, reduceCtorEq, and_false, exists_false, or_false]

end Thumbprint

/-! ## What is signed -/

theorem Target.exists_of_parse_eq_error {url : String} {fault : RequestError}
    (h : Target.parse url = .error fault) : ∃ reason, fault = .invalidUrl reason := by
  simp only [parse, refuse] at h
  split at h
  · cases h
    exact ⟨_, rfl⟩
  · split at h
    · cases h
      exact ⟨_, rfl⟩
    · split at h
      · cases h
        exact ⟨_, rfl⟩
      · split at h
        · cases h
          exact ⟨_, rfl⟩
        · cases h

namespace Mint

/-- The text that is signed for a request with a key. -/
def signingInput (algorithm : Algorithm) (request : Request) (target : Target) (jwk : Jwk) :
    String :=
  Token.signingInputOf (header algorithm (Thumbprint.ofComponents jwk.modulus jwk.exponent))
    (claims request target jwk)

/-- A text is left out when it is empty. -/
theorem nonEmpty_eq (text : Option String) :
    nonEmpty text = if text = some "" then none else text := by
  cases text with
  | none => rfl
  | some text => by_cases hempty : text = "" <;> simp [nonEmpty, Option.filter, hempty]

/-- Why no token is minted. -/
inductive Refuses {ε : Type} (signer : Signer ε) (request : Request) : ε → Prop where
  | url {reason : String} :
    Target.parse request.url = .error (.invalidUrl reason) →
      Refuses signer request (signer.refuse (.invalidUrl reason))
  | publicKey {target : Target} {fault : ε} :
    Target.parse request.url = .ok target → signer.publicJwk = .error fault →
      Refuses signer request fault
  | form {target : Target} {jwk : Jwk} {reason : String} :
    Target.parse request.url = .ok target → signer.publicJwk = .ok jwk → jwk.Flaw reason →
      Refuses signer request (signer.refuse (.invalidJwk reason))
  | signature {target : Target} {jwk : Jwk} {fault : ε} :
    Target.parse request.url = .ok target → signer.publicJwk = .ok jwk → jwk.IsWellFormed →
      signer.sign (Utf8.encode (signingInput signer.algorithm request target jwk)) =
        .error fault →
        Refuses signer request fault

end Mint

section Signer

variable {ε : Type} {signer : Signer ε} {request : Request} {target : Target} {jwk : Jwk}
  {text : String} {fault : ε}

/-- With a target and a key of the right form, minting hangs on the signature alone. -/
theorem mint_eq_map (htarget : Target.parse request.url = .ok target)
    (hjwk : signer.publicJwk = .ok jwk) (hform : jwk.IsWellFormed) :
    mint signer request =
      (signer.sign (Utf8.encode (Mint.signingInput signer.algorithm request target jwk))).map
        (Token.join (Mint.signingInput signer.algorithm request target jwk)) := by
  have hthumbprint : Thumbprint.ofJwk jwk =
      .ok (Thumbprint.ofComponents jwk.modulus jwk.exponent) :=
    Thumbprint.ofJwk_eq_ok_iff_isWellFormed.mpr ⟨hform, rfl⟩
  rw [mint, htarget, hjwk]
  simp only [Mint.liftError, Outcome.mapError_ok, Outcome.ok_bind, hthumbprint]
  rfl

theorem mint_eq_ok_iff :
    mint signer request = .ok text ↔
      ∃ target jwk signature, Target.parse request.url = .ok target ∧
        signer.publicJwk = .ok jwk ∧ jwk.IsWellFormed ∧
        signer.sign (Utf8.encode (Mint.signingInput signer.algorithm request target jwk)) =
          .ok signature ∧
        text = Token.join (Mint.signingInput signer.algorithm request target jwk) signature := by
  constructor
  · intro h
    have hparts := h
    simp only [mint, Outcome.bind_eq_ok_iff, Mint.liftError, Outcome.mapError_eq_ok_iff,
      Thumbprint.ofJwk_eq_ok_iff_isWellFormed] at hparts
    rcases hparts with ⟨target, htarget, jwk, hjwk, _, ⟨hform, -⟩, -⟩
    rw [mint_eq_map htarget hjwk hform, Outcome.map_eq_ok_iff] at h
    rcases h with ⟨signature, hsign, rfl⟩
    exact ⟨target, jwk, signature, htarget, hjwk, hform, hsign, rfl⟩
  · rintro ⟨target, jwk, signature, htarget, hjwk, hform, hsign, rfl⟩
    rw [mint_eq_map htarget hjwk hform, hsign]
    rfl

theorem mint_eq_error_iff :
    mint signer request = .error fault ↔ Mint.Refuses signer request fault := by
  constructor
  · intro h
    rw [mint] at h
    rcases Outcome.bind_eq_error_iff.mp h with hurl | ⟨target, htarget, h⟩
    · rcases Outcome.mapError_eq_error_iff.mp hurl with ⟨cause, hparse, rfl⟩
      rcases Target.exists_of_parse_eq_error hparse with ⟨reason, rfl⟩
      exact .url hparse
    rw [Mint.liftError, Outcome.mapError_eq_ok_iff] at htarget
    rcases Outcome.bind_eq_error_iff.mp h with hkey | ⟨jwk, hjwk, h⟩
    · exact .publicKey htarget hkey
    rcases Outcome.bind_eq_error_iff.mp h with hthumbprint | ⟨thumbprint, hthumbprint, h⟩
    · rcases Outcome.mapError_eq_error_iff.mp hthumbprint with ⟨cause, hform, rfl⟩
      rcases Thumbprint.ofJwk_eq_error_iff.mp hform with ⟨reason, hflaw, rfl⟩
      exact .form htarget hjwk hflaw
    rw [Mint.liftError, Outcome.mapError_eq_ok_iff,
      Thumbprint.ofJwk_eq_ok_iff_isWellFormed] at hthumbprint
    rcases hthumbprint with ⟨hform, rfl⟩
    rcases Outcome.bind_eq_error_iff.mp h with hsign | ⟨signature, -, h⟩
    · exact .signature htarget hjwk hform hsign
    · cases h
  · intro h
    cases h with
    | url hparse =>
      rw [mint, hparse]
      rfl
    | publicKey htarget hkey =>
      rw [mint, htarget, hkey]
      rfl
    | form htarget hjwk hflaw =>
      rw [mint, htarget, hjwk]
      simp only [Mint.liftError, Outcome.mapError_ok, Outcome.ok_bind,
        Thumbprint.ofJwk_eq_error_iff.mpr ⟨_, hflaw, rfl⟩]
      rfl
    | signature htarget hjwk hform hsign =>
      rw [mint_eq_map htarget hjwk hform, hsign]
      rfl

end Signer

/-! ## What is minted -/

/-- Minting for a signer of any kind is refused for the first thing that goes wrong. Otherwise the
signer is asked to sign one message, which does not depend on how it signs, and a token is put
together. If there is a signature in it, the token is taken apart into the name of the algorithm and
the thumbprint of the key's texts, what the request says, the key as it was told, and the very
message and signature. -/
theorem mint_carries {ε : Type} (signer : Signer ε) (request : Request)
    (hlow : Claims.minTimestamp ≤ request.timestamp)
    (hhigh : request.timestamp ≤ Claims.maxTimestamp) :
    (∀ fault, mint signer request = .error fault ↔ Mint.Refuses signer request fault) ∧
      ∀ text, mint signer request = .ok text → ∃ target jwk message signature,
        Target.parse request.url = .ok target ∧ signer.publicJwk = .ok jwk ∧
        (∀ sign : Bytes → Except ε Bytes, mint { signer with sign } request =
          (sign (Utf8.encode message)).map (Token.join message)) ∧
        signer.sign (Utf8.encode message) = .ok signature ∧
        (signature ≠ [] → Token.decode text = .ok {
          header := ⟨signer.algorithm.name, Thumbprint.ofComponents jwk.modulus jwk.exponent⟩
          claims := {
            accessToken := request.accessToken
            timestamp := request.timestamp
            authority := String.ofList target.authority
            path := if target.pathChars = [] then none else some (String.ofList target.pathChars)
            method := if request.method = some "" then none else request.method
            nonce := if request.nonce = some "" then none else request.nonce
            confirmation := ⟨jwk⟩ }
          signingInput := message
          signature }) := by
  refine ⟨fun fault => mint_eq_error_iff, ?_⟩
  intro text htext
  rcases mint_eq_ok_iff.mp htext with ⟨target, jwk, signature, htarget, hjwk, hform, hsign, rfl⟩
  refine ⟨target, jwk, _, signature, htarget, hjwk, ?_, hsign, ?_⟩
  · intro sign
    exact mint_eq_map htarget hjwk hform
  · intro hsignature
    have hdecode := Token.decode_join
      (Mint.header signer.algorithm (Thumbprint.ofComponents jwk.modulus jwk.exponent))
      (Mint.claims request target jwk) hlow hhigh hsignature
    have hpath : target.path =
        if target.pathChars = [] then none else some (String.ofList target.pathChars) := by
      simp [Target.path]
    rw [← hpath, ← Mint.nonEmpty_eq, ← Mint.nonEmpty_eq]
    exact hdecode

/-! ## A sample -/

namespace Mint

/-- A signer that answers the same octet to everything. -/
def terse : Signer RequestError where
  algorithm := .rs256
  publicJwk := .ok (.rsa "AQ" "Aw")
  sign := fun _ => .ok [1]
  refuse := id

/-- A request with an empty method. -/
def sampleRequest : Request :=
  ⟨"https://[::1]/b", "t", 7, some "", some "n"⟩

theorem sampleRequest_target :
    Target.parse sampleRequest.url = .ok ⟨"[::1]".toList, "/b".toList⟩ := by
  rfl

theorem sample_mint_carries : ∃ text message, mint terse sampleRequest = .ok text ∧
    Token.decode text = .ok {
      header := ⟨"RS256", Thumbprint.ofComponents "AQ" "Aw"⟩
      claims := ⟨"t", 7, "[::1]", some "/b", none, some "n", ⟨.rsa "AQ" "Aw"⟩⟩
      signingInput := message
      signature := [1] } := by
  have hform : (Jwk.rsa "AQ" "Aw").IsWellFormed :=
    ⟨rfl, ⟨[1], by decide, by decide⟩, ⟨[3], by decide, by decide⟩⟩
  have hmint := mint_eq_map sampleRequest_target (rfl : terse.publicJwk = .ok _) hform
  have hcarries := (mint_carries terse sampleRequest (by decide) (by decide)).2 _ hmint
  rcases hcarries with ⟨target, jwk, message, signature, htarget, hjwk, -, hsign, hdecode⟩
  cases sampleRequest_target.symm.trans htarget
  cases hjwk
  cases hsign
  exact ⟨_, message, hmint, hdecode (List.cons_ne_nil _ _)⟩

end Mint

end Possession
