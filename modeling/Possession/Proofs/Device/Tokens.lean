import Possession.Proofs.Device.Inspection
import Possession.Proofs.Validation.Minted

/-!
# Tokens of the device key

What a store hands out for the device key is an entry, and every procedure that reads makes its
answer of that entry alone. If the entry's signatures are those of a private key, a token that is
minted with it is the token that the client of the private key puts together: it is taken apart into
that header and those claims, and its signature verifies under the public half.

* `KeyStore.HandsOut` says that a store hands out an entry.
* `KeyEntry.SignsWith` ties an entry to a private key.
-/

namespace Possession

/-! ## Entries that are handed out -/

namespace KeyStore

variable {σ α : Type} {store : KeyStore σ} {state : σ} {entry : KeyEntry}

/-- A store in a state hands out an entry for the device key. -/
def HandsOut (store : KeyStore σ) (state : σ) (entry : KeyEntry) : Prop :=
  ∃ next, store.run DeviceKey.entry state = (some (.ok entry), next)

theorem IsCell.handsOut {Holds : σ → Option KeyEntry → Prop}
    (hcell : store.IsCell DeviceKey.label Holds) (hholds : Holds state (some entry)) :
    store.HandsOut state entry := by
  rcases (hcell.serves hholds).entry with ⟨next, hrun, -⟩
  refine ⟨next, ?_⟩
  rw [DeviceKey.entry, run_bind hrun]
  rfl

theorem HandsOut.answer (h : store.HandsOut state entry)
    (conclude : Except DeviceError KeyEntry → α) :
    (store.run (do return conclude (← DeviceKey.entry)) state).1 = some (conclude (.ok entry)) := by
  rcases h with ⟨next, hrun⟩
  rw [run_bind hrun]
  rfl

theorem HandsOut.thumbprint (h : store.HandsOut state entry) :
    (store.run DeviceKey.thumbprint state).1 = some (.ok entry.thumbprint) :=
  h.answer (Except.map KeyEntry.thumbprint)

theorem HandsOut.identity (h : store.HandsOut state entry) :
    (store.run DeviceKey.identity state).1 = some (.ok entry.identity) :=
  h.answer (Except.map KeyEntry.identity)

theorem HandsOut.confirmation (h : store.HandsOut state entry) :
    (store.run DeviceKey.confirmation state).1 =
      some (.ok (requestConfirmation entry.thumbprint)) := by
  rcases h with ⟨next, hrun⟩
  have hthumbprint : store.run DeviceKey.thumbprint state =
      (some (.ok entry.thumbprint), next) := by
    rw [DeviceKey.thumbprint, run_bind hrun]
    rfl
  rw [DeviceKey.confirmation, run_bind hthumbprint]
  rfl

theorem HandsOut.publicKey (h : store.HandsOut state entry) (format : ExportFormat) :
    (store.run (DeviceKey.publicKey format) state).1 = some (.ok (entry.exported format)) :=
  h.answer (Except.map fun key => key.exported format)

theorem HandsOut.mint (h : store.HandsOut state entry) (algorithm : Algorithm) (salt : Bytes)
    (request : Request) : (store.run (DeviceKey.mint algorithm salt request) state).1 =
      some (Possession.mint (entry.signer algorithm salt) request) := by
  have hanswer := h.answer fun found =>
    found.bind fun key => Possession.mint (key.signer algorithm salt) request
  rwa [Except.bind] at hanswer

end KeyStore

/-! ## Entries of a private key -/

namespace KeyEntry

/-- An entry whose public half is that of a private key, and whose signatures are those of the
private key. It may refuse to sign. -/
structure SignsWith (entry : KeyEntry) (key : Rsa.PrivateKey) : Prop where
  publicKey : entry.publicKey = key.publicKey
  sign {algorithm : Algorithm} {salt message signature : Bytes} :
    entry.sign algorithm salt message = .ok signature →
      algorithm.sign key salt message = .ok signature

theorem signsWith_ofPrivateKey (label : String) (key : Rsa.PrivateKey) (createdAt : Instant)
    (backing : Backing) : (ofPrivateKey label key createdAt backing).SignsWith key where
  publicKey := rfl
  sign := Outcome.mapError_eq_ok_iff.mp

theorem IsSoftware.exists_signsWith {entry : KeyEntry} (h : entry.IsSoftware) :
    ∃ key, entry.SignsWith key := by
  rcases h with ⟨label, key, createdAt, rfl⟩
  exact ⟨key, signsWith_ofPrivateKey label key createdAt .software⟩

variable {entry : KeyEntry} {key : Rsa.PrivateKey} {algorithm : Algorithm} {salt : Bytes}
  {request : Request} {token : String}

/-- A token is minted only with a key whose numbers are not zero. -/
theorem positive_of_mint (h : mint (entry.signer algorithm salt) request = .ok token) :
    0 < entry.publicKey.modulus ∧ 0 < entry.publicKey.exponent := by
  rcases mint_eq_ok_iff.mp h with ⟨target, jwk, signature, -, hjwk, hform, -, -⟩
  cases hjwk
  rcases Jwk.exists_components_iff.mpr hform with ⟨⟨modulus, exponent⟩, hnumbers⟩
  exact Jwk.positive_of_components hnumbers

/-- What an entry signs for a request is what the client of its private key signs. -/
theorem SignsWith.signingInput (h : entry.SignsWith key) (target : Target) :
    entry.signingInput algorithm request target =
      Client.signingInput ⟨key, algorithm⟩ request target := by
  rw [KeyEntry.signingInput, KeyEntry.thumbprint, publicJwk, h.publicKey]
  rfl

/-- A token that is minted with an entry of a private key is taken apart into the header and the
claims of the request, and its signature verifies under the key that the claims hold. -/
theorem SignsWith.decode_of_mint (h : entry.SignsWith key)
    (hsalt : algorithm.padding = .salted → salt.length = algorithm.saltSize)
    (hlow : Claims.minTimestamp ≤ request.timestamp)
    (hhigh : request.timestamp ≤ Claims.maxTimestamp)
    (htoken : mint (entry.signer algorithm salt) request = .ok token) :
    ∃ target signature, Target.parse request.url = .ok target ∧
      algorithm.sign key salt (Utf8.encode (Client.signingInput ⟨key, algorithm⟩ request target)) =
        .ok signature ∧
      token = Token.join (Client.signingInput ⟨key, algorithm⟩ request target) signature ∧
      algorithm.verify key.publicKey
        (Utf8.encode (Client.signingInput ⟨key, algorithm⟩ request target)) signature = true ∧
      Token.decode token = .ok ⟨Mint.header algorithm (Thumbprint.ofKey key.publicKey),
        Mint.claims request target (Jwk.ofKey key.publicKey),
        Client.signingInput ⟨key, algorithm⟩ request target, signature⟩ := by
  rcases exists_of_mint_eq_ok htoken with ⟨target, signature, htarget, hsign, rfl⟩
  have hmodulus : 0 < key.modulus := by
    have hpositive := (positive_of_mint htoken).1
    rwa [h.publicKey] at hpositive
  rw [h.signingInput] at hsign ⊢
  have hsigned := h.sign hsign
  have hdecoded := Client.decode_join ⟨key, algorithm⟩ hmodulus hsalt hsigned hlow hhigh
  exact ⟨target, signature, htarget, hsigned, rfl, hdecoded⟩

theorem SignsWith.validate_of_mint (h : entry.SignsWith key) (hkey : key.publicKey.fault? = none)
    (hsalt : algorithm.padding = .salted → salt.length = algorithm.saltSize)
    (hlow : Claims.minTimestamp ≤ request.timestamp)
    (hhigh : request.timestamp ≤ Claims.maxTimestamp)
    (htoken : mint (entry.signer algorithm salt) request = .ok token) : ∃ target,
      validate token .standard request.timestamp =
        .ok ⟨algorithm, Thumbprint.ofKey key.publicKey,
          Mint.claims request target (Jwk.ofKey key.publicKey)⟩ := by
  rcases h.decode_of_mint hsalt hlow hhigh htoken with ⟨target, signature, -, hsign, rfl, -, -⟩
  have htime : Validation.OnTime Expectations.standard.maxAge request.timestamp
      request.timestamp := by
    rw [Validation.OnTime, Validation.maxLead]
    omega
  exact ⟨target, Client.validate_join .standard request.timestamp hkey hsalt hsign hlow hhigh htime
    ⟨nofun, nofun, nofun, nofun, nofun⟩⟩

/-- A token that is minted with a key that is not usable is refused for that. -/
theorem SignsWith.validate_of_fault (h : entry.SignsWith key) {fault : Rsa.Fault}
    (hfault : key.publicKey.fault? = some fault)
    (hsalt : algorithm.padding = .salted → salt.length = algorithm.saltSize)
    (hlow : Claims.minTimestamp ≤ request.timestamp)
    (hhigh : request.timestamp ≤ Claims.maxTimestamp)
    (htoken : mint (entry.signer algorithm salt) request = .ok token)
    (expectations : Expectations) (now : Int) :
    validate token expectations now = .error (.invalidKey fault.message) := by
  have hpositive := positive_of_mint htoken
  rw [h.publicKey] at hpositive
  rcases h.decode_of_mint hsalt hlow hhigh htoken with ⟨target, signature, -, -, -, -, hdecode⟩
  have hname : Algorithm.ofHeader? algorithm.name = some algorithm :=
    Algorithm.ofHeader?_eq_some_iff.mpr rfl
  have hrefused := Jwk.toKey_ofKey_of_fault hpositive.1 hpositive.2 hfault
  simp [validate, Validation.authenticate, hdecode, Mint.header, hname, Mint.claims, hrefused,
    Refusal.ofError]

end KeyEntry

end Possession
