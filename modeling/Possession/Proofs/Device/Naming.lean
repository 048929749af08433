import Possession.Proofs.Device.Tokens
import Possession.Proofs.Rsa.PublicForm
import Possession.Store.Memory

/-!
# What is told about the device key

The public half of the device key leaves the program in many forms: as JSON, in distinguished
encoding, as a thumbprint, inside a request confirmation and inside tokens. As long as a store hands
out an entry of a usable private key, all of them are of one key, and tokens are those that the
client of the private key mints.

* `RequestConfirmation.keyId?` reads the thumbprint in a request confirmation.
* `Token.Names` and `KeyStore.Names` say that all forms are of one key.
* `KeyStore.HandsOut.names` is the agreement.
-/

namespace Possession

/-! ## Request confirmations -/

namespace RequestConfirmation

/-- How a request confirmation is read: its one member is the thumbprint of a key. -/
def shape : Json.Shape where
  name := "RequestConfirmation"
  members := [⟨"kid", Json.readAnyText, none⟩]

/-- The thumbprint that a value of the shape stands for. -/
def ofValue? : Json.Value → Option String
  | .record [.text thumbprint] => some thumbprint
  | _ => none

/-- The thumbprint that a request confirmation names. -/
def keyId? (text : String) : Option String := do
  let octets ← (Base64.url.decode text).toOption
  (shape.decode ofValue? octets).toOption

/-- A request confirmation names the thumbprint that it was made of. -/
theorem keyId?_requestConfirmation (thumbprint : String) :
    keyId? (requestConfirmation thumbprint) = some thumbprint := by
  have hslots : Json.Fills shape.members [none] [("kid", Json.writeText thumbprint)]
      [some (.text thumbprint)] := by
    refine Json.Fills.next rfl rfl rfl (Json.reads_text thumbprint) ?_
    exact Json.Fills.done _
  have hdecode : shape.decode ofValue? (Utf8.encode
      (Json.writeRecord [("kid", Json.writeText thumbprint)])) = .ok thumbprint := by
    rw [Json.Shape.decode, Json.readWholeText_of_reads (Json.reads_record hslots rfl)]
    rfl
  rw [keyId?, requestConfirmation, Base64.decode_encode Base64.proper_url, Except.toOption,
    Option.bind_eq_bind, Option.bind_some, hdecode]
  rfl

end RequestConfirmation

/-! ## Tokens -/

/-- All that a token says about its key, and all that validation answers about it, whatever a server
expects and whenever, is of one public key. -/
structure Token.Names (text : String) (key : Rsa.PublicKey) : Prop where
  decoded : ∃ token, Token.decode text = .ok token ∧
    token.header.keyId = Thumbprint.ofKey key ∧ token.claims.confirmation.jwk.toKey = .ok key
  accepted {expectations : Expectations} {now : Int} {accepted : Accepted} :
    validate text expectations now = .ok accepted → accepted.thumbprint = Thumbprint.ofKey key

/-- With the deterministic padding, the salt does not matter. -/
theorem Algorithm.sign_of_deterministic {algorithm : Algorithm}
    (h : algorithm.padding = .deterministic) (key : Rsa.PrivateKey) (salt other message : Bytes) :
    algorithm.sign key salt message = algorithm.sign key other message := by
  rw [sign, sign, h]

namespace KeyEntry

variable {entry : KeyEntry} {key : Rsa.PrivateKey} {algorithm : Algorithm} {salt : Bytes}
  {request : Request} {token : String}

/-- The client of the private key mints the token that is minted with the entry. -/
theorem SignsWith.mint_client (h : entry.SignsWith key) (hkey : key.publicKey.fault? = none)
    (htoken : mint (entry.signer algorithm salt) request = .ok token) :
    Client.mint ⟨key, algorithm⟩ salt request = .ok token := by
  rcases exists_of_mint_eq_ok htoken with ⟨target, signature, htarget, hsign, rfl⟩
  rw [h.signingInput] at hsign ⊢
  exact Client.mint_eq_ok hkey htarget (h.sign hsign)

/-- For an entry that never refuses what its key can sign, the converse holds as well. -/
theorem mint_ofPrivateKey_eq_ok_iff {label : String} {createdAt : Instant} {backing : Backing} :
    mint ((ofPrivateKey label key createdAt backing).signer algorithm salt) request = .ok token ↔
      Client.mint ⟨key, algorithm⟩ salt request = .ok token := by
  simp only [Client.mint, mint_eq_ok_iff, Outcome.mapError_eq_ok_iff, Except.ok.injEq, signer,
    Client.signer, ofPrivateKey, DeviceKey.liftStore]
  rfl

theorem SignsWith.mint_client_of_deterministic (h : entry.SignsWith key)
    (hkey : key.publicKey.fault? = none) (hpadding : algorithm.padding = .deterministic)
    (htoken : mint (entry.signer algorithm salt) request = .ok token) (other : Bytes) :
    Client.mint ⟨key, algorithm⟩ other request = .ok token := by
  rw [← h.mint_client hkey htoken, Client.mint, Client.mint, Client.signer, Client.signer]
  simp only [Algorithm.sign_of_deterministic hpadding key other salt]

theorem SignsWith.token_names (h : entry.SignsWith key) (hkey : key.publicKey.fault? = none)
    (hsalt : algorithm.padding = .salted → salt.length = algorithm.saltSize)
    (hlow : Claims.minTimestamp ≤ request.timestamp)
    (hhigh : request.timestamp ≤ Claims.maxTimestamp)
    (htoken : mint (entry.signer algorithm salt) request = .ok token) :
    Token.Names token key.publicKey := by
  rcases h.decode_of_mint hsalt hlow hhigh htoken with ⟨target, signature, -, -, -, -, hdecode⟩
  refine ⟨⟨_, hdecode, rfl, Jwk.toKey_ofKey hkey⟩, ?_⟩
  intro expectations now accepted hvalid
  rcases validate_eq_ok_iff.mp hvalid with ⟨found, _, hfound, hauthentic, -, -⟩
  -- the token is taken apart in one way only
  rw [hdecode, Except.ok.injEq] at hfound
  rw [← hauthentic.identified, ← hfound]
  rfl

end KeyEntry

/-! ## Stores -/

namespace KeyStore

variable {σ : Type} {store : KeyStore σ} {state : σ} {entry : KeyEntry} {key : Rsa.PrivateKey}

/-- Everything that is told about the device key while a store is in a state is of the public half
of one private key, and tokens are those of the client of that key. -/
structure Names (store : KeyStore σ) (state : σ) (key : Rsa.PrivateKey) : Prop where
  jwk : ∃ text jwk, (store.run (DeviceKey.publicKey .jwk) state).1 = some (.ok text) ∧
    Jwk.ofJson (Utf8.encode text) = .ok jwk ∧ jwk.toKey = .ok key.publicKey ∧
      Thumbprint.ofJwk jwk = .ok (Thumbprint.ofKey key.publicKey)
  der : ∃ text octets, (store.run (DeviceKey.publicKey .der) state).1 = some (.ok text) ∧
    Base64.standard.decode text = .ok octets ∧ octets = key.publicKey.toDer ∧
      Rsa.PublicKey.ofDer? octets = some key.publicKey
  identity : ∃ identity, (store.run DeviceKey.identity state).1 = some (.ok identity) ∧
    identity.thumbprint = Thumbprint.ofKey key.publicKey
  thumbprint : (store.run DeviceKey.thumbprint state).1 =
    some (.ok (Thumbprint.ofKey key.publicKey))
  confirmation : ∃ text, (store.run DeviceKey.confirmation state).1 = some (.ok text) ∧
    RequestConfirmation.keyId? text = some (Thumbprint.ofKey key.publicKey)
  /-- A salted algorithm takes a salt of its size, and a timestamp is an integer of 64 bits. -/
  token {algorithm : Algorithm} {salt : Bytes} {request : Request} {token : String} :
    (algorithm.padding = .salted → salt.length = algorithm.saltSize) →
    Claims.minTimestamp ≤ request.timestamp → request.timestamp ≤ Claims.maxTimestamp →
    (store.run (DeviceKey.mint algorithm salt request) state).1 = some (.ok token) →
      Token.Names token key.publicKey ∧
        (∃ accepted, validate token .standard request.timestamp = .ok accepted) ∧
        Client.mint ⟨key, algorithm⟩ salt request = .ok token
  /-- With the deterministic padding a client mints the same token, whatever the salt. -/
  deterministic {algorithm : Algorithm} {salt : Bytes} {request : Request} {token : String} :
    algorithm.padding = .deterministic →
    (store.run (DeviceKey.mint algorithm salt request) state).1 = some (.ok token) →
      ∀ other, Client.mint ⟨key, algorithm⟩ other request = .ok token

/-- Whatever a store hands out, if it is an entry of a usable private key, then everything that is
told about the device key is of that key. -/
theorem HandsOut.names (hout : store.HandsOut state entry) (hsigns : entry.SignsWith key)
    (hkey : key.publicKey.fault? = none) : store.Names state key := by
  have hjwk : entry.publicJwk = Jwk.ofKey key.publicKey := by
    rw [KeyEntry.publicJwk, hsigns.publicKey]
  have hthumbprint : entry.thumbprint = Thumbprint.ofKey key.publicKey := by
    rw [KeyEntry.thumbprint, hsigns.publicKey]
  constructor
  case jwk =>
    refine ⟨_, entry.publicJwk, hout.publicKey .jwk, Jwk.ofJson_toJson _, ?_, ?_⟩
    · rw [hjwk]
      exact Jwk.toKey_ofKey hkey
    · rw [hjwk]
      exact Thumbprint.ofJwk_ofKey hkey
  case der =>
    refine ⟨_, key.publicKey.toDer, hout.publicKey .der, ?_, rfl, Rsa.PublicKey.ofDer?_toDer hkey⟩
    rw [KeyEntry.exported, hsigns.publicKey]
    exact Base64.decode_encode Base64.proper_standard _
  case identity =>
    exact ⟨entry.identity, hout.identity, hthumbprint⟩
  case thumbprint =>
    rw [hout.thumbprint, hthumbprint]
  case confirmation =>
    refine ⟨_, hout.confirmation, ?_⟩
    rw [RequestConfirmation.keyId?_requestConfirmation, hthumbprint]
  case token =>
    intro algorithm salt request token hsalt hlow hhigh hmint
    rw [hout.mint, Option.some.injEq] at hmint
    rcases hsigns.validate_of_mint hkey hsalt hlow hhigh hmint with ⟨target, hvalid⟩
    exact ⟨hsigns.token_names hkey hsalt hlow hhigh hmint, ⟨_, hvalid⟩,
      hsigns.mint_client hkey hmint⟩
  case deterministic =>
    intro algorithm salt request token hpadding hmint
    rw [hout.mint, Option.some.injEq] at hmint
    exact hsigns.mint_client_of_deterministic hkey hpadding hmint

end KeyStore

/-! ## A sample -/

namespace KeyEntry

/-- The entry of the sample client's key. -/
def sample : KeyEntry :=
  .ofPrivateKey DeviceKey.label Client.sample.key ⟨0, 0⟩ .software

theorem sample_signsWith : sample.SignsWith Client.sample.key :=
  signsWith_ofPrivateKey DeviceKey.label Client.sample.key ⟨0, 0⟩ .software

theorem sample_mint : ∃ token,
    mint (sample.signer .rs256 []) Client.sampleRequest = .ok token := by
  rcases Client.sample_sign with ⟨signature, hsign⟩
  have hclient := Client.mint_eq_ok Client.sample_usable Client.sampleTarget_parse hsign
  exact ⟨_, mint_ofPrivateKey_eq_ok_iff.mpr hclient⟩

end KeyEntry

namespace Memory

/-- A store in memory that holds an entry of the device key, and nothing else. -/
def holding (entry : KeyEntry) : Memory :=
  (empty ⟨.ofSeed [], ⟨0, 0⟩⟩).insert DeviceKey.label entry

theorem holding_handsOut (entry : KeyEntry) : store.HandsOut (holding entry) entry :=
  ⟨holding entry, rfl⟩

theorem sample_names : store.Names (holding .sample) Client.sample.key ∧
    ∃ token, (store.run (DeviceKey.mint .rs256 [] Client.sampleRequest) (holding .sample)).1 =
        some (.ok token) ∧
      Token.Names token Client.sample.key.publicKey ∧
      ∀ salt, Client.sample.mint salt Client.sampleRequest = .ok token := by
  have hout := holding_handsOut .sample
  have hnames : store.Names (holding .sample) Client.sample.key :=
    hout.names KeyEntry.sample_signsWith Client.sample_usable
  rcases KeyEntry.sample_mint with ⟨token, htoken⟩
  have hrun := hout.mint .rs256 [] Client.sampleRequest
  rw [htoken] at hrun
  have hsalt : Algorithm.rs256.padding = .salted →
      ([] : Bytes).length = Algorithm.rs256.saltSize := nofun
  have hnamed := (hnames.token hsalt (by decide) (by decide) hrun).1
  exact ⟨hnames, token, hrun, hnamed, hnames.deterministic rfl hrun⟩

end Memory

end Possession
