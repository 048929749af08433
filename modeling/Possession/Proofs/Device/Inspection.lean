import Possession.Device.Minting
import Possession.Device.Signatures
import Possession.Proofs.Mint
import Possession.Proofs.Store.Cell

/-!
# Inspecting the device key

The procedures that only read, as one family. Each asks the store at most once, and what it answers
is made of the store's answer alone; so of a store that is a cell it tells what the cell holds.

* `Inspection.about` is what an inspection tells about the key that is held.
* `Inspection.glance` says how each inspection goes, in one case per inspection; everything else
  about them follows from that.
-/

namespace Possession

/-- A procedure that only reads. Minting and signing are among them, for they fetch the entry and
leave the store alone. -/
inductive Inspection where
  | isPresent
  | hasThumbprint (wanted : String)
  | entry
  | thumbprint
  | identity
  | creationDate
  | confirmation
  | publicKey (format : ExportFormat)
  | mint (algorithm : Algorithm) (salt : Bytes) (request : Request)
  | sign (name : String) (salt : Bytes) (text : String)
  | verify (name text signature : String)

namespace Inspection

abbrev Answer : Inspection → Type
  | .isPresent | .hasThumbprint _ => Bool
  | .entry => Except DeviceError KeyEntry
  | .identity => Except DeviceError KeyIdentity
  | .creationDate => Except DeviceError (Option Instant)
  | .thumbprint | .confirmation | .publicKey _ | .mint _ _ _ | .sign _ _ _ =>
    Except DeviceError String
  | .verify _ _ _ => Verdict

def dialogue : (inspection : Inspection) → StoreDialogue inspection.Answer
  | .isPresent => DeviceKey.isPresent
  | .hasThumbprint wanted => DeviceKey.hasThumbprint wanted
  | .entry => DeviceKey.entry
  | .thumbprint => DeviceKey.thumbprint
  | .identity => DeviceKey.identity
  | .creationDate => DeviceKey.creationDate
  | .confirmation => DeviceKey.confirmation
  | .publicKey format => DeviceKey.publicKey format
  | .mint algorithm salt request => DeviceKey.mint algorithm salt request
  | .sign name salt text => DeviceKey.sign name salt text
  | .verify name text signature => DeviceKey.verify name text signature

/-! ## What an inspection tells -/

/-- The device key that is held, or that it is missing. -/
def found (held : Option KeyEntry) : Except DeviceError KeyEntry :=
  match held with
  | some key => .ok key
  | none => .error .keyMissing

/-- A text signed with the key that is held. -/
def signed (held : Option KeyEntry) (name : String) (salt : Bytes) (text : String) :
    Except DeviceError String :=
  (DeviceKey.parseAlgorithm name).bind fun algorithm => (found held).bind fun key =>
    (DeviceKey.liftStore (key.sign algorithm salt (Utf8.encode text))).map Base64.standard.encode

/-- What checking a signature with the key that is held shows. -/
def verdict (held : Option KeyEntry) (name text signature : String) : Verdict :=
  match DeviceKey.parseAlgorithm name with
  | .error error => .failed error
  | .ok algorithm =>
    match DeviceKey.readSignature signature with
    | .error error => .failed error
    | .ok signature =>
      match found held with
      | .error error => .failed error
      | .ok key =>
        if key.verify algorithm (Utf8.encode text) signature then .valid else .invalid

/-- What an inspection tells about the key that is held, or about there being none. -/
def about (held : Option KeyEntry) : (inspection : Inspection) → inspection.Answer
  | .isPresent => held.isSome
  | .hasThumbprint wanted => held.map (·.thumbprint) == some wanted
  | .entry => found held
  | .thumbprint => (found held).map (·.thumbprint)
  | .identity => (found held).map (·.identity)
  | .creationDate => Except.ok (held.map (·.createdAt))
  | .confirmation => (found held).map fun key => requestConfirmation key.thumbprint
  | .publicKey format => (found held).map (·.exported format)
  | .mint algorithm salt request =>
    (found held).bind fun key => Possession.mint (key.signer algorithm salt) request
  | .sign name salt text => signed held name salt text
  | .verify name text signature => verdict held name text signature

/-- Whether an answer tells of a key: that there is one, what it is, or what was made with it. -/
def tells : (inspection : Inspection) → inspection.Answer → Bool
  | .isPresent, present => present
  | .hasThumbprint _, present => present
  | .entry, result => result.isOk
  | .thumbprint, result => result.isOk
  | .identity, result => result.isOk
  | .creationDate, result => result.toOption.join.isSome
  | .confirmation, result => result.isOk
  | .publicKey _, result => result.isOk
  | .mint _ _ _, result => result.isOk
  | .sign _ _ _, result => result.isOk
  | .verify _ _ _, .failed _ => false
  | .verify _ _ _, _ => true

theorem liftStore_entry (held : Option KeyEntry) :
    DeviceKey.liftStore (Cell.entry DeviceKey.label held) = found held := by
  cases held with
  | none => rfl
  | some key => rfl

/-- No key has the empty thumbprint, so it need not be looked for. -/
theorem hasThumbprint_empty (held : Option KeyEntry) {wanted : String} (h : wanted.isEmpty = true) :
    (held.map (·.thumbprint) == some wanted) = false := by
  rw [String.isEmpty_iff] at h
  subst h
  cases held with
  | none => rfl
  | some key =>
    rw [Option.map_some, beq_eq_false_iff_ne, ne_eq, Option.some.injEq]
    exact Thumbprint.ofKey_ne_empty key.publicKey

/-- What is answered when a store was asked for a creation date. -/
def dated : Except StoreError Instant → Except DeviceError (Option Instant)
  | .ok date => .ok (some date)
  | .error (.notFound _) => .ok none
  | .error error => .error (.storeUnavailable error)

/-! ## How an inspection goes -/

/-- An inspection asks nothing, or looks at the store once. What it answers is what is told about
the key that the store holds, and nothing of a key if the store fails. -/
inductive Glance (inspection : Inspection) : StoreDialogue inspection.Answer → Prop where
  | blind (answer : inspection.Answer) :
    (∀ held, inspection.about held = answer) → Glance inspection (.done answer)
  | look (call : StoreCall) (rest : call.Answer → StoreDialogue inspection.Answer)
      (conclude : call.Answer → inspection.Answer) :
    call.label = DeviceKey.label → (∀ answer, rest answer = .done (conclude answer)) →
      (∀ held, ∃ reply, Cell.reply held call = some reply ∧
        conclude reply = inspection.about held) →
      (∀ error, inspection.tells (conclude (call.refusal error)) = false) →
        Glance inspection (.ask call rest)

/-- Most inspections look at the entry. -/
theorem Glance.of_entry (inspection : Inspection)
    {rest : Except StoreError KeyEntry → StoreDialogue inspection.Answer}
    (conclude : Except DeviceError KeyEntry → inspection.Answer)
    (hrest : ∀ answer, rest answer = .done (conclude (DeviceKey.liftStore answer)))
    (habout : ∀ held, conclude (found held) = inspection.about held)
    (hfailed : ∀ error, inspection.tells (conclude (.error error)) = false) :
    Glance inspection (.ask (.entry DeviceKey.label) rest) := by
  refine .look (.entry DeviceKey.label) rest (fun answer => conclude (DeviceKey.liftStore answer))
    rfl hrest (fun held => ⟨Cell.entry DeviceKey.label held, rfl, ?_⟩) (fun error => hfailed _)
  rw [liftStore_entry]
  exact habout held

theorem glance_creationDate : Glance .creationDate DeviceKey.creationDate := by
  refine .look (.creationDate DeviceKey.label) _ dated rfl ?_ ?_ ?_
  · rintro (error | date)
    · cases error <;> rfl
    · rfl
  · rintro (_ | key)
    · exact ⟨_, rfl, rfl⟩
    · exact ⟨_, rfl, rfl⟩
  · intro error
    cases error <;> rfl

/-- The empty text is no thumbprint, so the store is not asked about it. -/
theorem glance_hasThumbprint (wanted : String) :
    Glance (.hasThumbprint wanted) (DeviceKey.hasThumbprint wanted) := by
  rw [DeviceKey.hasThumbprint]
  split
  · next hempty => exact .blind _ fun held => hasThumbprint_empty held hempty
  · refine .of_entry (.hasThumbprint wanted) (·.toOption.any (·.thumbprint == wanted)) ?_ ?_
      fun _ => rfl
    · rintro (error | key)
      · rfl
      · rw [DeviceKey.liftStore, Except.mapError, Except.toOption, Option.any_some]
        rfl
    · rintro (_ | key)
      · rfl
      · rw [about, found, Except.toOption, Option.any_some, Option.map_some, Option.some_beq_some]

/-- Signing reads the name of the algorithm before it looks. -/
theorem glance_sign (name : String) (salt : Bytes) (text : String) :
    Glance (.sign name salt text) (DeviceKey.sign name salt text) := by
  -- by their definitions, since their equations would evaluate the name
  delta DeviceKey.sign
  cases hname : DeviceKey.parseAlgorithm name with
  | error error =>
    refine .blind _ fun held => ?_
    rw [about]
    delta signed
    rw [hname]
    rfl
  | ok algorithm =>
    refine .of_entry (.sign name salt text) (·.bind fun key => (DeviceKey.liftStore
      (key.sign algorithm salt (Utf8.encode text))).map Base64.standard.encode) ?_ ?_ fun _ => rfl
    · rintro (error | key) <;> rfl
    · intro held
      rw [about]
      delta signed
      rw [hname]
      rfl

/-- Checking reads the name of the algorithm and the signature before it looks. -/
theorem glance_verify (name text signature : String) :
    Glance (.verify name text signature) (DeviceKey.verify name text signature) := by
  delta DeviceKey.verify
  cases hname : DeviceKey.parseAlgorithm name with
  | error error =>
    refine .blind _ fun held => ?_
    rw [about]
    delta verdict
    rw [hname]
  | ok algorithm =>
    cases hread : DeviceKey.readSignature signature with
    | error error =>
      refine .blind _ fun held => ?_
      rw [about]
      delta verdict
      rw [hname, hread]
    | ok octets =>
      refine .of_entry (.verify name text signature) (fun result => match result with
        | .error error => .failed error
        | .ok key =>
          if key.verify algorithm (Utf8.encode text) octets then .valid else .invalid)
        ?_ ?_ fun _ => rfl
      · rintro (error | key) <;> rfl
      · intro held
        rw [about]
        delta verdict
        rw [hname, hread]

theorem glance (inspection : Inspection) : inspection.Glance inspection.dialogue := by
  cases inspection with
  | isPresent =>
    refine .look (.contains DeviceKey.label) _
      (fun answer => (Except.toOption (answer : Except StoreError Bool)).getD false) rfl ?_ ?_ ?_
    · rintro (_ | _) <;> rfl
    · exact fun held => ⟨_, rfl, rfl⟩
    · exact fun error => rfl
  | creationDate => exact glance_creationDate
  | hasThumbprint wanted => exact glance_hasThumbprint wanted
  | entry => exact .of_entry .entry id (fun _ => rfl) (fun _ => rfl) fun _ => rfl
  | thumbprint =>
    exact .of_entry .thumbprint (·.map (·.thumbprint)) (fun _ => rfl) (fun _ => rfl) fun _ => rfl
  | identity =>
    exact .of_entry .identity (·.map (·.identity)) (fun _ => rfl) (fun _ => rfl) fun _ => rfl
  | confirmation =>
    refine .of_entry .confirmation (·.map fun key => requestConfirmation key.thumbprint) ?_
      (fun held => ?_) fun _ => rfl
    · rintro (error | key) <;> rfl
    · rw [about]
  | publicKey format =>
    exact .of_entry (.publicKey format) (·.map (·.exported format)) (fun _ => rfl) (fun _ => rfl)
      fun _ => rfl
  | mint algorithm salt request =>
    exact .of_entry (.mint algorithm salt request)
      (·.bind fun key => Possession.mint (key.signer algorithm salt) request)
      (fun _ => rfl) (fun _ => rfl) fun _ => rfl
  | sign name salt text => exact glance_sign name salt text
  | verify name text signature => exact glance_verify name text signature

section Cell

variable {σ : Type} {store : KeyStore σ} {Holds : σ → Option KeyEntry → Prop}
  {state : σ} {held : Option KeyEntry}

/-- An inspection of a store that is a cell tells what the cell holds, and leaves it there. -/
theorem run_dialogue (hcell : store.IsCell DeviceKey.label Holds) (hholds : Holds state held)
    (inspection : Inspection) : ∃ next,
      store.run inspection.dialogue state = (some (inspection.about held), next) ∧
        Holds next held := by
  have hglance := inspection.glance
  generalize inspection.dialogue = dialogue at hglance ⊢
  cases hglance with
  | blind answer habout =>
    refine ⟨state, ?_, hholds⟩
    rw [habout]
    rfl
  | look call rest conclude hlabel hrest habout =>
    rcases habout held with ⟨reply, hreply, hconclude⟩
    rcases (hcell.serves hholds).reply hlabel hreply with ⟨next, hanswer, hafter⟩
    refine ⟨next, ?_, hafter⟩
    rw [KeyStore.run, Dialogue.run, hanswer]
    dsimp only
    rw [hrest, hconclude]
    rfl

end Cell

/-! ## What is told of a missing key -/

theorem tells_about_none (inspection : Inspection) :
    inspection.tells (inspection.about none) = false := by
  cases inspection with
  | sign name salt text =>
    rw [about]
    delta signed
    cases DeviceKey.parseAlgorithm name with
    | error error => rfl
    | ok algorithm => rfl
  | verify name text signature =>
    rw [about]
    delta verdict
    cases DeviceKey.parseAlgorithm name with
    | error error => rfl
    | ok algorithm =>
      cases DeviceKey.readSignature signature with
      | error error => rfl
      | ok octets => rfl
  | _ => rfl

/-- What tells of a key is told about one that is held. -/
theorem exists_of_tells_about {inspection : Inspection} {held : Option KeyEntry}
    (h : inspection.tells (inspection.about held) = true) : ∃ key, held = some key := by
  cases held with
  | none =>
    rw [tells_about_none] at h
    cases h
  | some key => exact ⟨key, rfl⟩

end Inspection

/-! ## Tokens minted with a key -/

theorem DeviceError.ofRequestError_ne_keyMissing (error : RequestError) :
    ofRequestError error ≠ .keyMissing := by
  cases error <;> nofun

/-- The one error of a store that means a missing key is that there is no entry. -/
theorem DeviceError.exists_of_ofStoreError_eq_keyMissing {error : StoreError}
    (h : ofStoreError error = .keyMissing) : ∃ label, error = .notFound label := by
  cases error with
  | notFound label => exact ⟨label, rfl⟩
  | _ => cases h

namespace KeyEntry

variable {key : KeyEntry} {algorithm : Algorithm} {salt : Bytes} {request : Request}

/-- The text that a key signs for a request. -/
def signingInput (key : KeyEntry) (algorithm : Algorithm) (request : Request) (target : Target) :
    String :=
  Token.signingInputOf (Mint.header algorithm key.thumbprint)
    (Mint.claims request target key.publicJwk)

/-- A token names the key that it is minted with, carries its public half, and is signed with it. -/
theorem exists_of_mint_eq_ok {token : String}
    (h : mint (key.signer algorithm salt) request = .ok token) :
    ∃ target signature, Target.parse request.url = .ok target ∧
      key.sign algorithm salt (Utf8.encode (key.signingInput algorithm request target)) =
        .ok signature ∧
      token = Token.join (key.signingInput algorithm request target) signature := by
  rcases mint_eq_ok_iff.mp h with ⟨target, jwk, signature, htarget, hjwk, -, hsign, rfl⟩
  cases hjwk
  exact ⟨target, signature, htarget, Outcome.mapError_eq_ok_iff.mp hsign, rfl⟩

/-- With a key at hand, minting reports a missing key only if it is signing that does not find
it. -/
theorem exists_of_mint_eq_keyMissing
    (h : mint (key.signer algorithm salt) request = .error .keyMissing) :
    ∃ target label, Target.parse request.url = .ok target ∧
      key.sign algorithm salt (Utf8.encode (key.signingInput algorithm request target)) =
        .error (.notFound label) := by
  generalize hfault : DeviceError.keyMissing = fault at h
  cases mint_eq_error_iff.mp h with
  | url => exact absurd hfault.symm (DeviceError.ofRequestError_ne_keyMissing (.invalidUrl _))
  | publicKey _ hkey => cases hkey
  | form => exact absurd hfault.symm (DeviceError.ofRequestError_ne_keyMissing (.invalidJwk _))
  | signature htarget hjwk _ hsign =>
    cases hjwk
    rcases Outcome.mapError_eq_error_iff.mp hsign with ⟨error, hfailed, hlifted⟩
    rcases DeviceError.exists_of_ofStoreError_eq_keyMissing (hlifted.trans hfault.symm) with
      ⟨label, rfl⟩
    exact ⟨_, label, htarget, hfailed⟩

/-- Whatever keeps a key in software from minting a token, it is not that the key is missing. -/
theorem mint_ne_keyMissing (hsoftware : key.IsSoftware) :
    mint (key.signer algorithm salt) request ≠ .error .keyMissing := by
  rcases hsoftware with ⟨label, privateKey, createdAt, rfl⟩
  intro h
  rcases exists_of_mint_eq_keyMissing h with ⟨target, missing, -, hsign⟩
  -- a private key in software fails to sign for one reason only
  rcases Outcome.mapError_eq_error_iff.mp hsign with ⟨fault, -, hfault⟩
  cases hfault

end KeyEntry

end Possession
