import Possession.Proofs.Device.Naming
import Possession.Proofs.Device.Serialization

/-!
# Minting while the key changes

One thread mints a token while any number of others generate and clear the device key. Each call to
the store is one step, and the steps may fall in any order that the lock of the changes allows;
whoever mints does not ask for it. A mint call fetches the entry once, so whatever becomes of the
key around it, the token is of one key, which was the store's entry at some moment of the call.

That the key is missing is answered only if the store had no entry at some moment of the call, or
if it was the entry itself that could not find its key when it was to sign.

* `Overlap.step` is one turn, of a thread that changes the key or of the one that visits.
* `Visit.Leads` is what the visit has come to, `Overlap.Sound` keeps it over every turn.
* `Overlap.mint_beside_changes` is the consistency of what the mint call answers.
-/

namespace Possession

/-! ## A visit beside changes -/

/-- A call of one thread, and the moments of the store from its start on, up to its return. -/
inductive Visit (σ α : Type) where
  | outside
  | inside (rest : StoreDialogue α) (moments : List σ)
  | back (answer : α) (moments : List σ)
  /-- A call to the store never came back. -/
  | lost

/-- A visitor takes note of a moment of the store. -/
def Visit.notice {σ α : Type} (visit : Visit σ α) (moment : σ) : Visit σ α :=
  match visit with
  | .inside rest moments => .inside rest (moments ++ [moment])
  | .outside | .back _ _ | .lost => visit

/-- Threads that change the key, and one that visits the same store. -/
structure Overlap (σ ρ α : Type) where
  changes : Contention σ ρ
  visit : Visit σ α

namespace Overlap

/-- Whose turn it is. -/
inductive Turn (ρ : Type) where
  | change (turn : Contention.Turn ρ)
  /-- The visitor makes his call. -/
  | enter
  /-- The visitor goes on with his call. -/
  | proceed

variable {σ ρ α : Type} [DecidableEq ρ]

def start (state : σ) : Overlap σ ρ α :=
  ⟨.start state, .outside⟩

/-- The visitor calls the store. -/
def callStore (store : KeyStore σ) (scene : Overlap σ ρ α) (moments : List σ) (call : StoreCall)
    (next : call.Answer → StoreDialogue α) : Overlap σ ρ α :=
  match store.answer call scene.changes.state with
  | (some answer, state) =>
    ⟨{ scene.changes with state }, .inside (next answer) (moments ++ [state])⟩
  | (none, state) => ⟨{ scene.changes with state }, .lost⟩

def step (store : KeyStore σ) (dialogue : StoreDialogue α) (scene : Overlap σ ρ α) :
    Turn ρ → Overlap σ ρ α
  | .change turn =>
    let changes := scene.changes.step store turn
    ⟨changes, scene.visit.notice changes.state⟩
  | .enter =>
    match scene.visit with
    | .outside => { scene with visit := .inside dialogue [scene.changes.state] }
    | .inside _ _ | .back _ _ | .lost => scene
  | .proceed =>
    match scene.visit with
    | .inside (.done answer) moments => { scene with visit := .back answer moments }
    | .inside (.ask call next) moments => scene.callStore store moments call next
    | .outside | .back _ _ | .lost => scene

def run (store : KeyStore σ) (dialogue : StoreDialogue α) (scene : Overlap σ ρ α)
    (turns : List (Turn ρ)) : Overlap σ ρ α :=
  turns.foldl (step store dialogue) scene

end Overlap

/-! ## What a visit has come to -/

namespace Visit

variable {σ α : Type}

/-- What a visitor is yet to do comes of the answers that the store gave him at moments of his call,
one after the other. -/
inductive Leads (store : KeyStore σ) (dialogue : StoreDialogue α) :
    List σ → StoreDialogue α → Prop where
  | entered (moment : σ) : Leads store dialogue [moment] dialogue
  | passed {moments : List σ} {rest : StoreDialogue α} (moment : σ) :
      Leads store dialogue moments rest → Leads store dialogue (moments ++ [moment]) rest
  | answered {moments : List σ} {moment after : σ} {call : StoreCall}
      {next : call.Answer → StoreDialogue α} {answer : call.Answer} :
      Leads store dialogue moments (.ask call next) → moment ∈ moments →
        store.answer call moment = (some answer, after) →
          Leads store dialogue (moments ++ [after]) (next answer)

variable {store : KeyStore σ} {call : StoreCall} {conclude : call.Answer → α} {moments : List σ}

/-- A visitor who asks the store once is answered at one of the moments. -/
theorem Leads.cases_of_ask {rest : StoreDialogue α}
    (h : Leads store (.ask call fun answer => .done (conclude answer)) moments rest) :
    rest = .ask call (fun answer => .done (conclude answer)) ∨
      ∃ moment ∈ moments, ∃ answer after, store.answer call moment = (some answer, after) ∧
        rest = .done (conclude answer) := by
  induction h with
  | entered moment => exact .inl rfl
  | passed moment _ ih =>
    rcases ih with hrest | ⟨earlier, hmem, answer, after, hanswer, hrest⟩
    · exact .inl hrest
    · exact .inr ⟨earlier, List.mem_append_left _ hmem, answer, after, hanswer, hrest⟩
  | answered _ hmem hanswer ih =>
    rcases ih with hrest | ⟨earlier, -, answer, after, -, hrest⟩
    · -- this is the one question
      cases hrest
      exact .inr ⟨_, List.mem_append_left _ hmem, _, _, hanswer, rfl⟩
    · cases hrest

theorem Leads.exists_moment {answer : α}
    (h : Leads store (.ask call fun reply => .done (conclude reply)) moments (.done answer)) :
    ∃ moment ∈ moments, ∃ reply after, store.answer call moment = (some reply, after) ∧
      answer = conclude reply := by
  rcases h.cases_of_ask with hrest | ⟨moment, hmem, reply, after, hanswer, hrest⟩
  · cases hrest
  · cases hrest
    exact ⟨moment, hmem, reply, after, hanswer, rfl⟩

end Visit

namespace Overlap

variable {σ ρ α : Type} [DecidableEq ρ] {store : KeyStore σ} {dialogue : StoreDialogue α}
  {scene : Overlap σ ρ α}

/-- A visitor inside has come to where the store's answers lead, and has seen it as it is now. -/
def Sound (store : KeyStore σ) (dialogue : StoreDialogue α) (scene : Overlap σ ρ α) : Prop :=
  match scene.visit with
  | .inside rest moments =>
    Visit.Leads store dialogue moments rest ∧ scene.changes.state ∈ moments
  | .back answer moments => Visit.Leads store dialogue moments (.done answer)
  | .outside | .lost => True

theorem Sound.change (h : scene.Sound store dialogue) (turn : Contention.Turn ρ) :
    (scene.step store dialogue (.change turn)).Sound store dialogue := by
  rcases scene with ⟨changes, visit⟩
  cases visit with
  | inside rest moments =>
    exact ⟨.passed _ h.1, List.mem_append_right _ List.mem_cons_self⟩
  | outside => exact h
  | back answer moments => exact h
  | lost => exact h

theorem Sound.enter (h : scene.Sound store dialogue) :
    (scene.step store dialogue .enter).Sound store dialogue := by
  rcases scene with ⟨changes, visit⟩
  cases visit with
  | outside => exact ⟨.entered _, List.mem_cons_self⟩
  | inside rest moments => exact h
  | back answer moments => exact h
  | lost => exact h

theorem Sound.proceed (h : scene.Sound store dialogue) :
    (scene.step store dialogue .proceed).Sound store dialogue := by
  rcases scene with ⟨changes, visit⟩
  cases visit with
  | inside rest moments =>
    cases rest with
    | done answer => exact h.1
    | ask call next =>
      rw [step]
      dsimp only
      rw [callStore]
      rcases hanswer : store.answer call changes.state with ⟨_ | answer, state⟩
      · trivial
      · exact ⟨.answered h.1 h.2 hanswer, List.mem_append_right _ List.mem_cons_self⟩
  | outside => exact h
  | back answer moments => exact h
  | lost => exact h

theorem Sound.step (h : scene.Sound store dialogue) (turn : Turn ρ) :
    (scene.step store dialogue turn).Sound store dialogue := by
  cases turn with
  | change turn => exact h.change turn
  | enter => exact h.enter
  | proceed => exact h.proceed

theorem Sound.run (h : scene.Sound store dialogue) (turns : List (Turn ρ)) :
    (scene.run store dialogue turns).Sound store dialogue := by
  induction turns generalizing scene with
  | nil => exact h
  | cons turn turns ih => exact ih (h.step turn)

/-- A visitor who asks the store once goes back with what the store answered at some moment of his
call, whatever the others did meanwhile. -/
theorem exists_moment_of_back {call : StoreCall} {conclude : call.Answer → α} {state : σ}
    {turns : List (Turn ρ)} {answer : α} {moments : List σ}
    (h : ((start state).run store (.ask call fun reply => .done (conclude reply)) turns :
      Overlap σ ρ α).visit = .back answer moments) :
    ∃ moment ∈ moments, ∃ reply after, store.answer call moment = (some reply, after) ∧
      answer = conclude reply := by
  have hsound : ((start state).run store (.ask call fun reply => .done (conclude reply)) turns :
      Overlap σ ρ α).Sound store (.ask call fun reply => .done (conclude reply)) :=
    Sound.run (show (start state : Overlap σ ρ α).Sound store _ from trivial) turns
  rw [Sound, h] at hsound
  exact hsound.exists_moment

end Overlap

/-! ## What a mint call answers -/

/-- A store is honest about what it holds for the device key when asked for the entry: it hands out
what it holds, and that there is nothing it says only if it holds nothing. -/
structure KeyStore.Honest {σ : Type} (store : KeyStore σ) (held : σ → Option KeyEntry) :
    Prop where
  found {state next : σ} {entry : KeyEntry} :
    store.answer (.entry DeviceKey.label) state = (some (Except.ok entry), next) →
      held state = some entry
  missing {state next : σ} {label : String} :
    store.answer (.entry DeviceKey.label) state = (some (Except.error (.notFound label)), next) →
      held state = none

/-- What a store hands out for the device key if it is asked for the entry. -/
def KeyStore.shown {σ : Type} (store : KeyStore σ) (state : σ) : Option KeyEntry :=
  (store.answer (.entry DeviceKey.label) state).1.bind Except.toOption

/-- Every store is honest about what it would hand out. -/
theorem KeyStore.honest_shown {σ : Type} (store : KeyStore σ) : store.Honest store.shown where
  found h := by
    rw [shown, h]
    rfl
  missing h := by
    rw [shown, h]
    rfl

/-- A token whose key id and signature are those of the key that it carries: the signature verifies
under the numbers that its JSON form spells, over the token's own signing input. -/
structure Token.Carries (text : String) (algorithm : Algorithm) (key : Rsa.PublicKey) : Prop where
  decoded : ∃ token modulus exponent, Token.decode text = .ok token ∧
    token.header.algorithm = algorithm.name ∧
    token.claims.confirmation.jwk = Jwk.ofKey key ∧
    token.claims.confirmation.jwk.components = .ok (modulus, exponent) ∧
    key = ⟨Bytes.toNat modulus, Bytes.toNat exponent⟩ ∧
    Thumbprint.ofJwk token.claims.confirmation.jwk = .ok token.header.keyId ∧
    algorithm.verify key (Utf8.encode token.signingInput) token.signature = true

namespace KeyEntry

variable {entry : KeyEntry} {key : Rsa.PrivateKey} {algorithm : Algorithm} {salt : Bytes}
  {request : Request} {token : String}

theorem SignsWith.token_carries (h : entry.SignsWith key)
    (hsalt : algorithm.padding = .salted → salt.length = algorithm.saltSize)
    (hlow : Claims.minTimestamp ≤ request.timestamp)
    (hhigh : request.timestamp ≤ Claims.maxTimestamp)
    (htoken : mint (entry.signer algorithm salt) request = .ok token) :
    Token.Carries token algorithm entry.publicKey := by
  rcases h.decode_of_mint hsalt hlow hhigh htoken with
    ⟨target, signature, -, -, -, hverify, hdecode⟩
  rcases positive_of_mint htoken with ⟨hmodulus, hexponent⟩
  rw [h.publicKey] at hmodulus hexponent ⊢
  have hcomponents : (Jwk.ofKey key.publicKey).components =
      .ok (Bytes.ofNat key.publicKey.modulus, Bytes.ofNat key.publicKey.exponent) :=
    Jwk.components_ofKey_of_pos hmodulus hexponent
  refine ⟨_, _, _, hdecode, rfl, rfl, hcomponents, ?_, ?_, hverify⟩
  · rw [Bytes.toNat_ofNat, Bytes.toNat_ofNat]
  · exact Thumbprint.ofJwk_eq_ok_iff.mpr ⟨⟨_, hcomponents⟩, rfl⟩

end KeyEntry

namespace Overlap

variable {σ ρ : Type} [DecidableEq ρ] {store : KeyStore σ} {held : σ → Option KeyEntry} {state : σ}
  {turns : List (Turn ρ)} {algorithm : Algorithm} {salt : Bytes} {request : Request}
  {answer : Except DeviceError String} {moments : List σ}

/-- A mint call makes its answer of what the store held at one moment of the call: of the entry, or
of there being none, unless the store failed. -/
theorem exists_moment_of_mint (hhonest : store.Honest held)
    (hback : ((start state).run store (DeviceKey.mint algorithm salt request) turns :
      Overlap σ ρ _).visit = .back answer moments) :
    ∃ moment ∈ moments,
      (∃ entry, held moment = some entry ∧
        answer = mint (entry.signer algorithm salt) request) ∨
      (held moment = none ∧ answer = .error .keyMissing) ∨
      ∃ error, answer = .error error ∧ error ≠ .keyMissing := by
  have hmint : DeviceKey.mint algorithm salt request =
      .ask (.entry DeviceKey.label) fun reply => .done ((DeviceKey.liftStore reply).bind
        fun entry => Possession.mint (entry.signer algorithm salt) request) := rfl
  rw [hmint] at hback
  rcases exists_moment_of_back hback with ⟨moment, hmem, reply, after, hreply, rfl⟩
  refine ⟨moment, hmem, ?_⟩
  cases reply with
  | ok entry =>
    refine .inl ⟨entry, hhonest.found hreply, ?_⟩
    rw [DeviceKey.liftStore, Outcome.mapError_ok, Except.bind]
  | error error =>
    by_cases hmissing : DeviceError.ofStoreError error = .keyMissing
    · rcases DeviceError.exists_of_ofStoreError_eq_keyMissing hmissing with ⟨label, rfl⟩
      refine .inr (.inl ⟨hhonest.missing hreply, ?_⟩)
      rw [DeviceKey.liftStore, Outcome.mapError_error, Except.bind, DeviceError.ofStoreError]
    · refine .inr (.inr ⟨.ofStoreError error, ?_, hmissing⟩)
      rw [DeviceKey.liftStore, Outcome.mapError_error, Except.bind]

/-- Whatever changes of the key fall into a mint call, and wherever they fall. A token that is
minted carries a key that was the store's at some moment of the call, is named after it and signed
with it. That the key is missing is answered only if the store held none at some such moment, or if
an entry that it held did not find its key when it was to sign; a private key in software always
does. -/
theorem mint_beside_changes (hhonest : store.Honest held)
    (hback : ((start state).run store (DeviceKey.mint algorithm salt request) turns :
      Overlap σ ρ _).visit = .back answer moments)
    (hpaired : ∀ moment ∈ moments, ∀ entry, held moment = some entry →
      ∃ key, entry.SignsWith key)
    (hsalt : algorithm.padding = .salted → salt.length = algorithm.saltSize)
    (hlow : Claims.minTimestamp ≤ request.timestamp)
    (hhigh : request.timestamp ≤ Claims.maxTimestamp) :
    (∀ token, answer = .ok token → ∃ moment ∈ moments, ∃ entry, held moment = some entry ∧
      Token.Carries token algorithm entry.publicKey) ∧
    (answer = .error .keyMissing → (∃ moment ∈ moments, held moment = none) ∨
      ∃ moment ∈ moments, ∃ entry target label, held moment = some entry ∧ ¬ entry.IsSoftware ∧
        Target.parse request.url = .ok target ∧
        entry.sign algorithm salt (Utf8.encode (entry.signingInput algorithm request target)) =
          .error (.notFound label)) := by
  rcases exists_moment_of_mint hhonest hback with ⟨moment, hmem, hanswer⟩
  constructor
  · rintro token rfl
    rcases hanswer with ⟨entry, hheld, hmint⟩ | ⟨-, hfailed⟩ | ⟨error, hfailed, -⟩
    · rcases hpaired moment hmem entry hheld with ⟨key, hsigns⟩
      exact ⟨moment, hmem, entry, hheld, hsigns.token_carries hsalt hlow hhigh hmint.symm⟩
    · cases hfailed
    · cases hfailed
  · rintro rfl
    rcases hanswer with ⟨entry, hheld, hmint⟩ | ⟨hheld, -⟩ | ⟨error, hfailed, hother⟩
    · rcases KeyEntry.exists_of_mint_eq_keyMissing hmint.symm with ⟨target, label, htarget, hsign⟩
      refine .inr ⟨moment, hmem, entry, target, label, hheld, ?_, htarget, hsign⟩
      intro hsoftware
      exact KeyEntry.mint_ne_keyMissing hsoftware hmint.symm
    · exact .inl ⟨moment, hmem, hheld⟩
    · cases hfailed
      exact absurd rfl hother

end Overlap

/-! ## Samples -/

theorem Memory.honest : store.Honest fun memory => memory.find? DeviceKey.label where
  found {memory next entry} h := by
    simp only [store, answer, Memory.entry] at h
    split at h
    · next found hfound =>
      cases h
      exact hfound
    · cases h
  missing {memory next label} h := by
    simp only [store, answer, Memory.entry] at h
    split at h
    · cases h
    · next hnone => exact hnone

namespace Overlap

/-- The key is fetched to mint a token, then another thread clears it, and then the call returns. -/
def sampleTurns : List (Turn Unit) :=
  [.change (.begin () .clear), .enter, .proceed, .change (.proceed ()), .change (.proceed ()),
    .change (.proceed ()), .proceed]

/-- The moments of the sample call: the key is there at first, and then no more. -/
def sampleMoments (entry : KeyEntry) : List Memory :=
  [.holding entry, .holding entry, .holding entry, (Memory.holding entry).erase DeviceKey.label,
    (Memory.holding entry).erase DeviceKey.label]

theorem sample_visit {α : Type} (entry : KeyEntry) (conclude : Except StoreError KeyEntry → α) :
    ((start (Memory.holding entry)).run Memory.store
      (.ask (.entry DeviceKey.label) fun reply => .done (conclude reply)) sampleTurns).visit =
        .back (conclude (.ok entry)) (sampleMoments entry) := rfl

theorem eq_of_mem_sampleMoments {entry found : KeyEntry} {moment : Memory}
    (hmem : moment ∈ sampleMoments entry) (h : moment.find? DeviceKey.label = some found) :
    found = entry := by
  simp only [sampleMoments, List.mem_cons, List.not_mem_nil, or_false] at hmem
  rcases hmem with rfl | rfl | rfl | rfl | rfl <;> cases h <;> rfl

theorem sample_mint_beside_changes : ∃ token,
    ((start (Memory.holding .sample)).run Memory.store
      (DeviceKey.mint .rs256 [] Client.sampleRequest) sampleTurns).visit =
        .back (.ok token) (sampleMoments .sample) ∧
    ∃ moment ∈ sampleMoments .sample, ∃ entry, moment.find? DeviceKey.label = some entry ∧
      Token.Carries token .rs256 entry.publicKey := by
  rcases KeyEntry.sample_mint with ⟨token, htoken⟩
  have hvisit := sample_visit .sample fun reply => (DeviceKey.liftStore reply).bind
    fun entry => mint (entry.signer .rs256 []) Client.sampleRequest
  rw [DeviceKey.liftStore, Outcome.mapError_ok, Except.bind, htoken] at hvisit
  refine ⟨token, hvisit, ?_⟩
  have hsalt : Algorithm.rs256.padding = .salted →
      ([] : Bytes).length = Algorithm.rs256.saltSize := by
    intro hsalted
    cases hsalted
  refine (mint_beside_changes Memory.honest hvisit ?_ hsalt (by decide) (by decide)).1 token rfl
  intro moment hmem entry hheld
  rw [eq_of_mem_sampleMoments hmem hheld]
  exact ⟨Client.sample.key, KeyEntry.sample_signsWith⟩

end Overlap

/-- A store that keeps one entry for good. -/
def KeyStore.constant (entry : KeyEntry) : KeyStore Unit where
  capabilities := ⟨.hardwareBacked, false⟩
  answer
    | .contains _, _ => (some (Except.ok true : Except StoreError Bool), ())
    | .entry _, _ => (some (Except.ok entry : Except StoreError KeyEntry), ())
    | .creationDate _, _ => (some (Except.ok entry.createdAt : Except StoreError Instant), ())
    | .generate _ _, _ =>
      (some (Except.error (.backend "read-only") : Except StoreError KeyEntry), ())
    | .delete _, _ => (some (Except.error (.backend "read-only") : Except StoreError Unit), ())

/-- The entry of the sample client's key whose key cannot be found when it is to sign. -/
def KeyEntry.absent : KeyEntry :=
  { sample with sign := fun _ _ _ => .error (.notFound DeviceKey.label) }

theorem KeyEntry.absent_mint :
    mint (absent.signer .rs256 []) Client.sampleRequest = .error .keyMissing := by
  have hthumbprint : Thumbprint.ofJwk absent.publicJwk = .ok absent.thumbprint :=
    Thumbprint.ofJwk_ofKey Client.sample_usable
  have hsign (message : Bytes) :
      absent.sign .rs256 [] message = .error (.notFound DeviceKey.label) := rfl
  simp only [mint, Mint.liftError, signer, Client.sampleTarget_parse, hthumbprint, hsign,
    Outcome.mapError_ok, Outcome.ok_bind, DeviceKey.liftStore, Outcome.mapError_error,
    DeviceError.ofStoreError, Outcome.error_bind]

/-- A missing key may be reported although the store holds an entry all the time, and its entries
pair private keys with their own public ones. -/
theorem Overlap.not_forall_exists_none : ¬ ∀ (σ : Type) (store : KeyStore σ)
    (held : σ → Option KeyEntry) (state : σ) (turns : List (Turn Unit)) (moments : List σ),
    store.Honest held →
    (∀ moment entry, held moment = some entry → ∃ key, entry.SignsWith key) →
    ((start state).run store (DeviceKey.mint .rs256 [] Client.sampleRequest) turns :
      Overlap σ Unit _).visit = .back (.error .keyMissing) moments →
        ∃ moment ∈ moments, held moment = none := by
  intro h
  have hvisit {α : Type} (conclude : Except StoreError KeyEntry → α) :
      ((start ()).run (.constant .absent)
        (.ask (.entry DeviceKey.label) fun reply => .done (conclude reply))
          [.enter, .proceed, .proceed] : Overlap Unit Unit α).visit =
            .back (conclude (.ok .absent)) [(), ()] := rfl
  have hback := hvisit fun reply => (DeviceKey.liftStore reply).bind
    fun entry => mint (entry.signer .rs256 []) Client.sampleRequest
  rw [DeviceKey.liftStore, Outcome.mapError_ok, Except.bind, KeyEntry.absent_mint] at hback
  have hhonest : (KeyStore.constant .absent).Honest fun _ => some .absent := by
    refine ⟨fun hfound => ?_, fun hmissing => ?_⟩
    · cases hfound
      rfl
    · cases hmissing
  have hpaired : ∀ (moment : Unit) (entry : KeyEntry), some KeyEntry.absent = some entry →
      ∃ key, entry.SignsWith key := by
    rintro moment entry ⟨⟩
    refine ⟨Client.sample.key, rfl, fun hsign => ?_⟩
    cases hsign
  rcases h Unit _ _ () _ _ hhonest hpaired hback with ⟨moment, -, hnone⟩
  cases hnone

end Possession
