import Possession.Device.Signatures
import Possession.Proofs.Device.Naming
import Possession.Proofs.Schemes

/-!
# Signatures of texts are verified

A text is signed by one way and a signature is checked by another, and the two have only the key and
the alphabet in common. Each reads the name of the algorithm for itself, and the one that checks
leaves out the blanks of the signature first, wherever they stand.

* `Ascii.Spaced` says that a text has blanks put in.
* `KeyEntry.AcceptsOwn` is what signatures of a key come down to: its public half accepts them.
* `verdict_of_signature` puts together what a check shows.
-/

namespace Possession

/-! ## Blanks -/

/-- A text with ASCII blanks put in, anywhere and as many as one likes. -/
inductive Ascii.Spaced : (text spaced : List Char) → Prop where
  | done : Spaced [] []
  | keep (c : Char) {text spaced : List Char} : Spaced text spaced →
    Spaced (c :: text) (c :: spaced)
  | blank {c : Char} {text spaced : List Char} : Ascii.isBlank c = true → Spaced text spaced →
    Spaced text (c :: spaced)

theorem Ascii.Spaced.filter_eq {text spaced : List Char} (h : Spaced text spaced) :
    (spaced.filter fun c => !isBlank c) = text.filter fun c => !isBlank c := by
  induction h with
  | done => rfl
  | keep c _ ih => rw [List.filter_cons, List.filter_cons, ih]
  | blank hblank _ ih =>
    rw [List.filter_cons_of_neg (by simp [hblank]), ih]

/-- A text of which each character has a line of its own. -/
theorem Ascii.spaced_lines (text : List Char) : Spaced text (text.flatMap fun c => [c, '\n']) := by
  induction text with
  | nil => exact .done
  | cons c text ih => exact .keep c (.blank rfl ih)

namespace DeviceKey

theorem compact_of_spaced {text spaced : String} (h : Ascii.Spaced text.toList spaced.toList) :
    compact spaced = compact text := by
  rw [compact, compact, h.filter_eq]

theorem compact_compact (text : String) : compact (compact text) = compact text := by
  rw [compact, compact, String.toList_ofList, List.filter_filter]
  simp

/-- A written signature has no blanks. -/
theorem compact_encode (octets : Bytes) :
    compact (Base64.standard.encode octets) = Base64.standard.encode octets := by
  have hnone : ∀ c ∈ (Base64.standard.encode octets).toList, (!Ascii.isBlank c) = true := by
    intro c hc
    rw [Bool.not_eq_true', ← Bool.not_eq_true]
    intro hblank
    simp only [Ascii.isBlank, Bool.or_eq_true, beq_iff_eq] at hblank
    rcases hblank with (((rfl | rfl) | rfl) | rfl) | rfl <;>
      exact Base64.not_mem_encode Base64.proper_standard (by decide) (by decide) octets hc
  rw [compact, List.filter_eq_self.mpr hnone, String.ofList_toList]

/-! ## Reading signatures -/

theorem readSignature_eq_ok_iff {signature : String} {octets : Bytes} :
    readSignature signature = .ok octets ↔ compact signature = Base64.standard.encode octets := by
  rw [readSignature, Outcome.mapError_eq_ok_iff, Base64.decode_eq_ok_iff Base64.proper_standard]

theorem parseAlgorithm_eq_ok_iff {name : String} {algorithm : Algorithm} :
    parseAlgorithm name = .ok algorithm ↔ Algorithm.parse name = .ok algorithm := by
  rw [parseAlgorithm, Outcome.mapError_eq_ok_iff]

/-- A check does not notice blanks. -/
theorem verify_of_compact {signature other : String} (h : compact signature = compact other)
    (name text : String) : verify name text signature = verify name text other := by
  unfold verify readSignature
  rw [h]

end DeviceKey

/-! ## Entries -/

/-- An algorithm accepts under the public half of a key, as a signature of a message, what the key
has made as one. A salted algorithm takes a salt of its size. -/
def KeyEntry.AcceptsOwn (entry : KeyEntry) : Prop :=
  ∀ {algorithm : Algorithm} {salt message signature : Bytes},
    (algorithm.padding = .salted → salt.length = algorithm.saltSize) →
    entry.sign algorithm salt message = .ok signature →
      algorithm.verify entry.publicKey message signature = true

theorem KeyEntry.sign_ofPrivateKey {label : String} {key : Rsa.PrivateKey} {createdAt : Instant}
    {backing : Backing} {algorithm : Algorithm} {salt message signature : Bytes}
    (h : algorithm.sign key salt message = .ok signature) :
    (ofPrivateKey label key createdAt backing).sign algorithm salt message = .ok signature :=
  Outcome.mapError_eq_ok_iff.mpr h

/-- The entry of any private key does, whatever its numbers. -/
theorem KeyEntry.SignsWith.acceptsOwn {entry : KeyEntry} {key : Rsa.PrivateKey}
    (h : entry.SignsWith key) : entry.AcceptsOwn := by
  intro algorithm salt message signature hsalt hsign
  have hsigned := h.sign hsign
  have hmodulus := (Algorithm.fits_of_sign hsalt hsigned).modulus_pos
  rw [h.publicKey]
  exact (Algorithm.verify_sign hmodulus hsalt hsigned).2

namespace KeyStore

variable {σ : Type} {store : KeyStore σ} {state : σ} {entry : KeyEntry} {algorithm : Algorithm}
  {name : String}

theorem HandsOut.sign (h : store.HandsOut state entry)
    (hname : Algorithm.parse name = .ok algorithm) (salt : Bytes) (text : String) :
    (store.run (DeviceKey.sign name salt text) state).1 =
      some ((DeviceKey.liftStore (entry.sign algorithm salt (Utf8.encode text))).map
        Base64.standard.encode) := by
  rcases h with ⟨next, hrun⟩
  unfold DeviceKey.sign
  rw [DeviceKey.parseAlgorithm_eq_ok_iff.mpr hname]
  dsimp only
  rw [run_bind hrun]
  rfl

theorem HandsOut.verify (h : store.HandsOut state entry)
    (hname : Algorithm.parse name = .ok algorithm) {signature : String} {octets : Bytes}
    (hread : DeviceKey.compact signature = Base64.standard.encode octets) (text : String) :
    ∃ next, store.run (DeviceKey.verify name text signature) state =
      (some (if algorithm.verify entry.publicKey (Utf8.encode text) octets then .valid
        else .invalid), next) := by
  rcases h with ⟨next, hrun⟩
  refine ⟨next, ?_⟩
  unfold DeviceKey.verify
  rw [DeviceKey.parseAlgorithm_eq_ok_iff.mpr hname, DeviceKey.readSignature_eq_ok_iff.mpr hread]
  dsimp only
  rw [run_bind hrun]
  rfl

/-- A signature is valid only where the algorithm accepts what is written there under the key of the
entry. -/
theorem valid_iff {text signature : String} :
    (store.run (DeviceKey.verify name text signature) state).1 = some .valid ↔
      ∃ algorithm entry octets, Algorithm.parse name = .ok algorithm ∧
        store.HandsOut state entry ∧
        DeviceKey.compact signature = Base64.standard.encode octets ∧
        algorithm.verify entry.publicKey (Utf8.encode text) octets = true := by
  constructor
  · intro h
    rcases hrun : store.run (DeviceKey.verify name text signature) state with ⟨verdict, next⟩
    rw [hrun] at h
    cases h
    unfold DeviceKey.verify at hrun
    split at hrun
    · cases hrun
    next algorithm hname =>
      split at hrun
      · cases hrun
      next octets hread =>
        rcases Dialogue.exists_of_run_bind hrun with ⟨_ | entry, middle, hentry, hchecked⟩
        · cases hchecked
        refine ⟨algorithm, entry, octets, DeviceKey.parseAlgorithm_eq_ok_iff.mp hname,
          ⟨middle, hentry⟩, DeviceKey.readSignature_eq_ok_iff.mp hread, ?_⟩
        by_contra hrefused
        dsimp only at hchecked
        rw [KeyEntry.verify, if_neg hrefused] at hchecked
        cases hchecked
  · rintro ⟨algorithm, entry, octets, hname, hout, hread, haccepts⟩
    rcases hout.verify hname hread text with ⟨next, hrun⟩
    rw [hrun, if_pos haccepts]

theorem HandsOut.verifies (h : store.HandsOut state entry)
    (hname : Algorithm.parse name = .ok algorithm) {signature : String} {octets : Bytes}
    (hread : DeviceKey.compact signature = Base64.standard.encode octets) (text : String)
    (haccepts : algorithm.verify entry.publicKey (Utf8.encode text) octets = true) :
    (store.run (DeviceKey.verify name text signature) state).1 = some .valid ∧
      (store.run (DeviceKey.verifies name text signature) state).1 = some true := by
  rcases h.verify hname hread text with ⟨next, hrun⟩
  rw [if_pos haccepts] at hrun
  rw [DeviceKey.verifies, run_bind hrun, hrun]
  exact ⟨rfl, rfl⟩

/-- What was signed for a text is written without blanks, and the key accepts it. -/
theorem HandsOut.exists_of_sign (h : store.HandsOut state entry)
    (hname : Algorithm.parse name = .ok algorithm) {salt : Bytes} {text signature : String}
    (hsign : (store.run (DeviceKey.sign name salt text) state).1 = some (.ok signature)) :
    ∃ octets, signature = Base64.standard.encode octets ∧
      entry.sign algorithm salt (Utf8.encode text) = .ok octets := by
  rw [h.sign hname, Option.some.injEq, Outcome.map_eq_ok_iff] at hsign
  rcases hsign with ⟨octets, hlifted, rfl⟩
  exact ⟨octets, rfl, Outcome.mapError_eq_ok_iff.mp hlifted⟩

end KeyStore

/-- What a check of a signature shows. A signature that was given out is valid under every name of
its algorithm as long as the key is the same, whatever blanks are put in; in general a check does
not notice blanks, and shows that a signature is valid exactly where it is the base64 of octets that
the algorithm accepts under the public half of the key. The names of an algorithm are those that
`Algorithm.IsNamed` describes. The only assumption is that the key accepts its own signatures, and
the entry of a private key does. -/
theorem verdict_of_signature :
    (∀ {σ : Type} (store : KeyStore σ) (before later : σ) (entry current : KeyEntry)
      (algorithm : Algorithm) (first second text signature spaced : String) (salt : Bytes),
      store.HandsOut before entry → entry.AcceptsOwn →
      Algorithm.parse first = .ok algorithm → Algorithm.parse second = .ok algorithm →
      (algorithm.padding = .salted → salt.length = algorithm.saltSize) →
      (store.run (DeviceKey.sign first salt text) before).1 = some (.ok signature) →
      Ascii.Spaced signature.toList spaced.toList →
      store.HandsOut later current → current.publicKey = entry.publicKey →
      (store.run (DeviceKey.verify second text spaced) later).1 = some .valid ∧
        (store.run (DeviceKey.verifies second text spaced) later).1 = some true) ∧
    (∀ name text signature, DeviceKey.verify name text signature =
      DeviceKey.verify name text (DeviceKey.compact signature)) ∧
    (∀ {σ : Type} (store : KeyStore σ) (state : σ) (name text signature : String),
      (store.run (DeviceKey.verify name text signature) state).1 = some .valid ↔
        ∃ algorithm entry octets, Algorithm.parse name = .ok algorithm ∧
          store.HandsOut state entry ∧
          DeviceKey.compact signature = Base64.standard.encode octets ∧
          algorithm.verify entry.publicKey (Utf8.encode text) octets = true) ∧
    (∀ name algorithm, Algorithm.parse name = .ok algorithm ↔ algorithm.IsNamed name) ∧
    ∀ (entry : KeyEntry) (key : Rsa.PrivateKey), entry.SignsWith key → entry.AcceptsOwn := by
  refine ⟨?_, ?_, ?_, ?_, fun entry key hsigns => hsigns.acceptsOwn⟩
  · intro σ store before later entry current algorithm first second text signature spaced salt
      hbefore haccepts hfirst hsecond hsalt hsign hspaced hlater hsame
    rcases hbefore.exists_of_sign hfirst hsign with ⟨octets, rfl, hsigned⟩
    have hread : DeviceKey.compact spaced = Base64.standard.encode octets := by
      rw [DeviceKey.compact_of_spaced hspaced, DeviceKey.compact_encode]
    refine hlater.verifies hsecond hread text ?_
    -- Whoever holds the key by now, checking is a matter of its public half.
    rw [hsame]
    exact haccepts hsalt hsigned
  · intro name text signature
    exact DeviceKey.verify_of_compact (DeviceKey.compact_compact signature).symm name text
  · intro σ store state name text signature
    exact KeyStore.valid_iff
  · intro name algorithm
    exact Algorithm.parse_eq_ok_iff

theorem sample_verdict_of_signature :
    let state := Memory.holding (.ofPrivateKey DeviceKey.label Rsa.samplePair ⟨0, 0⟩ .software)
    ∃ signature, (Memory.store.run (DeviceKey.sign "PS512" (List.replicate 64 7) "hello") state).1 =
        some (.ok signature) ∧
      (Memory.store.run (DeviceKey.verify "\tsha512withRSA/pss " "hello"
        (String.ofList (signature.toList.flatMap fun c => [c, '\n']))) state).1 = some .valid := by
  intro state
  let entry := KeyEntry.ofPrivateKey DeviceKey.label Rsa.samplePair ⟨0, 0⟩ .software
  have hout := Memory.holding_handsOut entry
  have hsigns := KeyEntry.signsWith_ofPrivateKey DeviceKey.label Rsa.samplePair ⟨0, 0⟩ .software
  have hsalt : (⟨.salted, .sha512⟩ : Algorithm).padding = .salted →
      (List.replicate 64 (7 : UInt8)).length = (⟨.salted, .sha512⟩ : Algorithm).saltSize :=
    fun _ => List.length_replicate
  have hfirst : Algorithm.parse "PS512" = .ok ⟨.salted, .sha512⟩ := by decide +kernel
  have hsecond : Algorithm.parse "\tsha512withRSA/pss " = .ok ⟨.salted, .sha512⟩ := by
    decide +kernel
  obtain ⟨octets, hsigned⟩ : ∃ octets, Algorithm.sign ⟨.salted, .sha512⟩ Rsa.samplePair
      (List.replicate 64 7) (Utf8.encode "hello") = .ok octets :=
    (Algorithm.exists_sign_iff Rsa.samplePair_isPair hsalt).mpr (Algorithm.fits_samplePair _)
  have hsign := hout.sign hfirst (List.replicate 64 7) "hello"
  rw [KeyEntry.sign_ofPrivateKey hsigned] at hsign
  refine ⟨_, hsign, ?_⟩
  refine (verdict_of_signature.1 _ _ _ _ _ _ _ _ _ _ _ _ hout hsigns.acceptsOwn hfirst hsecond
    hsalt hsign ?_ hout rfl).1
  rw [String.toList_ofList]
  exact Ascii.spaced_lines _

end Possession
