import Possession.Proofs.Device.Lifecycle
import Possession.Proofs.Device.Tokens

/-!
# Generated keys and the protocol

A policy bounds the size of a key from below, and a verifier bounds it from above. Generation makes
keys of exactly the size that is asked for; so a key that it answers is of use to the protocol when
that size is at most the verifier's bound, and a larger one never is, although the policy is
accepted, the key is generated and tokens are minted with it.

* `KeyStore.Serviceable` and `KeyStore.Oversized` say what becomes of a key in the protocol.
* `StoreKind.serviceable_of_generate` is the condition on the size, and
  `StoreKind.not_forall_serviceable` a key that does not meet it.
-/

namespace Possession

theorem StoreKind.isMade_of_answer {directory : Path} {kind : StoreKind} {state next : kind.State}
    {label : String} {spec : KeySpec} {entry : KeyEntry}
    (h : (kind.store directory).answer (.generate label spec) state =
      (some (Except.ok entry), next)) : entry.IsMade spec.bits := by
  cases kind with
  | memory => exact Memory.isMade_of_answer h
  | file => exact KeyDirectory.isMade_of_answer h
  | keyring => exact Keychain.isMade_of_answer h

/-- A key that software made has the size that was asked for, and nothing is wrong with it but what
that size brings with it. -/
theorem KeyEntry.IsMade.exists_key {entry : KeyEntry} {bits : Nat} (h : entry.IsMade bits) :
    ∃ key, entry.SignsWith key ∧ key.publicKey.bits = bits ∧ key.publicKey.shapeFault? = none := by
  rcases h with ⟨label, key, createdAt, source, next, hmade, rfl⟩
  rcases Rsa.exists_primes_of_generate hmade with ⟨⟨_, _, -, -, -, hbits⟩, hshape⟩
  exact ⟨key, signsWith_ofPrivateKey label key createdAt .software, hbits, hshape⟩

namespace KeyStore

variable {σ : Type} {store : KeyStore σ} {entry : KeyEntry}

/-- While a store hands out an entry, the key that is exported is read back as the key of the entry,
and every token that is minted is accepted at its own time. -/
structure Serviceable (store : KeyStore σ) (entry : KeyEntry) : Prop where
  exported {state : σ} : store.HandsOut state entry → ∃ text jwk,
    (store.run (DeviceKey.publicKey .jwk) state).1 = some (.ok text) ∧
      Jwk.ofJson (Utf8.encode text) = .ok jwk ∧ jwk.toKey = .ok entry.publicKey
  minted {state : σ} {algorithm : Algorithm} {salt : Bytes} {request : Request} {token : String} :
    store.HandsOut state entry →
    (algorithm.padding = .salted → salt.length = algorithm.saltSize) →
    Claims.minTimestamp ≤ request.timestamp → request.timestamp ≤ Claims.maxTimestamp →
    (store.run (DeviceKey.mint algorithm salt request) state).1 = some (.ok token) →
      ∃ accepted, validate token .standard request.timestamp = .ok accepted

/-- While a store hands out an entry, the key that is exported is refused as too large, and so is
every token that is minted, whenever and whatever a server expects. -/
structure Oversized (store : KeyStore σ) (entry : KeyEntry) : Prop where
  exported {state : σ} : store.HandsOut state entry → ∃ text jwk,
    (store.run (DeviceKey.publicKey .jwk) state).1 = some (.ok text) ∧
      Jwk.ofJson (Utf8.encode text) = .ok jwk ∧
        jwk.toKey = .error (.invalidJwk Rsa.Fault.modulusTooLarge.message)
  minted {state : σ} {algorithm : Algorithm} {salt : Bytes} {request : Request} {token : String} :
    store.HandsOut state entry →
    (algorithm.padding = .salted → salt.length = algorithm.saltSize) →
    Claims.minTimestamp ≤ request.timestamp → request.timestamp ≤ Claims.maxTimestamp →
    (store.run (DeviceKey.mint algorithm salt request) state).1 = some (.ok token) →
      ∀ expectations now, validate token expectations now =
        .error (.invalidKey Rsa.Fault.modulusTooLarge.message)

end KeyStore

namespace KeyStore

variable {σ : Type} {store : KeyStore σ} {entry : KeyEntry} {key : Rsa.PrivateKey}

theorem serviceable_of_signsWith (h : entry.SignsWith key) (hkey : key.publicKey.fault? = none) :
    store.Serviceable entry where
  exported hout := by
    refine ⟨_, entry.publicJwk, hout.publicKey .jwk, Jwk.ofJson_toJson _, ?_⟩
    rw [KeyEntry.publicJwk, h.publicKey]
    exact Jwk.toKey_ofKey hkey
  minted hout hsalt hlow hhigh hmint := by
    rw [hout.mint, Option.some.injEq] at hmint
    rcases h.validate_of_mint hkey hsalt hlow hhigh hmint with ⟨target, hvalid⟩
    exact ⟨_, hvalid⟩

theorem oversized_of_signsWith (h : entry.SignsWith key)
    (hsize : Rsa.maxModulusBits < key.publicKey.bits) (hshape : key.publicKey.shapeFault? = none) :
    store.Oversized entry where
  exported hout := by
    refine ⟨_, entry.publicJwk, hout.publicKey .jwk, Jwk.ofJson_toJson _, ?_⟩
    rw [KeyEntry.publicJwk, h.publicKey]
    rcases Rsa.PublicKey.positive_of_shapeFault? hshape with ⟨hmodulus, hexponent⟩
    exact Jwk.toKey_ofKey_of_fault hmodulus hexponent (if_pos hsize)
  minted hout hsalt hlow hhigh hmint := by
    rw [hout.mint, Option.some.injEq] at hmint
    exact h.validate_of_fault (if_pos hsize) hsalt hlow hhigh hmint

/-- A key that is refused as too large is not of use, if it is ever handed out. -/
theorem Oversized.not_serviceable (h : store.Oversized entry) {state : σ}
    (hout : store.HandsOut state entry) : ¬ store.Serviceable entry := by
  intro hserviceable
  rcases h.exported hout with ⟨text, jwk, hexport, hread, hrefused⟩
  rcases hserviceable.exported hout with ⟨other, key, hother, hkey, haccepted⟩
  -- both are what is read of the one text that is exported
  cases hexport.symm.trans hother
  cases hread.symm.trans hkey
  cases hrefused.symm.trans haccepted

end KeyStore

namespace StoreKind

variable {directory : Path} {kind : StoreKind} {policy : Policy}
  {start next : kind.State × (Nat → Supply)} {identity : KeyIdentity}

/-- A generation answers a key that software made at exactly the policy's size and that the policy
accepts. A store that was a cell before holds it and hands it out. -/
theorem exists_key_of_generate
    (hrun : ((kind.store directory).supplied kind.resupply).run (DeviceKey.generate policy) start =
      (some (.ok identity), next)) :
    ∃ (entry : KeyEntry) (key : Rsa.PrivateKey), entry.identity = identity ∧
      entry.SignsWith key ∧ key.publicKey.bits = policy.keySize ∧
      key.publicKey.shapeFault? = none ∧ policy.accepts entry.reportedBits = true ∧
      ((∃ held, kind.Holds directory start.1 held) → (∀ index, (start.2 index).now.IsValid) →
        kind.Holds directory next.1 (some entry) ∧
          ((kind.store directory).supplied kind.resupply).HandsOut next entry) := by
  have hcell := kind.isCell directory
  -- what the calls keep of a cell is asked for only if the store is one to begin with
  have hkeeps : ((kind.store directory).supplied kind.resupply).Keeps DeviceKey.label fun state =>
      (∃ held, kind.Holds directory start.1 held ∧ ∀ index, (start.2 index).now.IsValid) →
        ∃ held, kind.Holds directory state.1 held ∧ ∀ index, (state.2 index).now.IsValid :=
    fun hlabel hbefore hanswer hstart => hcell.keeps hlabel (hbefore hstart) hanswer
  rcases DeviceKey.exists_answer_of_run hkeeps id hrun with
    ⟨before, spec, entry, hbefore, hspec, hanswer, haccepts, hidentity⟩
  have hmade : entry.IsMade spec.bits := isMade_of_answer (KeyStore.answer_of_supplied hanswer)
  rcases hmade.exists_key with ⟨key, hsigns, hbits, hshape⟩
  refine ⟨entry, key, hidentity, hsigns, hbits.trans hspec, hshape, haccepts, ?_⟩
  rintro ⟨held, hholds⟩ hvalid
  rcases hbefore ⟨held, hholds, hvalid⟩ with ⟨found, hfound⟩
  have hafter := hcell.holds_of_answer hfound hanswer
  exact ⟨hafter.1, hcell.handsOut hafter⟩

/-- A generation under any policy, on any kind of store, whatever has become of it before and
whatever its calls draw on, answers a key of exactly the policy's size, which the policy accepts. Up
to the verifier's bound on a modulus the key serves the protocol; above it, it never does. -/
theorem serviceable_of_generate
    (hrun : ((kind.store directory).supplied kind.resupply).run (DeviceKey.generate policy) start =
      (some (.ok identity), next)) :
    ∃ entry : KeyEntry, entry.identity = identity ∧ entry.publicKey.bits = policy.keySize ∧
      policy.accepts entry.reportedBits = true ∧
      -- a store without faults holds the key afterwards, and hands it out
      ((∃ held, kind.Holds directory start.1 held) → (∀ index, (start.2 index).now.IsValid) →
        kind.Holds directory next.1 (some entry) ∧
          ((kind.store directory).supplied kind.resupply).HandsOut next entry) ∧
      (policy.keySize ≤ Rsa.maxModulusBits →
        ((kind.store directory).supplied kind.resupply).Serviceable entry) ∧
      (Rsa.maxModulusBits < policy.keySize →
        ((kind.store directory).supplied kind.resupply).Oversized entry) := by
  rcases exists_key_of_generate hrun with
    ⟨entry, key, hidentity, hsigns, hbits, hshape, haccepts, hheld⟩
  refine ⟨entry, hidentity, ?_, haccepts, hheld, ?_, ?_⟩
  · rw [hsigns.publicKey, hbits]
  · intro hsize
    have hkey : key.publicKey.fault? = none := by
      rw [Rsa.PublicKey.fault?, hbits, if_neg (Nat.not_lt.mpr hsize), hshape]
    exact KeyStore.serviceable_of_signsWith hsigns hkey
  · intro hsize
    exact KeyStore.oversized_of_signsWith hsigns (hbits ▸ hsize) hshape

theorem sample_serviceable_of_generate : ∃ identity next,
    ((StoreKind.memory.store []).supplied StoreKind.memory.resupply).run
        (DeviceKey.generate samplePolicy) sampleStart = (some (.ok identity), next) ∧
      ∃ entry : KeyEntry, entry.identity = identity ∧ entry.publicKey.bits = 512 ∧
        samplePolicy.accepts entry.reportedBits = true ∧
        ((StoreKind.memory.store []).supplied StoreKind.memory.resupply).HandsOut next entry ∧
        ((StoreKind.memory.store []).supplied StoreKind.memory.resupply).Serviceable entry := by
  rcases sample_run with ⟨identity, next, hrun⟩
  rcases serviceable_of_generate hrun with
    ⟨entry, hidentity, hbits, haccepts, hheld, hserviceable, -⟩
  have hvalid : sampleSupply.now.IsValid := Instant.isValid_epoch
  have hholds : StoreKind.memory.Holds [] sampleStart.1 none := holds_none rfl
  have hout := (hheld ⟨none, hholds⟩ fun _ => hvalid).2
  exact ⟨identity, next, hrun, entry, hidentity, hbits, haccepts, hout, hserviceable (by decide)⟩

/-! ## A key that is too large -/

/-- The standard policy for keys one bit larger than a verifier takes them. -/
def largePolicy : Policy :=
  { Policy.standard with keySize := Rsa.maxModulusBits + 1 }

/-- A supply with which a key of that size is found soon: both numbers that are drawn are primes. -/
def largeSupply : Supply :=
  ⟨.ofSeed [3, 39, 37], ⟨0, 0⟩⟩

theorem large_generate :
    (Rsa.generate largePolicy.keySize largeSupply.entropy).isOk = true := by
  decide +kernel

/-- A key that is generated is not always of use in the protocol. -/
theorem not_forall_serviceable :
    ¬ ∀ (policy : Policy) (supply : Supply) (identity : KeyIdentity)
      (next : Memory × (Nat → Supply)) (entry : KeyEntry), supply.now.IsValid →
      ((StoreKind.memory.store []).supplied StoreKind.memory.resupply).run
          (DeviceKey.generate policy) (Memory.empty supply, fun _ => supply) =
        (some (.ok identity), next) →
      ((StoreKind.memory.store []).supplied StoreKind.memory.resupply).HandsOut next entry →
        ((StoreKind.memory.store []).supplied StoreKind.memory.resupply).Serviceable entry := by
  intro h
  have hrun : ∃ identity next,
      ((StoreKind.memory.store []).supplied StoreKind.memory.resupply).run
        (DeviceKey.generate largePolicy) (Memory.empty largeSupply, fun _ => largeSupply) =
          (some (.ok identity), next) :=
    Memory.exists_run_of_generate rfl large_generate (by decide)
  rcases hrun with ⟨identity, next, hrun⟩
  -- which key was generated is not computed: it has the size of the policy, whichever it is
  rcases exists_key_of_generate hrun with ⟨entry, key, -, hsigns, hbits, hshape, -, hheld⟩
  have hvalid : largeSupply.now.IsValid := Instant.isValid_epoch
  have hholds : StoreKind.memory.Holds [] (Memory.empty largeSupply) none := holds_none rfl
  have hout := (hheld ⟨none, hholds⟩ fun _ => hvalid).2
  have hsize : Rsa.maxModulusBits < key.publicKey.bits := by
    rw [hbits]
    decide
  exact (KeyStore.oversized_of_signsWith hsigns hsize hshape).not_serviceable hout
    (h largePolicy largeSupply identity next entry hvalid hrun hout)

end StoreKind

end Possession
