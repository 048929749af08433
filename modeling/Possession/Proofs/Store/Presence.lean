import Possession.Proofs.Dialogue
import Possession.Proofs.Outcome
import Possession.Store.Directory
import Possession.Store.Keychain
import Possession.Store.Memory

/-!
# What stores tell about presence

Three calls of a store read: one asks whether there is an entry, one for the entry, and one for the
time at which it was made. Each looks the alias up anew. They agree when all of them tell an alias
under which there is nothing from one under which there is something, even where no key can be made
of what is there.

* `KeyStore.report` is what the three calls answer, `KeyReport.Agrees` that their answers agree.
* `KeyReport.agrees_ofRecord` settles it for the stores that make an entry of a record.
* `reads_agree_iff` says for each of the stores what a look-up must not come to.
-/

namespace Possession

/-- What a store answers to the calls that read. -/
structure KeyReport where
  contains : Option (Except StoreError Bool)
  entry : Option (Except StoreError KeyEntry)
  createdAt : Option (Except StoreError Instant)

def KeyStore.report {σ : Type} (store : KeyStore σ) (label : String) (state : σ) : KeyReport where
  contains := (store.answer (.contains label) state).1
  entry := (store.answer (.entry label) state).1
  createdAt := (store.answer (.creationDate label) state).1

/-! ## Agreement -/

section Answers

variable {α : Type}

/-- An answer that there is nothing. -/
def TellsAbsence (answer : Option (Except StoreError α)) : Prop :=
  ∃ label, answer = some (.error (.notFound label))

/-- An answer that there is something, though perhaps not a key. -/
def TellsPresence (answer : Option (Except StoreError α)) : Prop :=
  (∃ value, answer = some (.ok value)) ∨ ∃ reason, answer = some (.error (.unrecoverable reason))

@[simp]
theorem tellsAbsence_error (error : StoreError) :
    TellsAbsence (some (.error error) : Option (Except StoreError α)) ↔
      ∃ label, error = .notFound label := by
  simp [TellsAbsence]

@[simp]
theorem not_tellsAbsence_ok (value : α) : ¬ TellsAbsence (some (.ok value)) := by
  simp [TellsAbsence]

@[simp]
theorem tellsPresence_error (error : StoreError) :
    TellsPresence (some (.error error) : Option (Except StoreError α)) ↔
      ∃ reason, error = .unrecoverable reason := by
  simp [TellsPresence]

@[simp]
theorem tellsPresence_ok (value : α) : TellsPresence (some (.ok value)) :=
  .inl ⟨value, rfl⟩

end Answers

/-- Answers of which none takes for missing, or for out of reach, what another has found. -/
structure KeyReport.Agrees (report : KeyReport) : Prop where
  entry : report.contains = some (.ok false) ↔ TellsAbsence report.entry
  createdAt : report.contains = some (.ok false) ↔ TellsAbsence report.createdAt
  present : TellsPresence report.entry → report.contains = some (.ok true)

/-! ## Records -/

namespace StoredKey

variable {label : String} {result : Except StoreError StoredKey}

/-- Taking the key out of a record fails in one way only. -/
theorem tellsPresence_toEntry (stored : StoredKey) (label : String) :
    TellsPresence (some (stored.toEntry label)) := by
  have hkey : TellsPresence (some stored.toKey) := by
    rw [toKey]
    split
    · exact .inr ⟨_, rfl⟩
    · split
      · exact .inr ⟨_, rfl⟩
      · exact .inl ⟨_, rfl⟩
  rw [toEntry]
  cases hresult : stored.toKey with
  | ok key => exact .inl ⟨_, rfl⟩
  | error error =>
    rw [hresult] at hkey
    rcases (tellsPresence_error error).mp hkey with ⟨reason, rfl⟩
    exact .inr ⟨reason, rfl⟩

/-- So does reading the text of a record. -/
theorem tellsPresence_ofJson (bytes : Bytes) : TellsPresence (some (ofJson bytes)) := by
  rw [ofJson]
  cases shape.decode ofValue? bytes with
  | ok stored => exact .inl ⟨stored, rfl⟩
  | error fault => exact .inr ⟨_, rfl⟩

theorem tellsAbsence_bind_toEntry :
    TellsAbsence (some (result.bind fun stored => stored.toEntry label)) ↔
      TellsAbsence (some result) := by
  cases result with
  | error error => exact (tellsAbsence_error error).trans (tellsAbsence_error error).symm
  | ok stored =>
    refine iff_of_false ?_ (not_tellsAbsence_ok stored)
    rintro ⟨missing, hmissing⟩
    rcases stored.tellsPresence_toEntry label with ⟨entry, hentry⟩ | ⟨reason, hentry⟩
    · cases hmissing.symm.trans hentry
    · cases hmissing.symm.trans hentry

theorem tellsAbsence_map_createdAt :
    TellsAbsence (some (result.map (·.createdAt))) ↔ TellsAbsence (some result) := by
  cases result with
  | error error => exact (tellsAbsence_error error).trans (tellsAbsence_error error).symm
  | ok stored => exact iff_of_false (not_tellsAbsence_ok _) (not_tellsAbsence_ok stored)

theorem tellsPresence_bind_toEntry :
    TellsPresence (some (result.bind fun stored => stored.toEntry label)) ↔
      TellsPresence (some result) := by
  cases result with
  | error error => exact (tellsPresence_error error).trans (tellsPresence_error error).symm
  | ok stored => exact iff_of_true (stored.tellsPresence_toEntry label) (tellsPresence_ok stored)

end StoredKey

namespace KeyReport

/-- What a store tells that makes its entries of records, given what looking for a record and
reading one come to. -/
def ofRecord (label : String) (contains : Except StoreError Bool)
    (result : Except StoreError StoredKey) : KeyReport where
  contains := some contains
  entry := some (result.bind fun stored => stored.toEntry label)
  createdAt := some (result.map (·.createdAt))

/-- That a record is no key makes no difference to whether the calls agree. -/
theorem agrees_ofRecord {label : String} {contains : Except StoreError Bool}
    {result : Except StoreError StoredKey} :
    (ofRecord label contains result).Agrees ↔
      (contains = .ok false ↔ TellsAbsence (some result)) ∧
        (TellsPresence (some result) → contains = .ok true) := by
  constructor
  · rintro ⟨hentry, -, hpresent⟩
    refine ⟨?_, fun htells => ?_⟩
    · exact Option.some_inj.symm.trans (hentry.trans StoredKey.tellsAbsence_bind_toEntry)
    · exact Option.some_inj.mp (hpresent (StoredKey.tellsPresence_bind_toEntry.mpr htells))
  · rintro ⟨habsent, hpresent⟩
    refine ⟨?_, ?_, fun htells => ?_⟩
    · exact Option.some_inj.trans (habsent.trans StoredKey.tellsAbsence_bind_toEntry.symm)
    · exact Option.some_inj.trans (habsent.trans StoredKey.tellsAbsence_map_createdAt.symm)
    · exact congrArg some (hpresent (StoredKey.tellsPresence_bind_toEntry.mp htells))

/-- A record that was found and read. -/
theorem agrees_of_present {label : String} {result : Except StoreError StoredKey}
    (h : TellsPresence (some result)) : (ofRecord label (.ok true) result).Agrees := by
  refine agrees_ofRecord.mpr ⟨iff_of_false nofun ?_, fun _ => rfl⟩
  rintro ⟨missing, hmissing⟩
  rcases h with ⟨stored, hstored⟩ | ⟨reason, hreason⟩
  · cases hmissing.symm.trans hstored
  · cases hmissing.symm.trans hreason

/-- A look-up that finds nothing. -/
theorem agrees_of_absent (label missing : String) :
    (ofRecord label (.ok false) (.error (.notFound missing))).Agrees :=
  agrees_ofRecord.mpr ⟨iff_of_true rfl ⟨missing, rfl⟩, by simp⟩

/-- A failure that says nothing of what is there agrees with any that does not either, and with a
look-up that has found something. -/
theorem agrees_of_failed {label : String} {contains : Except StoreError Bool} {error : StoreError}
    (hcontains : contains ≠ .ok false) (habsent : ∀ missing, error ≠ .notFound missing)
    (hpresent : ∀ reason, error ≠ .unrecoverable reason) :
    (ofRecord label contains (.error error)).Agrees := by
  refine agrees_ofRecord.mpr ⟨iff_of_false hcontains ?_, fun htells => ?_⟩
  · intro htells
    rcases (tellsAbsence_error error).mp htells with ⟨missing, hmissing⟩
    exact habsent missing hmissing
  · rcases (tellsPresence_error error).mp htells with ⟨reason, hreason⟩
    exact absurd hreason (hpresent reason)

end KeyReport

/-! ## Memory -/

theorem Memory.agrees (label : String) (memory : Memory) :
    (store.report label memory).Agrees := by
  have hcontains : (store.report label memory).contains =
      some (.ok (memory.find? label).isSome) := rfl
  have hentry : (store.report label memory).entry = some (memory.entry label) := rfl
  have hcreated : (store.report label memory).createdAt =
      some ((memory.entry label).map (·.createdAt)) := rfl
  rw [Memory.entry] at hentry hcreated
  cases hfound : memory.find? label with
  | none =>
    rw [hfound] at hcontains hentry hcreated
    refine ⟨iff_of_true hcontains ⟨label, hentry⟩, iff_of_true hcontains ⟨label, hcreated⟩, ?_⟩
    rw [hentry]
    simp
  | some entry =>
    rw [hfound] at hcontains hentry hcreated
    refine ⟨?_, ?_, fun _ => hcontains⟩
    · rw [hcontains, hentry]
      simp
    · rw [hcontains, hcreated]
      simp

/-! ## Keychains -/

namespace Keychain

variable {keychain : Keychain} {label : String}

/-- Whether a keychain has a password that is not UTF-8 and says so. -/
def IsMisread (keychain : Keychain) : Prop :=
  keychain.fault? .reach = none ∧ keychain.fault? .get = some .badEncoding

theorem report_eq (keychain : Keychain) (label : String) :
    store.report label keychain =
      .ofRecord label (keychain.contains label) (keychain.readKey label) := rfl

/-- A keychain finds a password that is not UTF-8 only if it was told to. -/
theorem get_eq_badEncoding :
    keychain.get label = .error .badEncoding ↔ keychain.fault? .get = some .badEncoding := by
  rw [get, attempt]
  cases keychain.fault? .get with
  | some fault => simp
  | none =>
    cases keychain.passwords.lookup (service, label) with
    | none => simp
    | some password => simp

/-- A password that is not UTF-8 is told of as unrecoverable, and as a failure of the keychain. -/
theorem report_of_isMisread (h : keychain.IsMisread) (label : String) :
    store.report label keychain =
      ⟨some (.error (.backend KeychainFault.badEncoding.message)),
        some (.error (.unrecoverable "keychain entry is not UTF-8")),
        some (.error (.unrecoverable "keychain entry is not UTF-8"))⟩ := by
  rw [report_eq, contains, readKey, reach, attempt, h.1, get_eq_badEncoding.mpr h.2]
  rfl

/-- The reads of a keychain agree but on a password that is not UTF-8: asked whether there is an
entry, the store takes it for a failure like any other. -/
theorem agrees_iff (label : String) (keychain : Keychain) :
    (store.report label keychain).Agrees ↔ ¬ keychain.IsMisread := by
  by_cases hmisread : keychain.IsMisread
  -- The other reads tell that there is something, and this one does not.
  · refine iff_of_false (fun hagrees => ?_) (not_not_intro hmisread)
    rw [report_of_isMisread hmisread] at hagrees
    cases hagrees.present (.inr ⟨_, rfl⟩)
  refine iff_of_true ?_ hmisread
  rw [report_eq, contains, readKey, reach, attempt]
  cases hreach : keychain.fault? .reach with
  | some fault => exact KeyReport.agrees_of_failed nofun nofun nofun
  | none =>
    rw [Outcome.mapError_ok, Outcome.ok_bind, Outcome.ok_bind]
    cases hget : keychain.get label with
    | ok password => exact KeyReport.agrees_of_present (StoredKey.tellsPresence_ofJson _)
    | error fault =>
      cases fault with
      | noEntry => exact KeyReport.agrees_of_absent label label
      -- The one fault for which the reads have words of their own.
      | badEncoding => exact absurd ⟨hreach, get_eq_badEncoding.mp hget⟩ hmisread
      | _ => exact KeyReport.agrees_of_failed nofun nofun nofun

end Keychain

/-! ## Directories -/

/-- What looking up a path comes to. That what is there cannot be read is another fault than that
there is nothing. -/
inductive LookUp where
  | failed (fault : FileFault)
  | unreadable (fault : FileFault) (there : fault ≠ .notFound)
  | file (bytes : Bytes)

namespace LookUp

def isPresent : LookUp → Bool
  | .failed _ => false
  | .unreadable _ _ | .file _ => true

def read : LookUp → Except FileFault Bytes
  | .failed fault | .unreadable fault _ => .error fault
  | .file bytes => .ok bytes

/-- Whether it is settled what there is. -/
def IsSettled (found : LookUp) : Prop :=
  ∀ fault, found = .failed fault → fault = .notFound

end LookUp

/-- A partner whose operations on a path that only read all come to the same. -/
structure LooksUp {σ : Type} (partner : Partner FileCall FileCall.Answer σ) (path : Path)
    (state : σ) (found : LookUp) : Prop where
  isPresent : (FileDialogue.isPresent path).run partner state = (some found.isPresent, state)
  read : (FileTask.read path).run.run partner state = (some found.read, state)

/-- What looking up a path in a tree comes to. -/
def FileTree.lookUp (tree : FileTree) (path : Path) : LookUp :=
  match tree.node path with
  | .error fault => .failed fault
  | .ok (_, ⟨.directory, _⟩) => .unreadable .isDirectory (by decide)
  | .ok (_, ⟨.file bytes, _⟩) => .file bytes

theorem FileTree.isPresent_lookUp (tree : FileTree) (path : Path) :
    (tree.lookUp path).isPresent = tree.isPresent path := by
  rw [isPresent, lookUp]
  rcases tree.node path with _ | ⟨place, _ | _, mode⟩ <;> rfl

theorem FileTree.read_lookUp (tree : FileTree) (path : Path) :
    (tree.lookUp path).read = tree.read path := by
  rw [read, lookUp]
  rcases tree.node path with _ | ⟨place, _ | _, mode⟩ <;> rfl

theorem FileTree.looksUp (tree : FileTree) (path : Path) :
    LooksUp FileTree.answer path tree (tree.lookUp path) where
  isPresent := by
    rw [isPresent_lookUp]
    exact Dialogue.run_question _ _
  read := by
    rw [read_lookUp]
    exact Dialogue.run_question _ _

namespace KeyDirectory

variable {σ : Type} {partner : Partner FileCall FileCall.Answer σ} {base : Path} {label : String}
  {state : σ} {found : LookUp}

/-- The store in a directory whose files are kept by a partner. -/
def storeOn (partner : Partner FileCall FileCall.Answer σ) (base : Path) :
    KeyStore (σ × Supply) where
  capabilities := .software
  answer := fun call (state, supply) =>
    match (serve base call supply).run partner state with
    | (some (answer, supply), state) => (some answer, state, supply)
    | (none, state) => (none, state, supply)

/-- The record that comes of a file. -/
def recordOf (label : String) : Except FileFault Bytes → Except StoreError StoredKey
  | .ok bytes => StoredKey.ofJson bytes
  | .error .notFound => .error (.notFound label)
  | .error fault => .error (.inputOutput fault.message)

theorem run_readKey_of_looksUp (h : LooksUp partner (filePath base label) state found) :
    (readKey base label).run partner state = (some (recordOf label found.read), state) := by
  rw [readKey, Dialogue.run_bind_of_run h.read]
  rcases found.read with fault | bytes
  · cases fault <;> rfl
  · rfl

theorem report_storeOn (h : LooksUp partner (filePath base label) state found) (supply : Supply) :
    (storeOn partner base).report label (state, supply) =
      .ofRecord label (.ok found.isPresent) (recordOf label found.read) := by
  have hcontains : (serve base (.contains label) supply).run partner state =
      (some (.ok found.isPresent, supply), state) := by
    rw [serve, Dialogue.run_bind_of_run h.isPresent]
    rfl
  have hentry : (serve base (.entry label) supply).run partner state =
      (some ((recordOf label found.read).bind fun stored => stored.toEntry label, supply),
        state) := by
    rw [serve, Dialogue.run_bind_of_run (run_readKey_of_looksUp h)]
    rfl
  have hcreated : (serve base (.creationDate label) supply).run partner state =
      (some ((recordOf label found.read).map (·.createdAt), supply), state) := by
    rw [serve, Dialogue.run_bind_of_run (run_readKey_of_looksUp h)]
    rfl
  simp only [KeyStore.report, storeOn, hcontains, hentry, hcreated]
  rfl

/-- The store in a directory of a tree tells what the store on the tree's operations tells. -/
theorem report_eq (base : Path) (label : String) (disk : Disk) :
    (store base).report label disk = .ofRecord label
      (.ok (disk.tree.lookUp (filePath base label)).isPresent)
      (recordOf label (disk.tree.lookUp (filePath base label)).read) := by
  have hanswer (call : StoreCall) : ((store base).answer call disk).1 =
      ((storeOn FileTree.answer base).answer call (disk.tree, disk.supply)).1 := by
    simp only [store, answer, storeOn]
    rcases (serve base call disk.supply).run FileTree.answer disk.tree with ⟨_ | _, _⟩
    · rfl
    · rfl
  rw [← report_storeOn (disk.tree.looksUp _) disk.supply]
  simp only [KeyStore.report, hanswer]

/-- A look-up that fails for some other reason than that there is nothing is told of as a failure,
and as that there is nothing. -/
theorem ofRecord_of_failed {fault : FileFault} (h : fault ≠ .notFound) (label : String) :
    KeyReport.ofRecord label (.ok (LookUp.failed fault).isPresent)
        (recordOf label (LookUp.failed fault).read) =
      ⟨some (.ok false), some (.error (.inputOutput fault.message)),
        some (.error (.inputOutput fault.message))⟩ := by
  cases fault with
  | notFound => exact absurd rfl h
  | _ => rfl

/-- The reads of a directory agree where it is settled what there is: asked whether there is an
entry, the store takes whatever keeps it from looking for that there is nothing. -/
theorem agrees_ofLookUp (label : String) (found : LookUp) :
    (KeyReport.ofRecord label (.ok found.isPresent) (recordOf label found.read)).Agrees ↔
      found.IsSettled := by
  cases found with
  | file bytes =>
    exact iff_of_true (KeyReport.agrees_of_present (StoredKey.tellsPresence_ofJson bytes)) nofun
  | unreadable fault hthere =>
    refine iff_of_true ?_ nofun
    cases fault with
    | notFound => exact absurd rfl hthere
    | _ => exact KeyReport.agrees_of_failed nofun nofun nofun
  | failed fault =>
    by_cases hmissing : fault = .notFound
    · subst hmissing
      refine iff_of_true (KeyReport.agrees_of_absent label label) ?_
      rintro _ ⟨⟩
      rfl
    · refine iff_of_false (fun hagrees => ?_) fun hsettled => hmissing (hsettled fault rfl)
      -- One read tells that there is nothing, so the entry would have to be missing.
      rw [ofRecord_of_failed hmissing] at hagrees
      rcases hagrees.entry.mp rfl with ⟨missing, hanswer⟩
      cases hanswer

end KeyDirectory

/-! ## All stores -/

/-- Exactly when the reads of the stores agree under an alias. They always do in memory. Those of a
keychain do unless its password is not UTF-8, and those of a directory do unless looking for the
file fails with a fault that leaves open whether it is there, be it on a tree or on any disk on
which the operations that only read come to the same. -/
theorem reads_agree_iff (label : String) :
    (∀ memory : Memory, (Memory.store.report label memory).Agrees) ∧
    (∀ keychain : Keychain, (Keychain.store.report label keychain).Agrees ↔
      ¬ keychain.IsMisread) ∧
    (∀ (base : Path) (disk : Disk), ((KeyDirectory.store base).report label disk).Agrees ↔
      (disk.tree.lookUp (KeyDirectory.filePath base label)).IsSettled) ∧
    ∀ {σ : Type} (partner : Partner FileCall FileCall.Answer σ) (base : Path) (state : σ)
      (supply : Supply) (found : LookUp),
      LooksUp partner (KeyDirectory.filePath base label) state found →
        (((KeyDirectory.storeOn partner base).report label (state, supply)).Agrees ↔
          found.IsSettled) := by
  refine ⟨Memory.agrees label, Keychain.agrees_iff label, fun base disk => ?_, ?_⟩
  · rw [KeyDirectory.report_eq]
    exact KeyDirectory.agrees_ofLookUp label _
  · intro σ partner base state supply found hlooks
    rw [KeyDirectory.report_storeOn hlooks]
    exact KeyDirectory.agrees_ofLookUp label found

/-- A disk that does not let anybody look into the directory. -/
def FileTree.answerLocked : Partner FileCall FileCall.Answer FileTree
  | .isPresent _, tree => (some false, tree)
  | .read _, tree => (some (.error (.other "Permission denied (os error 13)")), tree)
  | call, tree => FileTree.answer call tree

theorem sample_reads_agree :
    let path := KeyDirectory.filePath ["keys"] "device-pop"
    let found : LookUp := .failed (.other "Permission denied (os error 13)")
    let supply : Supply := ⟨Entropy.ofSeed [], ⟨0, 0⟩⟩
    LooksUp FileTree.answerLocked path .empty found ∧ ¬ found.IsSettled ∧
      ¬ ((KeyDirectory.storeOn FileTree.answerLocked ["keys"]).report "device-pop"
        (.empty, supply)).Agrees := by
  intro path found supply
  have hlooks : LooksUp FileTree.answerLocked path .empty found := ⟨rfl, rfl⟩
  have hunsettled : ¬ found.IsSettled := fun hsettled => nomatch hsettled _ rfl
  have hiff := (reads_agree_iff "device-pop").2.2.2 FileTree.answerLocked ["keys"] .empty supply
    found hlooks
  exact ⟨hlooks, hunsettled, fun hagrees => hunsettled (hiff.mp hagrees)⟩

/-- So the reads do not agree in a keychain with a password that is not UTF-8, nor in a directory in
whose place there is a file. -/
theorem not_forall_reads_agree :
    ¬ (∀ keychain : Keychain, (Keychain.store.report "device-pop" keychain).Agrees) ∧
    ¬ (∀ disk : Disk, ((KeyDirectory.store ["keys"]).report "device-pop" disk).Agrees) := by
  let supply : Supply := ⟨Entropy.ofSeed [], ⟨0, 0⟩⟩
  constructor
  · intro hall
    let keychain : Keychain := ⟨[((Keychain.service, "device-pop"), "x")],
      fun call => if call = .get then some .badEncoding else none, supply⟩
    have hmisread : keychain.IsMisread := ⟨rfl, rfl⟩
    have hagrees := hall keychain
    rw [Keychain.report_of_isMisread hmisread] at hagrees
    cases hagrees.present (.inr ⟨_, rfl⟩)
  · intro hall
    let disk : Disk := ⟨⟨[(["keys"], ⟨.file (Utf8.encode "x"), FileTree.newFileMode⟩)]⟩, supply⟩
    have hfailed : disk.tree.lookUp (KeyDirectory.filePath ["keys"] "device-pop") =
        .failed .notDirectory := rfl
    have hfault : FileFault.notDirectory ≠ .notFound := nofun
    have hagrees := hall disk
    rw [KeyDirectory.report_eq, hfailed, KeyDirectory.ofRecord_of_failed hfault] at hagrees
    rcases hagrees.entry.mp rfl with ⟨missing, hanswer⟩
    cases hanswer

end Possession
