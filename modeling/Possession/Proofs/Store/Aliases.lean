import Mathlib.Data.List.Forall2
import Possession.Device.Lifecycle
import Possession.Proofs.Files.Beside
import Possession.Proofs.Store.Backends
import Possession.Proofs.Store.Directory
import Possession.Proofs.Store.Presence

/-!
# Aliases beside one another

Whether what is done under one alias can be noticed under another. In memory and in a keychain it
cannot. In a directory each key has a file of its own, but the name of the file has the same
character for four characters of an alias, so that two aliases may have one file between them.

* `KeyStore.Separates` says that nothing is noticed.
* `KeyDirectory.fileName_eq_iff` says which aliases have the same file.
* `KeyDirectory.report_of_reaches` says that nothing is noticed of what is done to another file,
  while it is being done, and however it ends.
* `separates_iff` puts them together.
-/

namespace Possession

/-- Whatever a store is asked to do under one alias, the same is told about the other. -/
def KeyStore.Separates {σ : Type} (store : KeyStore σ) (label other : String) : Prop :=
  ∀ (state : σ) (call : StoreCall), call.label = label →
    store.report other (store.answer call state).2 = store.report other state

/-! ## Memory -/

namespace Memory

variable {label other : String}

theorem report_of_find? {memory after : Memory} (h : after.find? other = memory.find? other) :
    store.report other after = store.report other memory := by
  simp only [KeyStore.report, store, answer, entry, h]

theorem find?_answer (memory : Memory) {call : StoreCall} (hne : other ≠ call.label) :
    (answer call memory).2.find? other = memory.find? other := by
  cases call with
  | contains _ => rfl
  | entry _ => rfl
  | creationDate _ => rfl
  | delete label => exact find?_erase_of_ne hne memory
  | generate label spec =>
    simp only [answer, generate]
    split
    · rfl
    · split
      · rfl
      · exact find?_insert_of_ne hne _ _

theorem separates (hne : label ≠ other) : store.Separates label other := by
  rintro memory call rfl
  exact report_of_find? (memory.find?_answer hne.symm)

end Memory

/-! ## Keychains -/

namespace Keychain

variable {label other : String}

/-- Keychains that answer alike about a user. -/
structure SameFor (user : String) (keychain after : Keychain) : Prop where
  fault? : after.fault? = keychain.fault?
  password : after.passwords.lookup (service, user) = keychain.passwords.lookup (service, user)

theorem SameFor.report_eq {keychain after : Keychain} (h : SameFor other keychain after) :
    store.report other after = store.report other keychain := by
  simp only [KeyStore.report, store, answer, contains, readKey, reach, get, attempt, h.fault?,
    h.password]

theorem sameFor_erase (hne : other ≠ label) (keychain : Keychain) :
    SameFor other keychain (keychain.erase label) :=
  ⟨rfl, lookup_removed_of_ne _ (by simpa using hne)⟩

theorem sameFor_insert (hne : other ≠ label) (keychain : Keychain) (password : String) :
    SameFor other keychain (keychain.insert label password) := by
  refine ⟨rfl, ?_⟩
  have huser : ((service, other) == (service, label)) = false := by simpa using hne
  rw [insert, List.lookup_cons, huser]
  exact (sameFor_erase hne keychain).password

theorem sameFor_writeKey (hne : other ≠ label) {keychain after : Keychain} {stored : StoredKey}
    (h : keychain.writeKey label stored = .ok after) : SameFor other keychain after := by
  rcases Outcome.bind_eq_ok_iff.mp h with ⟨⟨⟩, -, hset⟩
  split at hset
  · next hwritten =>
    rcases Outcome.bind_eq_ok_iff.mp hwritten with ⟨⟨⟩, -, hinserted⟩
    cases hinserted
    cases hset
    exact sameFor_insert hne keychain _
  · cases hset
  · cases hset

theorem sameFor_removeKey (hne : other ≠ label) {keychain after : Keychain}
    (h : keychain.removeKey label = .ok after) : SameFor other keychain after := by
  rcases Outcome.bind_eq_ok_iff.mp h with ⟨⟨⟩, -, hdeleted⟩
  split at hdeleted
  · next hremoved =>
    rcases Outcome.bind_eq_ok_iff.mp hremoved with ⟨⟨⟩, -, herased⟩
    split at herased
    · cases herased
      cases hdeleted
      exact sameFor_erase hne keychain
    · cases herased
  · cases hdeleted
    exact ⟨rfl, rfl⟩
  · cases hdeleted

theorem sameFor_answer (keychain : Keychain) {call : StoreCall} (hne : other ≠ call.label) :
    SameFor other keychain (answer call keychain).2 := by
  cases call with
  | contains _ => exact ⟨rfl, rfl⟩
  | entry _ => exact ⟨rfl, rfl⟩
  | creationDate _ => exact ⟨rfl, rfl⟩
  | delete label =>
    simp only [answer]
    split
    · next hremoved => exact sameFor_removeKey hne hremoved
    · exact ⟨rfl, rfl⟩
  | generate label spec =>
    simp only [answer, generate]
    split
    · exact ⟨rfl, rfl⟩
    · split
      · exact ⟨rfl, rfl⟩
      · split
        · exact ⟨rfl, rfl⟩
        · next hwritten =>
          rcases Outcome.bind_eq_ok_iff.mp hwritten with ⟨stored, -, hwritten⟩
          -- The supply is another by now, which nobody is told.
          have hafter := sameFor_writeKey hne hwritten
          exact ⟨hafter.fault?, hafter.password⟩

theorem separates (hne : label ≠ other) : store.Separates label other := by
  rintro keychain call rfl
  exact (keychain.sameFor_answer hne.symm).report_eq

end Keychain

/-! ## Names of files -/

namespace KeyDirectory

open FileDialogue (IsOn Reaches)

variable {base place : Path} {label other : String} {disk : Disk} {tree point : FileTree}
  {content : Option Bytes} {said : List FileExchange}

/-- The characters of an alias that all come out as the last of them. -/
def blurred : List Char := ['/', '\\', '.', '_']

/-- Two characters that the name of a file does not tell apart. -/
def Blurs (c d : Char) : Prop :=
  c = d ∨ c ∈ blurred ∧ d ∈ blurred

theorem safeChar_of_mem {c : Char} (h : c ∈ blurred) : safeChar c = '_' := by
  simp only [blurred, List.mem_cons, List.not_mem_nil, or_false] at h
  rcases h with rfl | rfl | rfl | rfl <;> rfl

theorem safeChar_of_notMem {c : Char} (h : c ∉ blurred) : safeChar c = c := by
  rw [safeChar, if_neg]
  intro hreplaced
  apply h
  simp only [Bool.or_eq_true, beq_iff_eq] at hreplaced
  rcases hreplaced with (rfl | rfl) | rfl <;> decide

theorem safeChar_eq_iff {c d : Char} : safeChar c = safeChar d ↔ Blurs c d := by
  have hunder : '_' ∈ blurred := by decide
  by_cases hc : c ∈ blurred
  · rw [safeChar_of_mem hc]
    by_cases hd : d ∈ blurred
    · exact iff_of_true (safeChar_of_mem hd).symm (.inr ⟨hc, hd⟩)
    · rw [safeChar_of_notMem hd]
      refine iff_of_false ?_ ?_
      · rintro rfl
        exact hd hunder
      · rintro (rfl | ⟨-, hd'⟩)
        · exact hd hc
        · exact hd hd'
  · rw [safeChar_of_notMem hc]
    by_cases hd : d ∈ blurred
    · rw [safeChar_of_mem hd]
      refine iff_of_false ?_ ?_
      · rintro rfl
        exact hc hunder
      · rintro (rfl | ⟨hc', -⟩)
        · exact hc hd
        · exact hc hc'
    · rw [safeChar_of_notMem hd]
      exact ⟨.inl, fun h => h.resolve_right fun hboth => hc hboth.1⟩

/-- Two aliases that have one file between them: character by character they are the same, or not
told apart. -/
def Alike (label other : String) : Prop :=
  List.Forall₂ Blurs label.toList other.toList

theorem fileName_eq_iff : fileName label = fileName other ↔ Alike label other := by
  have hnames : fileName label = fileName other ↔
      label.toList.map safeChar = other.toList.map safeChar := by
    rw [fileName, fileName, ← String.toList_inj]
    simp
  have hblurs : Blurs = fun c d => safeChar c = safeChar d := by
    funext c d
    exact propext safeChar_eq_iff.symm
  rw [hnames, Alike, hblurs, ← List.forall₂_eq_eq_eq, List.forall₂_map_left_iff,
    List.forall₂_map_right_iff]

/-- An alias without such characters shares its file with no other. -/
theorem eq_of_alike (hplain : ∀ c ∈ label.toList, c ∉ blurred) (h : Alike label other) :
    label = other := by
  have hchars {left right : List Char} (halike : List.Forall₂ Blurs left right)
      (hleft : ∀ c ∈ left, c ∉ blurred) : left = right := by
    induction halike with
    | nil => rfl
    | cons hblurs _ ih =>
      -- The first character is not one of the four, so it is the same in both.
      have hhead := hblurs.resolve_right fun hboth => hleft _ List.mem_cons_self hboth.1
      rw [hhead, ih fun c hc => hleft c (List.mem_cons_of_mem _ hc)]
  exact String.toList_inj.mp (hchars h hplain)

/-! ## Procedures on one file -/

theorem isProper_fileName (label : String) : FileTree.IsProper (fileName label) :=
  ⟨fileName_ne (by decide), fileName_ne (by decide)⟩

theorem isOn_writeKey (base : Path) (label : String) (stored : StoredKey) :
    IsOn (filePath base label) (writeKey base label stored).run := by
  refine FileTask.isOn_bind (FileDialogue.isOn_question (.create _)) fun _ => ?_
  refine FileTask.isOn_bind (FileDialogue.isOn_question (.setMode _ _)) fun _ => ?_
  refine FileTask.isOn_bind (FileDialogue.isOn_question (.write _ _)) fun _ => ?_
  exact FileDialogue.isOn_question (.sync _)

theorem isOn_wipe (path : Path) : IsOn path (wipe path).run := by
  refine FileTask.isOn_bind (FileDialogue.isOn_question (.size _)) fun _ => ?_
  refine FileTask.isOn_bind (FileDialogue.isOn_question (.create _)) fun _ => ?_
  refine FileTask.isOn_bind
    (FileTask.isOn_tried (FileDialogue.isOn_question (.write _ _))) fun _ => ?_
  exact FileDialogue.isOn_question (.sync _)

theorem isOn_removeKey (base : Path) (label : String) :
    IsOn (filePath base label) (removeKey base label).run := by
  rw [removeKey, ExceptT.run_mk]
  refine (FileDialogue.isOn_question (.isPresent _)).bind fun present => ?_
  cases present with
  | false => exact trivial
  | true =>
    refine (isOn_wipe _).bind fun _ => ?_
    exact FileDialogue.isOn_question (.remove _)

theorem isOn_readKey (base : Path) (label : String) :
    IsOn (filePath base label) (readKey base label) := by
  refine (FileDialogue.isOn_question (.read _)).bind fun result => ?_
  split <;> exact trivial

theorem isOn_liftFault {α : Type} {path : Path} {task : FileTask α} (h : IsOn path task.run) :
    IsOn path (liftFault task) := by
  unfold liftFault
  exact h.bind fun _ => trivial

/-- Whatever a store in a directory is asked, it works on the file of the alias alone. -/
theorem isOn_serve (base : Path) (call : StoreCall) (supply : Supply) :
    IsOn (filePath base call.label) (serve base call supply) := by
  cases call with
  | contains label => exact (FileDialogue.isOn_question (.isPresent _)).bind fun _ => trivial
  | entry label => exact (isOn_readKey base label).bind fun _ => trivial
  | creationDate label => exact (isOn_readKey base label).bind fun _ => trivial
  | delete label => exact (isOn_liftFault (isOn_removeKey base label)).bind fun _ => trivial
  | generate label spec =>
    rcases generate_cases base label spec supply with ⟨error, next, hdone, -⟩ |
      ⟨key, next, stored, -, -, -, hgenerate⟩
    · rw [serve, hdone]
      exact trivial
    · rw [serve, hgenerate]
      exact (isOn_liftFault (isOn_writeKey base label stored)).bind fun _ => trivial

/-! ## What is told about another alias -/

theorem report_of_node {after : Disk}
    (h : after.tree.node (filePath base other) = disk.tree.node (filePath base other)) :
    (store base).report other after = (store base).report other disk := by
  rw [report_eq, report_eq, FileTree.lookUp, FileTree.lookUp, h]

/-- Nothing is noticed of what is done to another file, wherever it comes to. -/
theorem report_of_reaches {call : StoreCall} {rest : FileDialogue (call.Answer × Supply)}
    (hne : fileName call.label ≠ fileName other)
    (hreach : Reaches (serve base call disk.supply) disk.tree said rest point) (supply : Supply) :
    (store base).report other ⟨point, supply⟩ = (store base).report other disk :=
  report_of_node (FileDialogue.node_of_reaches (isOn_serve base call disk.supply)
    (isProper_fileName _) (isProper_fileName _) hne.symm hreach)

/-- A call that is answered comes to the tree that it leaves behind. -/
theorem exists_reaches_answer (base : Path) (call : StoreCall) (disk : Disk) :
    ∃ said result, Reaches (serve base call disk.supply) disk.tree said (.done result)
      ((store base).answer call disk).2.tree := by
  rcases Dialogue.exists_run FileTree.isSome_answer (serve base call disk.supply) disk.tree with
    ⟨⟨answer, supply⟩, next, hrun⟩
  rcases FileDialogue.exists_reaches_of_run hrun with ⟨said, hreach⟩
  refine ⟨said, (answer, supply), ?_⟩
  rw [answer_of_serve call hrun]
  exact hreach

theorem separates_of_ne (hne : fileName label ≠ fileName other) :
    (store base).Separates label other := by
  rintro disk call rfl
  rcases exists_reaches_answer base call disk with ⟨said, result, hreach⟩
  exact report_of_reaches hne hreach _

/-- Nothing else that is kept in the directory is noticed under the alias of the device key, nor the
device key under any other alias. -/
theorem separates_deviceKey (hne : label ≠ DeviceKey.label) :
    (store base).Separates label DeviceKey.label ∧
      (store base).Separates DeviceKey.label label := by
  have hplain : ∀ c ∈ DeviceKey.label.toList, c ∉ blurred := by
    have hall : (DeviceKey.label.toList.all fun c => !blurred.contains c) = true := by decide
    intro c hc hblurred
    have hnot := List.all_eq_true.mp hall c hc
    rw [List.contains_iff_mem.mpr hblurred] at hnot
    cases hnot
  have hnames : fileName DeviceKey.label ≠ fileName label := by
    intro heq
    exact hne (eq_of_alike hplain (fileName_eq_iff.mp heq)).symm
  exact ⟨separates_of_ne hnames.symm, separates_of_ne hnames⟩

/-- Where there is a file, a delete under one of its aliases is noticed under each other. -/
theorem report_ne_of_delete {bytes : Bytes}
    (hslot : KeySlot disk.tree base label place (some bytes)) (heq : fileName label = fileName other) :
    (store base).report other ((store base).answer (.delete label) disk).2 ≠
      (store base).report other disk := by
  -- Whether there is a key is told from the file that both aliases have.
  have hcontains {disk : Disk} {content : Option Bytes}
      (h : KeySlot disk.tree base label place content) :
      ((store base).report other disk).contains = some (.ok content.isSome) := by
    rw [report_eq, KeyReport.ofRecord, FileTree.isPresent_lookUp, filePath, ← heq, h.isPresent_eq]
  rcases run_delete hslot disk.supply with ⟨next, hdelete, hremoved⟩
  intro hsame
  have hbefore := hcontains hslot
  rw [← hsame, answer_of_serve (.delete label) hdelete, hcontains hremoved] at hbefore
  cases hbefore

/-- Whether there can be a file for an alias in a directory. -/
def Admits (base : Path) (label : String) : Prop :=
  ∃ tree place content, KeySlot tree base label place content

/-- A directory keeps two aliases apart exactly when they have different files. -/
theorem separates_iff_ne (hadmits : Admits base label) :
    (store base).Separates label other ↔ fileName label ≠ fileName other := by
  refine ⟨fun hseparates heq => ?_, separates_of_ne⟩
  rcases hadmits with ⟨tree, place, content, hslot⟩
  -- The file is put there by hand: whether a key can be made depends on the supply.
  let disk : Disk := ⟨tree.insert (place ++ [fileName label]) ⟨.file [], fileMode⟩,
    ⟨Entropy.ofSeed [], ⟨0, 0⟩⟩⟩
  have hfile : KeySlot disk.tree base label place (some []) := hslot.insert [] fileMode
  exact report_ne_of_delete hfile heq (hseparates disk (.delete label) rfl)

end KeyDirectory

/-! ## All stores -/

open KeyDirectory (Admits Alike)

/-- Two aliases are kept apart by a store in memory and by a keychain, with whatever faults. A store
in a directory that has room for the one keeps them apart exactly when they are not alike; what is
done under the one is then not noticed under the other even while it is being done, or when a fault
has cut it short. -/
theorem separates_iff {base : Path} {label other : String} (hne : label ≠ other)
    (hadmits : Admits base label) :
    Memory.store.Separates label other ∧ Keychain.store.Separates label other ∧
    ((KeyDirectory.store base).Separates label other ↔ ¬ Alike label other) ∧
    (¬ Alike label other → ∀ (disk : Disk) (call : StoreCall) (said : List FileExchange)
      (rest : FileDialogue (call.Answer × Supply)) (point : FileTree) (supply : Supply),
      call.label = label →
      FileDialogue.Reaches (KeyDirectory.serve base call disk.supply) disk.tree said rest point →
      (KeyDirectory.store base).report other ⟨point, supply⟩ =
        (KeyDirectory.store base).report other disk) := by
  refine ⟨Memory.separates hne, Keychain.separates hne, ?_, ?_⟩
  · rw [← KeyDirectory.fileName_eq_iff]
    exact KeyDirectory.separates_iff_ne hadmits
  · rintro hunlike disk call said rest point supply rfl hreach
    exact KeyDirectory.report_of_reaches (mt KeyDirectory.fileName_eq_iff.mp hunlike) hreach supply

/-- A point and a line below it make two aliases for one file. -/
theorem sample_separates_iff :
    let label := "work.laptop"
    let other := "work_laptop"
    label ≠ other ∧ Admits ["keys"] label ∧ Memory.store.Separates label other ∧
      Keychain.store.Separates label other ∧
      ¬ (KeyDirectory.store ["keys"]).Separates label other := by
  intro label other
  have hne : label ≠ other := by decide
  have hadmits : Admits ["keys"] label := by
    refine ⟨⟨[(["keys"], ⟨.directory, KeyDirectory.directoryMode⟩)]⟩, ["keys"], none, ?_, rfl⟩
    exact ⟨rfl, ⟨_, rfl⟩, by decide, KeyDirectory.fileName_ne (by decide),
      KeyDirectory.fileName_ne (by decide), by decide⟩
  have halike : Alike label other := KeyDirectory.fileName_eq_iff.mp (by decide)
  rcases separates_iff hne hadmits with ⟨hmemory, hkeychain, hdirectory, -⟩
  exact ⟨hne, hadmits, hmemory, hkeychain, fun hseparates => hdirectory.mp hseparates halike⟩

/-- So it is not so that any two aliases are kept apart: a delete under one of these two removes
the key that is there under the other. -/
theorem not_forall_separates :
    let disk : Disk := ⟨⟨[(["keys", "a_b.json"], ⟨.file [], KeyDirectory.fileMode⟩),
      (["keys"], ⟨.directory, KeyDirectory.directoryMode⟩)]⟩, ⟨Entropy.ofSeed [], ⟨0, 0⟩⟩⟩
    ¬ ∀ label other : String, label ≠ other → Admits ["keys"] label → Admits ["keys"] other →
      (KeyDirectory.store ["keys"]).report other
          ((KeyDirectory.store ["keys"]).answer (.delete label) disk).2 =
        (KeyDirectory.store ["keys"]).report other disk := by
  intro disk hall
  have hslot (label : String) (hname : KeyDirectory.fileName label = "a_b.json") :
      KeyDirectory.KeySlot disk.tree ["keys"] label ["keys"] (some []) := by
    rw [KeyDirectory.KeySlot, hname]
    exact ⟨⟨rfl, ⟨_, rfl⟩, by decide, by decide, by decide, by decide⟩, ⟨_, rfl⟩⟩
  have hpoint := hslot "a.b" (by decide)
  have hline := hslot "a_b" (by decide)
  refine KeyDirectory.report_ne_of_delete hpoint (by decide) (hall "a.b" "a_b" (by decide) ?_ ?_)
  · exact ⟨_, _, _, hpoint⟩
  · exact ⟨_, _, _, hline⟩

end Possession
