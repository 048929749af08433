import Possession.Proofs.Store.Aliases
import Possession.Proofs.Store.Interruption

/-!
# Keys that are deleted

Whether a store that says that a key is deleted still has it. In memory it never has. A keychain has
it only if it denies a password that it has. A directory has it exactly where looking for the file
has come to nothing although the file is there: a file that cannot be looked for is taken for one
that is not there.

* `Memory.Keeps`, `Keychain.Keeps` and `KeyDirectory.IsKept` say that something is still there, be
  it a key or not.
* `KeyDirectory.exists_of_reaches_removeKey` is what a removal has come to in the end, whichever of
  its operations fail.
* `leaves_nothing_iff` puts the stores together.
-/

namespace Possession

/-! ## Memory -/

def Memory.Keeps (memory : Memory) (label : String) : Prop :=
  (memory.find? label).isSome

theorem Memory.not_keeps_erase (memory : Memory) (label : String) :
    ¬ (memory.erase label).Keeps label := by
  rw [Keeps, find?_erase]
  exact nofun

/-! ## Keychains -/

namespace Keychain

variable {keychain : Keychain} {label : String}

def Keeps (keychain : Keychain) (label : String) : Prop :=
  (keychain.passwords.lookup (service, label)).isSome

/-- Whether a keychain has a password, and answers that it has none to whoever wants it deleted. -/
structure Denies (keychain : Keychain) (label : String) : Prop where
  reach : keychain.fault? .reach = none
  delete : keychain.fault? .delete = some .noEntry
  keeps : keychain.Keeps label

theorem not_keeps_erase (keychain : Keychain) (label : String) :
    ¬ (keychain.erase label).Keeps label := by
  rw [Keeps, erase, lookup_removed]
  exact nofun

/-- Nothing is left of a password that is deleted. -/
theorem not_keeps_of_delete {next : Keychain} (h : keychain.delete label = .ok next) :
    ¬ next.Keeps label := by
  rcases Outcome.bind_eq_ok_iff.mp h with ⟨⟨⟩, -, hdeleted⟩
  split at hdeleted
  · cases hdeleted
    exact keychain.not_keeps_erase label
  · cases hdeleted

/-- A keychain answers that there is no password where it has none, or was told to. -/
theorem delete_eq_noEntry (hkeeps : keychain.Keeps label) :
    keychain.delete label = .error .noEntry ↔ keychain.fault? .delete = some .noEntry := by
  rcases Option.isSome_iff_exists.mp hkeeps with ⟨password, hfound⟩
  rw [delete, attempt, hfound]
  cases keychain.fault? .delete with
  | some fault => simp
  | none => simp

theorem answer_delete (keychain : Keychain) (label : String) : ∃ deleted next,
    store.answer (.delete label) keychain = (some deleted, next) ∧
      (deleted = .ok () ∧ next.Keeps label ↔ keychain.Denies label) := by
  simp only [store, answer, removeKey, reach, attempt]
  cases hreach : keychain.fault? .reach with
  | some fault =>
    refine ⟨_, _, rfl, iff_of_false ?_ fun hdenies => ?_⟩
    · intro hkept
      cases hkept.1
    · cases hreach.symm.trans hdenies.reach
  | none =>
    rw [Outcome.mapError_ok, Outcome.ok_bind]
    cases hdelete : keychain.delete label with
    | ok next =>
      refine ⟨_, _, rfl, iff_of_false (fun hkept => not_keeps_of_delete hdelete hkept.2) ?_⟩
      intro hdenies
      cases hdelete.symm.trans ((delete_eq_noEntry hdenies.keeps).mpr hdenies.delete)
    | error fault =>
      by_cases hfault : fault = .noEntry
      · subst hfault
        refine ⟨_, _, rfl, fun hkept => ?_, fun hdenies => ⟨rfl, hdenies.keeps⟩⟩
        exact ⟨hreach, (delete_eq_noEntry hkept.2).mp hdelete, hkept.2⟩
      · refine ⟨.error (.backend fault.message), keychain, ?_, iff_of_false ?_ ?_⟩
        · cases fault with
          | noEntry => exact absurd rfl hfault
          | _ => rfl
        · intro hkept
          cases hkept.1
        · intro hdenies
          have hdenied := (delete_eq_noEntry hdenies.keeps).mpr hdenies.delete
          exact hfault (Except.error.inj (hdelete.symm.trans hdenied))

end Keychain

/-! ## Directories -/

namespace KeyDirectory

open FileDialogue (Reaches)
open FileTree (Room)

variable {base place : Path} {label : String} {tree point : FileTree} {said : List FileExchange}
  {supply next : Supply}

/-- Whether a directory has something under an alias, whichever way leads there. -/
def IsKept (tree : FileTree) (place : Path) (label : String) : Prop :=
  (tree.find? (place ++ [fileName label])).isSome

/-- A removal for which the file was looked for in vain. -/
def FindsNothing (base : Path) (label : String) (said : List FileExchange) : Prop :=
  said = [⟨.isPresent (filePath base label), false⟩]

/-- Looking for a file changes nothing, and what it has come upon is there. -/
theorem isPresent_of_attempt {path : Path} {present : Bool}
    (h : tree.Attempt (.isPresent path) present point) :
    point = tree ∧ (present = true → tree.isPresent path = true) := by
  cases h with
  | performed hperformed =>
    rcases Prod.mk.inj hperformed with ⟨hpresent, hsame⟩
    exact ⟨hsame.symm, fun htrue => (Option.some.inj hpresent).trans htrue⟩
  | failed _ fault =>
    refine ⟨rfl, fun htrue => ?_⟩
    cases htrue

/-- What a removal has come to in the end: it has found nothing, or the last thing it has done is to
remove the file, in the directory in which it has found it. -/
theorem exists_of_reaches_removeKey {result : Except FileFault Unit}
    (h : Reaches (removeKey base label).run tree said (.done result) point) :
    FindsNothing base label said ∧ result = .ok () ∧ point = tree ∨
    ¬ FindsNothing base label said ∧ ∃ place wiped, Room tree base (fileName label) place ∧
      Room wiped base (fileName label) place ∧
      wiped.Attempt (.remove (filePath base label)) result point := by
  rw [removeKey, ExceptT.run_mk] at h
  rcases h.exists_of_bind with ⟨present, front, middle, back, hlooked, hrest, rfl⟩
  rcases FileDialogue.reaches_question hlooked with ⟨rfl, hattempt⟩
  cases present with
  | false =>
    cases hrest
    exact .inl ⟨rfl, rfl, (isPresent_of_attempt hattempt).1⟩
  | true =>
    rcases isPresent_of_attempt hattempt with ⟨rfl, hfound⟩
    have hpresent := hfound rfl
    rw [FileTree.isPresent] at hpresent
    split at hpresent
    · next found hnode =>
      rcases FileTree.node_eq_ok_iff.mp hnode with ⟨hresolve, -⟩
      rcases FileTree.exists_room_of_resolve (fileName_ne (by decide)) (fileName_ne (by decide))
        hresolve with ⟨place, hroom, -⟩
      rw [if_pos rfl] at hrest
      rcases hrest.exists_of_bind with ⟨outcome, front, wiped, last, hwiped, hremove, rfl⟩
      rcases FileDialogue.reaches_question hremove with ⟨rfl, hremoved⟩
      refine .inr ⟨?_, place, wiped, hroom, ?_, hremoved⟩
      · intro hnothing
        cases hnothing
      · exact FileDialogue.room_of_reaches (isOn_wipe _) hroom hwiped
    · cases hpresent

/-- A delete is a removal with the faults told as errors of the store. -/
theorem exists_of_reaches_delete {deleted : Except StoreError Unit}
    (h : Reaches (serve base (.delete label) supply) tree said (.done (deleted, next)) point) :
    ∃ result, Reaches (removeKey base label).run tree said (.done result) point ∧
      deleted = result.mapError fun fault => .inputOutput fault.message := by
  rw [serve] at h
  rcases h.exists_of_bind with ⟨lifted, front, middle, back, hlifted, hrest, rfl⟩
  cases hrest
  rw [liftFault] at hlifted
  rcases hlifted.exists_of_bind with ⟨result, first, after, last, hremoved, hdone, rfl⟩
  cases hdone
  rw [List.append_nil, List.append_nil]
  exact ⟨result, hremoved, rfl⟩

/-- A delete that succeeds leaves something behind exactly where it was looked for in vain. -/
theorem isKept_iff_of_reaches (hplace : ∀ other, tree.walk [] base = .ok other → other = place)
    {deleted : Except StoreError Unit}
    (h : Reaches (serve base (.delete label) supply) tree said (.done (deleted, next)) point) :
    deleted = .ok () ∧ IsKept point place label ↔
      FindsNothing base label said ∧ IsKept tree place label := by
  rcases exists_of_reaches_delete h with ⟨result, hreach, rfl⟩
  rcases exists_of_reaches_removeKey hreach with
    ⟨hnothing, rfl, rfl⟩ | ⟨hfound, middle, wiped, hroom, hwiped, hattempt⟩
  · exact and_congr_left fun _ => iff_of_true rfl hnothing
  refine iff_of_false ?_ fun hkept => hfound hkept.1
  rintro ⟨hdeleted, hkept⟩
  cases hplace middle hroom.walk
  rcases FileTree.changed_or_kept (hattempt.performed_or_failed nofun) with
    ⟨-, hremoved⟩ | ⟨⟨fault, rfl⟩, -⟩
  · rcases FileTree.exists_slot_of_remove (fileName_ne (by decide)) (fileName_ne (by decide))
      hremoved with ⟨other, content, hslot, hafter⟩
    -- The file was removed from the directory in which it was found: one path leads to one place.
    cases hwiped.walk.symm.trans hslot.walk
    have hnone : point.find? (place ++ [fileName label]) = none := hafter.contains
    rw [IsKept, hnone] at hkept
    cases hkept
  · cases hdeleted

end KeyDirectory

/-! ## Clearing -/

/-- Clearing the device key tells whether the store has deleted it. -/
theorem KeyStore.run_clear {σ : Type} {store : KeyStore σ} {state next : σ}
    {deleted : Except StoreError Unit}
    (h : store.answer (.delete DeviceKey.label) state = (some deleted, next)) :
    store.run DeviceKey.clear state = (some deleted.isOk, next) := by
  have hrun : store.run (StoreDialogue.delete DeviceKey.label) state = (some deleted, next) :=
    (Dialogue.run_question _ _).trans h
  rw [DeviceKey.clear, KeyStore.run_bind hrun]
  cases deleted with
  | ok _ => rfl
  | error _ => rfl

/-- So it does when the files fail on the store. -/
theorem KeyDirectory.reaches_clear_iff {base : Path} {tree point : FileTree} {supply next : Supply}
    {said : List FileExchange} {cleared : Bool} :
    FileDialogue.Reaches (DeviceKey.clear.through (serve base) supply) tree said
        (.done (cleared, next)) point ↔
      ∃ deleted : Except StoreError Unit, cleared = deleted.isOk ∧
        FileDialogue.Reaches (serve base (.delete DeviceKey.label) supply) tree said
          (.done (deleted, next)) point := by
  constructor
  · intro h
    rcases FileDialogue.Reaches.exists_of_bind h with
      ⟨⟨deleted, after⟩, front, middle, back, hserved, hrest, rfl⟩
    refine ⟨deleted, ?_⟩
    cases deleted with
    | ok _ =>
      cases hrest
      rw [List.append_nil]
      exact ⟨rfl, hserved⟩
    | error _ =>
      cases hrest
      rw [List.append_nil]
      exact ⟨rfl, hserved⟩
  · rintro ⟨deleted, rfl, hserved⟩
    rw [← List.append_nil said]
    refine FileDialogue.Reaches.bind hserved ?_
    cases deleted with
    | ok _ => exact .done _ _
    | error _ => exact .done _ _

/-! ## All stores -/

open KeyDirectory (FindsNothing IsKept serve)

/-- Exactly when a store says that a key is deleted and still has it: in memory never, in a keychain
where it denies a password that it has, and in a directory where looking for the file has come to
nothing although the file is there, whichever of the operations fail. The place is that of the
directory, even if nothing leads there any more. Clearing the device key tells what the store has
said. -/
theorem leaves_nothing_iff (label : String) :
    (∀ memory : Memory, ∃ next, Memory.store.answer (.delete label) memory = (some (.ok ()), next) ∧
      ¬ next.Keeps label) ∧
    (∀ keychain : Keychain, ∃ deleted next,
      Keychain.store.answer (.delete label) keychain = (some deleted, next) ∧
        (deleted = .ok () ∧ next.Keeps label ↔ keychain.Denies label)) ∧
    (∀ (base place : Path) (tree point : FileTree) (supply next : Supply)
      (said : List FileExchange) (deleted : Except StoreError Unit),
      (∀ other, tree.walk [] base = .ok other → other = place) →
      FileDialogue.Reaches (serve base (.delete label) supply) tree said (.done (deleted, next))
        point →
      (deleted = .ok () ∧ IsKept point place label ↔
        FindsNothing base label said ∧ IsKept tree place label)) ∧
    (∀ {σ : Type} (store : KeyStore σ) (state next : σ) (deleted : Except StoreError Unit),
      store.answer (.delete DeviceKey.label) state = (some deleted, next) →
        store.run DeviceKey.clear state = (some deleted.isOk, next)) ∧
    ∀ (base : Path) (tree point : FileTree) (supply next : Supply) (said : List FileExchange)
      (cleared : Bool),
      FileDialogue.Reaches (DeviceKey.clear.through (serve base) supply) tree said
          (.done (cleared, next)) point ↔
        ∃ deleted : Except StoreError Unit, cleared = deleted.isOk ∧
          FileDialogue.Reaches (serve base (.delete DeviceKey.label) supply) tree said
            (.done (deleted, next)) point := by
  refine ⟨fun memory => ⟨memory.erase label, rfl, memory.not_keeps_erase label⟩,
    fun keychain => keychain.answer_delete label, ?_, ?_, ?_⟩
  · intro base place tree point supply next said deleted hplace hreach
    exact KeyDirectory.isKept_iff_of_reaches hplace hreach
  · intro σ store state next deleted hanswer
    exact KeyStore.run_clear hanswer
  · intro base tree point supply next said cleared
    exact KeyDirectory.reaches_clear_iff

theorem sample_leaves_nothing_iff :
    let tree := KeyDirectory.sampleDisk.tree
    let said : List FileExchange :=
      [⟨.isPresent (KeyDirectory.filePath ["keys"] DeviceKey.label), false⟩]
    (∀ other, tree.walk [] ["keys"] = .ok other → other = ["keys"]) ∧
      FileDialogue.Reaches
        (serve ["keys"] (.delete DeviceKey.label) KeyDirectory.sampleDisk.supply) tree said
        (.done (Except.ok (), KeyDirectory.sampleDisk.supply)) tree ∧
      IsKept tree ["keys"] DeviceKey.label := by
  intro tree said
  have hplace : ∀ other, tree.walk [] ["keys"] = .ok other → other = ["keys"] := by
    rintro other ⟨⟩
    rfl
  have hreach : FileDialogue.Reaches
      (serve ["keys"] (.delete DeviceKey.label) KeyDirectory.sampleDisk.supply) tree said
      (.done (Except.ok (), KeyDirectory.sampleDisk.supply)) tree :=
    .step (.failed _ (.other "Permission denied (os error 13)")) (.done _ _)
  have hiff := (leaves_nothing_iff DeviceKey.label).2.2.1 _ _ _ _ _ _ _ _ hplace hreach
  exact ⟨hplace, hreach, (hiff.mpr ⟨rfl, rfl⟩).2⟩

/-- So it is not so that a key is gone once it has been cleared: not where looking for its file
fails, nor where the way to the directory is barred by a file in the place of another directory. -/
theorem not_forall_leaves_nothing :
    ¬ (∀ (said : List FileExchange) (next : Supply) (point : FileTree),
      FileDialogue.Reaches
        (DeviceKey.clear.through (serve ["keys"]) KeyDirectory.sampleDisk.supply)
        KeyDirectory.sampleDisk.tree said (.done (true, next)) point →
      ¬ IsKept point ["keys"] DeviceKey.label) ∧
    ¬ (∀ disk next : Disk,
      (KeyDirectory.store ["a", "..", "keys"]).run DeviceKey.clear disk = (some true, next) →
      ¬ IsKept next.tree ["keys"] DeviceKey.label) := by
  constructor
  · intro hall
    exact hall _ _ _ (.step (.failed _ .notDirectory) (.done _ _)) rfl
  · intro hall
    let barred : Disk := { KeyDirectory.sampleDisk with
      tree := KeyDirectory.sampleDisk.tree.insert ["a"] ⟨.file [], FileTree.newFileMode⟩ }
    exact hall barred barred rfl rfl

end Possession
