import Possession.Proofs.Files.Slot
import Possession.Proofs.Store.Record
import Possession.Store.Directory

/-!
# The store in a directory

A store in a directory is a cell under every alias that can be a name in it, as long as nobody else
touches the directory. What it holds is the entry that is made of the record in the alias's file.
-/

namespace Possession
namespace KeyDirectory

variable {base : Path} {label : String} {disk : Disk} {held : Option KeyEntry} {tree : FileTree}
  {place : Path} {content : Option Bytes}

/-- A directory with a file under an alias, or with room for one. -/
abbrev KeySlot (tree : FileTree) (base : Path) (label : String) (place : Path)
    (content : Option Bytes) : Prop :=
  tree.Slot base (fileName label) place content

/-- A name that ends in five characters is no point, nor two. -/
theorem fileName_ne {points : String} (hshort : points.length < 5) : fileName label ≠ points := by
  rintro rfl
  rw [fileName, String.length_append] at hshort
  exact absurd (Nat.le_add_left 5 _) (Nat.not_le_of_lt hshort)

/-! ## Procedures -/

theorem run_readKey (h : KeySlot tree base label place content) :
    (readKey base label).run FileTree.answer tree =
      (some (StoredKey.readContent label content), tree) := by
  have hread : (FileTask.read (filePath base label)).run.run FileTree.answer tree =
      (some (tree.read (filePath base label)), tree) :=
    Dialogue.run_question _ _
  rw [filePath, h.read_eq] at hread
  rw [readKey, filePath, Dialogue.run_bind_of_run hread]
  cases content with
  | none => rfl
  | some bytes => rfl

theorem runs_writeKey (h : KeySlot tree base label place content) (stored : StoredKey) :
    ∃ next, (writeKey base label stored).Runs tree () next ∧
      KeySlot next base label place (some (Utf8.encode stored.toJson)) := by
  rcases h.runs_create with ⟨created, hcreate, h⟩
  rcases h.runs_setMode fileMode with ⟨closed, hmode, h⟩
  rcases h.runs_write (Utf8.encode stored.toJson) with ⟨filled, hwrite, h⟩
  refine ⟨filled, ?_, h⟩
  exact hcreate.bind (hmode.bind (hwrite.bind h.runs_sync))

/-- Preparing a directory that is there leaves the files in it as they are. -/
theorem runs_prepare (h : KeySlot tree base label place content) :
    ∃ next, (prepare base).Runs tree () next ∧ KeySlot next base label place content := by
  rcases h.runs_setMode_base directoryMode with ⟨next, hmode, hnext⟩
  exact ⟨next, h.runs_makeDirectories.bind hmode, hnext⟩

theorem runs_wipe {bytes : Bytes} (h : KeySlot tree base label place (some bytes)) :
    ∃ next, (wipe (filePath base label)).Runs tree () next ∧
      KeySlot next base label place (some (List.replicate bytes.length 0)) := by
  rcases h.runs_create with ⟨created, hcreate, hcreated⟩
  rcases hcreated.runs_write (List.replicate bytes.length 0) with ⟨filled, hwrite, hfilled⟩
  refine ⟨filled, ?_, hfilled⟩
  exact h.runs_size.bind (hcreate.bind (hwrite.tried.bind hfilled.runs_sync))

theorem runs_removeKey (h : KeySlot tree base label place content) :
    ∃ next, (removeKey base label).Runs tree () next ∧ KeySlot next base label place none := by
  have hpresent : (FileDialogue.isPresent (filePath base label)).run FileTree.answer tree =
      (some content.isSome, tree) := by
    rw [← h.isPresent_eq]
    exact Dialogue.run_question _ _
  unfold FileTask.Runs removeKey
  rw [ExceptT.run_mk, Dialogue.run_bind_of_run hpresent]
  cases content with
  | none => exact ⟨tree, rfl, h⟩
  | some bytes =>
    rcases runs_wipe h with ⟨wiped, hwipe, hwiped⟩
    rcases hwiped.runs_remove with ⟨removed, hremove, hremoved⟩
    refine ⟨removed, ?_, hremoved⟩
    rw [Option.isSome_some, if_pos rfl, Dialogue.run_bind_of_run hwipe]
    exact hremove

/-! ## The store -/

/-- What a store in a directory holds under an alias. -/
def Holds (base : Path) (label : String) (disk : Disk) (held : Option KeyEntry) : Prop :=
  ∃ place content, KeySlot disk.tree base label place content ∧
    StoredKey.Kept label content held

def resupply (supply : Supply) (disk : Disk) : Disk :=
  { disk with supply }

/-- A store answers a call with what serving the call comes to. -/
theorem answer_of_serve (call : StoreCall) {answer : call.Answer} {supply : Supply}
    {next : FileTree} (h : (serve base call disk.supply).run FileTree.answer disk.tree =
      (some (answer, supply), next)) :
    (store base).answer call disk = (some answer, ⟨next, supply⟩) := by
  simp only [store, KeyDirectory.answer, h]

theorem run_of_serve (call : StoreCall) {answer : call.Answer} {supply : Supply}
    {next : FileTree} (h : (serve base call disk.supply).run FileTree.answer disk.tree =
      (some (answer, supply), next)) :
    (store base).run (Dialogue.question call) disk = (some answer, ⟨next, supply⟩) :=
  (Dialogue.run_question _ _).trans (answer_of_serve call h)

theorem run_liftFault {α : Type} {task : FileTask α} {value : α} {next : FileTree}
    (h : task.Runs tree value next) :
    (liftFault task).run FileTree.answer tree = (some (.ok value), next) := by
  rw [liftFault, Dialogue.run_bind_of_run h]
  rfl

theorem run_entry (h : KeySlot tree base label place content) (supply : Supply) :
    (serve base (.entry label) supply).run FileTree.answer tree =
      (some ((StoredKey.readContent label content).bind fun stored => stored.toEntry label,
        supply), tree) := by
  rw [serve, Dialogue.run_bind_of_run (run_readKey h)]
  rfl

theorem run_creationDate (h : KeySlot tree base label place content) (supply : Supply) :
    (serve base (.creationDate label) supply).run FileTree.answer tree =
      (some ((StoredKey.readContent label content).map (·.createdAt), supply), tree) := by
  rw [serve, Dialogue.run_bind_of_run (run_readKey h)]
  rfl

theorem run_delete (h : KeySlot tree base label place content) (supply : Supply) : ∃ next,
    (serve base (.delete label) supply).run FileTree.answer tree =
      (some (.ok (), supply), next) ∧ KeySlot next base label place none := by
  rcases runs_removeKey h with ⟨next, hremove, hremoved⟩
  refine ⟨next, ?_, hremoved⟩
  rw [serve, Dialogue.run_bind_of_run (run_liftFault hremove)]
  rfl

/-- What making a key is: a refusal, for which no file is asked for, or the writing of a record. -/
theorem generate_cases (base : Path) (label : String) (spec : KeySpec) (supply : Supply) :
    (∃ error next, generate base label spec supply = .done (.error error, next) ∧
      supply.storedEntry label spec = .error error) ∨
    ∃ key next stored, supply.generateKey spec.bits = (.ok key, next) ∧
      StoredKey.ofKey key next.now = .ok stored ∧
      supply.storedEntry label spec = .ok (KeyEntry.ofPrivateKey label key next.now .software) ∧
      generate base label spec supply = do
        let written ← liftFault (writeKey base label stored)
        return (written.map fun () => KeyEntry.ofPrivateKey label key next.now .software,
          next) := by
  rw [generate, Supply.storedEntry, Supply.newKey]
  split
  · exact .inl ⟨_, supply, rfl, rfl⟩
  · rcases hkey : supply.generateKey spec.bits with ⟨error | key, next⟩
    · exact .inl ⟨error, next, rfl, rfl⟩
    · simp only [Except.bind]
      cases hstored : StoredKey.ofKey key next.now with
      | error error => exact .inl ⟨error, next, rfl, rfl⟩
      | ok stored => exact .inr ⟨key, next, stored, rfl, hstored, rfl, rfl⟩

/-- Making a key fills the file, or leaves it alone. -/
theorem answer_generate (hholds : Holds base label disk held) (hvalid : disk.supply.now.IsValid)
    (spec : KeySpec) : ∃ next,
      (store base).answer (.generate label spec) disk =
        (some (disk.supply.storedEntry label spec), next) ∧
          Holds base label next ((disk.supply.storedEntry label spec).toOption.or held) := by
  rcases hholds with ⟨place, content, hslot, hkept⟩
  rcases generate_cases base label spec disk.supply with ⟨error, supply, hgenerate, hentry⟩ |
    ⟨key, supply, stored, hkey, hstored, hentry, hgenerate⟩
  · have hrun : (generate base label spec disk.supply).run FileTree.answer disk.tree =
        (some (disk.supply.storedEntry label spec, supply), disk.tree) := by
      rw [hgenerate, hentry]
      rfl
    refine ⟨_, answer_of_serve (.generate label spec) hrun, place, content, hslot, ?_⟩
    rwa [hentry]
  · rcases runs_writeKey hslot stored with ⟨next, hwrite, hwritten⟩
    have hrun : (generate base label spec disk.supply).run FileTree.answer disk.tree =
        (some (disk.supply.storedEntry label spec, supply), next) := by
      rw [hgenerate, hentry, Dialogue.run_bind_of_run (run_liftFault hwrite)]
      rfl
    refine ⟨_, answer_of_serve (.generate label spec) hrun, place, _, hwritten, ?_⟩
    rw [hentry]
    exact StoredKey.kept_of_generateKey hvalid hkey hstored

theorem serves (hholds : Holds base label disk held) (hvalid : disk.supply.now.IsValid) :
    (store base).Serves label (Holds base label) disk held := by
  rcases hholds with ⟨place, content, hslot, hkept⟩
  have hpresent : (FileDialogue.isPresent (filePath base label)).run FileTree.answer disk.tree =
      (some held.isSome, disk.tree) := by
    rw [← hkept.isSome_eq, ← hslot.isPresent_eq]
    exact Dialogue.run_question _ _
  refine ⟨⟨disk, ?_, place, content, hslot, hkept⟩, ⟨disk, ?_, place, content, hslot, hkept⟩,
    ⟨disk, ?_, place, content, hslot, hkept⟩, ?_, ?_⟩
  · refine run_of_serve (.contains label) ?_
    rw [serve, Dialogue.run_bind_of_run hpresent]
    rfl
  · rw [← hkept.toEntry_eq]
    exact run_of_serve (.entry label) (run_entry hslot disk.supply)
  · rw [← hkept.createdAt_eq]
    exact run_of_serve (.creationDate label) (run_creationDate hslot disk.supply)
  · rcases run_delete hslot disk.supply with ⟨next, hdelete, hremoved⟩
    exact ⟨⟨next, disk.supply⟩, run_of_serve (.delete label) hdelete, place, none, hremoved, rfl⟩
  · intro spec
    rcases answer_generate ⟨place, content, hslot, hkept⟩ hvalid spec with ⟨next, hanswer, hafter⟩
    exact ⟨_, next, (Dialogue.run_question _ _).trans hanswer, hafter⟩

/-- A store in a directory is a cell. -/
theorem isCell (base : Path) (label : String) :
    ((store base).supplied resupply).IsCell label fun state held =>
      Holds base label state.1 held ∧ ∀ index, (state.2 index).now.IsValid := by
  refine KeyStore.isCell_supplied ?_ ?_
  · intro disk held supply hholds hvalid
    have hresupplied : Holds base label (resupply supply disk) held := hholds
    exact serves hresupplied hvalid
  · rintro disk entry ⟨place, content, -, hkept⟩
    exact hkept.isSoftware

/-- A directory in which there is nothing under an alias holds no entry. -/
theorem holds_none (hdirectory : disk.tree.isDirectory base = true)
    (hpath : FileTree.pathFault? (filePath base label) = none)
    (hname : (fileName label).utf8ByteSize ≤ FileTree.maxNameSize)
    (habsent : disk.tree.isPresent (filePath base label) = false) :
    Holds base label disk none := by
  rcases FileTree.exists_walk_of_isDirectory hdirectory with ⟨place, hwalk, hplace⟩
  have hroom : disk.tree.Room base (fileName label) place :=
    ⟨hwalk, hplace, hpath, fileName_ne (by decide), fileName_ne (by decide), hname⟩
  exact ⟨place, none, hroom.slot_none habsent, rfl⟩

end KeyDirectory
end Possession
