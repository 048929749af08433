import Possession.Files.Dialogue
import Possession.Proofs.Dialogue
import Possession.Proofs.Files.Places
import Possession.Proofs.Outcome

/-!
# A file in a directory

What the operations on files do to one file of a directory. The directory may be named by any path
that leads to it, through points and other directories; no operation on the file touches what the
path goes through, so the path goes on leading there.

* `FileTree.walk_of_directories` is why a path goes on leading where it led.
* `FileTree.Slot` is a place for a file, with what the file holds.
* `FileTask.Runs` says what a procedure does to a tree when no fault stops it.
-/

namespace Possession
namespace FileTree

variable {tree changed : FileTree} {base place : Path} {name : String} {content : Option Bytes}

/-! ## Walking -/

theorem walk_append (tree : FileTree) (place : Path) (front back : List String) :
    tree.walk place (front ++ back) =
      (tree.walk place front).bind fun middle => tree.walk middle back := by
  induction front generalizing place with
  | nil => rfl
  | cons name front ih =>
    simp only [List.cons_append, walk]
    split
    · rfl
    · rfl
    · split
      · exact ih _
      · split
        · exact ih _
        · split
          · rfl
          · exact ih _

/-- A path leads where it led in every tree that has the same directories and perhaps more. -/
theorem walk_of_directories
    (h : ∀ place, tree.IsDirectoryAt place → changed.IsDirectoryAt place) {names : List String}
    {target : Path} (hwalk : tree.walk place names = .ok target) :
    changed.walk place names = .ok target := by
  induction names generalizing place with
  | nil => exact hwalk
  | cons name names ih =>
    rw [walk] at hwalk ⊢
    split at hwalk
    · cases hwalk
    · cases hwalk
    · next mode hfound =>
      rcases h place ⟨mode, hfound⟩ with ⟨mode, hchanged⟩
      rw [hchanged]
      dsimp only
      split at hwalk
      · next hpoint =>
        rw [if_pos hpoint]
        exact ih hwalk
      · next hpoint =>
        rw [if_neg hpoint]
        split at hwalk
        · next hback =>
          rw [if_pos hback]
          exact ih hwalk
        · next hback =>
          rw [if_neg hback]
          split at hwalk
          · cases hwalk
          · next hlength =>
            rw [if_neg hlength]
            exact ih hwalk

/-! ## Slots -/

/-- What may stand at a place that is meant for a file. -/
def Contains (tree : FileTree) (place : Path) (content : Option Bytes) : Prop :=
  match content with
  | none => tree.find? place = none
  | some bytes => ∃ mode, tree.find? place = some ⟨.file bytes, mode⟩

/-- A path that leads to a directory, and a name that may stand in it. -/
structure Room (tree : FileTree) (base : Path) (name : String) (place : Path) : Prop where
  walk : tree.walk [] base = .ok place
  directory : tree.IsDirectoryAt place
  fault : pathFault? (base ++ [name]) = none
  plain : name ≠ "." ∧ name ≠ ".." ∧ name.utf8ByteSize ≤ maxNameSize

/-- A name in a directory under which there may be a file. -/
structure Slot (tree : FileTree) (base : Path) (name : String) (place : Path)
    (content : Option Bytes) : Prop extends Room tree base name place where
  contains : tree.Contains (place ++ [name]) content

theorem Room.resolve (h : Room tree base name place) :
    tree.resolve (base ++ [name]) = .ok (place ++ [name]) := by
  rcases h.directory with ⟨mode, hfound⟩
  rcases h.plain with ⟨hpoint, hback, hlength⟩
  have hlast : tree.walk place [name] = .ok (place ++ [name]) := by
    rw [FileTree.walk, hfound]
    simp only [hpoint, hback, if_false, FileTree.walk]
    rw [if_neg (by omega)]
  rw [FileTree.resolve, h.fault]
  simp only [walk_append, h.walk, Except.bind, hlast]

/-- No change at one place takes a directory away, so a path to one goes on leading there. -/
theorem Room.of_changesOnly {target : Path} (h : Room tree base name place)
    (honly : LinkedTree.ChangesOnly target tree.linked changed.linked) :
    Room changed base name place :=
  ⟨walk_of_directories (fun _ => isDirectoryAt_of_changesOnly honly) h.walk,
    isDirectoryAt_of_changesOnly honly h.directory, h.fault, h.plain⟩

/-- Where there is nothing at the end of a path, its directory has room. -/
theorem Room.slot_none (h : Room tree base name place)
    (habsent : tree.isPresent (base ++ [name]) = false) : Slot tree base name place none := by
  refine ⟨h, ?_⟩
  rw [isPresent, node, h.resolve, Outcome.ok_bind] at habsent
  cases hfound : tree.find? (place ++ [name]) with
  | none => exact hfound
  | some node =>
    rw [hfound] at habsent
    cases habsent

/-- A path at whose end there is a directory leads there. -/
theorem exists_walk_of_isDirectory (h : tree.isDirectory base = true) :
    ∃ place, tree.walk [] base = .ok place ∧ tree.IsDirectoryAt place := by
  rw [isDirectory] at h
  split at h
  · next place found hnode =>
    rcases Outcome.bind_eq_ok_iff.mp hnode with ⟨target, hresolve, hfind⟩
    split at hfind
    · next hfound =>
      cases hfind
      rw [resolve] at hresolve
      split at hresolve
      · cases hresolve
      · refine ⟨place, hresolve, found.mode, ?_⟩
        rw [hfound, ← beq_iff_eq.mp h]
    · cases hfind
  · cases h

/-- A path whose last name is no point leads to a place in the directory before it. -/
theorem exists_room_of_resolve {target : Path} (hpoint : name ≠ ".") (hback : name ≠ "..")
    (hresolve : tree.resolve (base ++ [name]) = .ok target) :
    ∃ place, Room tree base name place ∧ target = place ++ [name] := by
  rw [resolve] at hresolve
  split at hresolve
  · cases hresolve
  next hfault =>
    rw [walk_append] at hresolve
    rcases Outcome.bind_eq_ok_iff.mp hresolve with ⟨place, hwalk, hlast⟩
    rw [walk] at hlast
    split at hlast
    · cases hlast
    · cases hlast
    next mode hdirectory =>
      rw [if_neg hpoint, if_neg hback] at hlast
      split at hlast
      · cases hlast
      next hsize =>
        cases hlast
        exact ⟨place, ⟨hwalk, ⟨mode, hdirectory⟩, hfault, hpoint, hback,
          Nat.le_of_not_lt hsize⟩, rfl⟩

/-- A path whose last name is that of no directory leads to a slot. -/
theorem exists_slot_of_resolve {target : Path} (hpoint : name ≠ ".") (hback : name ≠ "..")
    (hresolve : tree.resolve (base ++ [name]) = .ok target) (hfile : ¬ tree.IsDirectoryAt target) :
    ∃ place content, Slot tree base name place content := by
  rcases exists_room_of_resolve hpoint hback hresolve with ⟨place, hroom, rfl⟩
  rcases hfound : tree.find? (place ++ [name]) with _ | ⟨bytes | _, mode⟩
  · exact ⟨place, none, hroom, hfound⟩
  · exact ⟨place, some bytes, hroom, mode, hfound⟩
  · exact absurd ⟨mode, hfound⟩ hfile

namespace Slot

/-- The file of a slot is no directory. -/
theorem not_directory (h : Slot tree base name place content) :
    ¬ tree.IsDirectoryAt (place ++ [name]) := by
  rintro ⟨mode, hfound⟩
  have hcontains := h.contains
  cases content with
  | none =>
    rw [Contains, hfound] at hcontains
    cases hcontains
  | some bytes =>
    rcases hcontains with ⟨_, hfile⟩
    rw [hfound] at hfile
    cases hfile

/-- A change to the file alone leaves the slot where it is. -/
theorem of_change (h : Slot tree base name place content) {after : Option Bytes}
    (hframe : ∀ other, other ≠ place ++ [name] → changed.find? other = tree.find? other)
    (hcontains : changed.Contains (place ++ [name]) after) :
    Slot changed base name place after := by
  have honly := changesOnly_linked hframe fun hdirectory => absurd hdirectory h.not_directory
  exact ⟨h.of_changesOnly honly, hcontains⟩

theorem insert (h : Slot tree base name place content) (bytes : Bytes) (mode : Nat) :
    Slot (tree.insert (place ++ [name]) ⟨.file bytes, mode⟩) base name place (some bytes) :=
  h.of_change (fun _ hne => find?_insert_of_ne hne _) ⟨mode, find?_insert tree _ _⟩

theorem erase (h : Slot tree base name place content) :
    Slot (tree.erase (place ++ [name])) base name place none :=
  h.of_change (fun _ hne => find?_erase_of_ne hne) (find?_erase (by simp))

/-! ## The node of a slot -/

theorem node_none (h : Slot tree base name place none) :
    tree.node (base ++ [name]) = .error .notFound := by
  have hcontains : tree.find? (place ++ [name]) = none := h.contains
  rw [node, h.resolve, Outcome.ok_bind, hcontains]
  rfl

theorem node_some {bytes : Bytes} (h : Slot tree base name place (some bytes)) :
    ∃ mode, tree.node (base ++ [name]) = .ok (place ++ [name], ⟨.file bytes, mode⟩) := by
  rcases h.contains with ⟨mode, hfound⟩
  refine ⟨mode, ?_⟩
  rw [node, h.resolve, Outcome.ok_bind, hfound]
  rfl

theorem isPresent_eq (h : Slot tree base name place content) :
    tree.isPresent (base ++ [name]) = content.isSome := by
  cases content with
  | none =>
    rw [isPresent, h.node_none]
    rfl
  | some bytes =>
    rcases h.node_some with ⟨mode, hnode⟩
    rw [isPresent, hnode]
    rfl

theorem read_eq (h : Slot tree base name place content) :
    tree.read (base ++ [name]) = match content with
      | none => .error .notFound
      | some bytes => .ok bytes := by
  cases content with
  | none =>
    rw [read, h.node_none]
    rfl
  | some bytes =>
    rcases h.node_some with ⟨mode, hnode⟩
    rw [read, hnode]
    rfl

end Slot
end FileTree

/-! ## Procedures -/

namespace FileTask

variable {α β : Type} {tree next : FileTree}

/-- A procedure that no fault stops. -/
def Runs (task : FileTask α) (tree : FileTree) (value : α) (next : FileTree) : Prop :=
  task.run.run FileTree.answer tree = (some (.ok value), next)

theorem Runs.bind {task : FileTask α} {continuation : α → FileTask β} {value : α} {result : β}
    {last : FileTree} (h : task.Runs tree value next)
    (hrest : (continuation value).Runs next result last) :
    (task >>= continuation).Runs tree result last := by
  rw [Runs, ExceptT.run_bind, Dialogue.run_bind_of_run h]
  exact hrest

theorem Runs.tried {task : FileTask Unit} (h : task.Runs tree () next) :
    task.tried.Runs tree () next := by
  rw [Runs, FileTask.tried, ExceptT.run_mk, Dialogue.run_bind_of_run h]
  rfl

/-- An operation that changes the tree runs if the change succeeds. -/
theorem runs_change {task : FileTask Unit} {result : Except FileFault FileTree}
    (htask : task.run.run FileTree.answer tree = tree.change result) (h : result = .ok next) :
    task.Runs tree () next := by
  rw [Runs, htask, h]
  rfl

end FileTask

/-! ## Operations on the file of a slot -/

namespace FileTree.Slot

variable {tree : FileTree} {base place : Path} {name : String} {content : Option Bytes}
  {bytes : Bytes}

theorem exists_create (h : Slot tree base name place content) :
    ∃ next, tree.create (base ++ [name]) = .ok next ∧ Slot next base name place (some []) := by
  have hcontains := h.contains
  rw [create, h.resolve, Outcome.ok_bind]
  cases content with
  | none =>
    rw [Contains] at hcontains
    rw [hcontains]
    exact ⟨_, rfl, h.insert [] newFileMode⟩
  | some bytes =>
    rcases hcontains with ⟨mode, hfound⟩
    rw [hfound]
    exact ⟨_, rfl, h.insert [] mode⟩

theorem exists_write (h : Slot tree base name place (some bytes)) (contents : Bytes) :
    ∃ next, tree.write (base ++ [name]) contents = .ok next ∧
      Slot next base name place (some contents) := by
  rcases h.node_some with ⟨mode, hnode⟩
  rw [write, hnode]
  exact ⟨_, rfl, h.insert contents mode⟩

theorem exists_setMode (h : Slot tree base name place (some bytes)) (mode : Nat) :
    ∃ next, tree.setMode (base ++ [name]) mode = .ok next ∧
      Slot next base name place (some bytes) := by
  rcases h.node_some with ⟨old, hnode⟩
  rw [setMode, hnode]
  exact ⟨_, rfl, h.insert bytes mode⟩

theorem exists_remove (h : Slot tree base name place (some bytes)) :
    ∃ next, tree.remove (base ++ [name]) = .ok next ∧ Slot next base name place none := by
  rcases h.node_some with ⟨mode, hnode⟩
  rw [remove, hnode]
  exact ⟨_, rfl, h.erase⟩

theorem runs_create (h : Slot tree base name place content) :
    ∃ next, (FileTask.create (base ++ [name])).Runs tree () next ∧
      Slot next base name place (some []) := by
  rcases h.exists_create with ⟨next, hcreated, hnext⟩
  exact ⟨next, FileTask.runs_change (Dialogue.run_question _ _) hcreated, hnext⟩

theorem runs_write (h : Slot tree base name place (some bytes)) (contents : Bytes) :
    ∃ next, (FileTask.write (base ++ [name]) contents).Runs tree () next ∧
      Slot next base name place (some contents) := by
  rcases h.exists_write contents with ⟨next, hwritten, hnext⟩
  exact ⟨next, FileTask.runs_change (Dialogue.run_question _ _) hwritten, hnext⟩

theorem runs_setMode (h : Slot tree base name place (some bytes)) (mode : Nat) :
    ∃ next, (FileTask.setMode (base ++ [name]) mode).Runs tree () next ∧
      Slot next base name place (some bytes) := by
  rcases h.exists_setMode mode with ⟨next, hset, hnext⟩
  exact ⟨next, FileTask.runs_change (Dialogue.run_question _ _) hset, hnext⟩

theorem runs_sync (h : Slot tree base name place (some bytes)) :
    (FileTask.sync (base ++ [name])).Runs tree () tree := by
  rcases h.node_some with ⟨mode, hnode⟩
  refine FileTask.runs_change (Dialogue.run_question _ _) ?_
  rw [hnode]
  rfl

theorem runs_size (h : Slot tree base name place (some bytes)) :
    (FileTask.size (base ++ [name])).Runs tree bytes.length tree := by
  rcases h.node_some with ⟨mode, hnode⟩
  have hsize : tree.size (base ++ [name]) = .ok bytes.length := by
    rw [size, hnode]
    rfl
  rw [FileTask.Runs, ← hsize]
  exact Dialogue.run_question _ _

theorem runs_remove (h : Slot tree base name place (some bytes)) :
    ∃ next, (FileTask.remove (base ++ [name])).Runs tree () next ∧
      Slot next base name place none := by
  rcases h.exists_remove with ⟨next, hremoved, hnext⟩
  exact ⟨next, FileTask.runs_change (Dialogue.run_question _ _) hremoved, hnext⟩

end FileTree.Slot

/-! ## Operations on the directory of a slot -/

namespace FileTree

variable {tree : FileTree} {base place : Path} {name : String} {content : Option Bytes}

theorem pathFault?_of_append {base names : Path} (h : pathFault? (base ++ names) = none) :
    pathFault? base = none := by
  have hgrows (names : Path) (size : Nat) :
      size ≤ names.foldl (fun size name => size + name.utf8ByteSize + 1) size := by
    induction names generalizing size with
    | nil => exact Nat.le_refl _
    | cons name names ih =>
      have hrest := ih (size + name.utf8ByteSize + 1)
      rw [List.foldl_cons]
      omega
  rw [pathFault?] at h ⊢
  rw [List.any_append, List.foldl_append] at h
  split at h
  · cases h
  · next hnull =>
    split at h
    · cases h
    · next hlong =>
      have hbase := hgrows names (base.foldl (fun size name => size + name.utf8ByteSize + 1) 0)
      rw [if_neg fun hbad => hnull (by rw [hbad, Bool.true_or]), if_neg (by omega)]

theorem Room.resolve_base (h : Room tree base name place) : tree.resolve base = .ok place := by
  rw [FileTree.resolve, pathFault?_of_append h.fault]
  exact h.walk

theorem Room.node_base (h : Room tree base name place) :
    ∃ mode, tree.node base = .ok (place, ⟨.directory, mode⟩) := by
  rcases h.directory with ⟨mode, hfound⟩
  refine ⟨mode, ?_⟩
  rw [node, h.resolve_base, Outcome.ok_bind, hfound]
  rfl

/-- Directories that are there are left as they are. -/
theorem Room.runs_makeDirectories (h : Room tree base name place) :
    (FileTask.makeDirectories base.reverse).Runs tree () tree := by
  rcases h.directory with ⟨mode, hfound⟩
  have hmade : tree.makeDirectory base = .error .alreadyExists := by
    rw [makeDirectory, h.resolve_base, Outcome.ok_bind, hfound]
    rfl
  have hdirectory : tree.isDirectory base = true := by
    rcases h.node_base with ⟨mode, hnode⟩
    rw [isDirectory, hnode]
    rfl
  cases hnames : base.reverse with
  | nil => rfl
  | cons last parents =>
    have hbase : (last :: parents).reverse = base := by rw [← hnames, List.reverse_reverse]
    have hasked : (FileTask.makeDirectory base).run.run answer tree =
        (some (.error .alreadyExists), tree) := by
      refine (Dialogue.run_question _ _).trans ?_
      rw [answer, hmade]
      rfl
    have hanswered : (FileDialogue.isDirectory base).run answer tree = (some true, tree) := by
      refine (Dialogue.run_question _ _).trans ?_
      rw [answer, hdirectory]
      rfl
    simp only [FileTask.Runs, FileTask.makeDirectories, hbase, ExceptT.run_mk]
    rw [Dialogue.run_bind_of_run hasked]
    dsimp only
    rw [Dialogue.run_bind_of_run hanswered]
    rfl

/-- Closing the directory of a slot leaves the slot as it is. -/
theorem Slot.runs_setMode_base (h : Slot tree base name place content) (mode : Nat) :
    ∃ next, (FileTask.setMode base mode).Runs tree () next ∧ Slot next base name place content := by
  rcases h.node_base with ⟨old, hnode⟩
  have hset : tree.setMode base mode = .ok (tree.insert place ⟨.directory, mode⟩) := by
    rw [setMode, hnode]
    rfl
  have hkept : (tree.insert place ⟨.directory, mode⟩).find? (place ++ [name]) =
      tree.find? (place ++ [name]) := find?_insert_of_ne (by simp) _
  refine ⟨_, FileTask.runs_change (Dialogue.run_question _ _) hset,
    h.of_changesOnly (changesOnly_insert fun _ => rfl), ?_⟩
  have hcontains := h.contains
  unfold Contains at hcontains ⊢
  rwa [hkept]

end FileTree

end Possession
