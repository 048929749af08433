import Possession.Proofs.Files.Interruption

/-!
# Files beside one another

Operations on one file of a directory leave the other files of it alone, and with them the way to
these files, whatever the operations come to.

* `FileTree.Touches` is what an operation on a path may do to a tree, as `FileTree.touches_answer`
  shows for each operation.
* `FileTree.node_of_touches` says that nothing else in the directory is touched.
* `FileDialogue.IsOn` is a procedure whose operations are all on one path, and
  `FileDialogue.node_of_reaches` what a run of it leaves alone, wherever it stops.
-/

namespace Possession

/-- The path that an operation is on. -/
def FileCall.path : FileCall → Path
  | .isPresent path | .isDirectory path | .makeDirectory path | .setMode path _ | .read path
  | .size path | .create path | .write path _ | .sync path | .remove path => path

namespace FileTree

variable {tree changed next point : FileTree} {base path place : Path} {name other : String}

/-! ## Single operations -/

/-- What an operation on a path may do to a tree. -/
def Touches (tree : FileTree) (path : Path) (changed : FileTree) : Prop :=
  changed = tree ∨ ∃ place, tree.resolve path = .ok place ∧
    LinkedTree.ChangesOnly place tree.linked changed.linked

/-- Where something else than a directory was found there is none. -/
theorem not_isDirectoryAt_of_find? {node? : Option FileNode} (hfound : tree.find? place = node?)
    (h : ∀ mode, node? ≠ some ⟨.directory, mode⟩) : ¬ tree.IsDirectoryAt place := by
  rintro ⟨mode, hdirectory⟩
  exact h mode (hfound.symm.trans hdirectory)

theorem node_eq_ok_iff {node : FileNode} : tree.node path = .ok (place, node) ↔
    tree.resolve path = .ok place ∧ tree.find? place = some node := by
  rw [FileTree.node, Outcome.bind_eq_ok_iff]
  constructor
  · rintro ⟨target, hresolve, hnode⟩
    split at hnode
    · next hfound =>
      cases hnode
      exact ⟨hresolve, hfound⟩
    · cases hnode
  · rintro ⟨hresolve, hfound⟩
    refine ⟨place, hresolve, ?_⟩
    rw [hfound]
    rfl

theorem touches_makeDirectory (h : tree.makeDirectory path = .ok next) :
    tree.Touches path next := by
  rcases Outcome.bind_eq_ok_iff.mp h with ⟨place, hresolve, hmade⟩
  split at hmade
  · cases hmade
  · cases hmade
    exact .inr ⟨place, hresolve, changesOnly_insert fun _ => rfl⟩

theorem touches_setMode {mode : Nat} (h : tree.setMode path mode = .ok next) :
    tree.Touches path next := by
  rcases Outcome.bind_eq_ok_iff.mp h with ⟨⟨place, node⟩, hnode, hset⟩
  rcases node_eq_ok_iff.mp hnode with ⟨hresolve, hfound⟩
  cases hset
  refine .inr ⟨place, hresolve, changesOnly_insert ?_⟩
  rintro ⟨_, hdirectory⟩
  cases hfound.symm.trans hdirectory
  rfl

theorem touches_create (h : tree.create path = .ok next) : tree.Touches path next := by
  rcases Outcome.bind_eq_ok_iff.mp h with ⟨place, hresolve, hcreated⟩
  split at hcreated
  · cases hcreated
  · next hfound =>
    cases hcreated
    have hfile := not_isDirectoryAt_of_find? hfound nofun
    exact .inr ⟨place, hresolve, changesOnly_insert fun hdirectory => absurd hdirectory hfile⟩
  · next hfound =>
    cases hcreated
    have hnothing := not_isDirectoryAt_of_find? hfound nofun
    exact .inr ⟨place, hresolve, changesOnly_insert fun hdirectory => absurd hdirectory hnothing⟩

theorem touches_write {bytes : Bytes} (h : tree.write path bytes = .ok next) :
    tree.Touches path next := by
  rcases Outcome.bind_eq_ok_iff.mp h with ⟨⟨place, node⟩, hnode, hwritten⟩
  rcases node_eq_ok_iff.mp hnode with ⟨hresolve, hfound⟩
  rcases node with ⟨_ | _, mode⟩
  · cases hwritten
    have hfile := not_isDirectoryAt_of_find? hfound nofun
    exact .inr ⟨place, hresolve, changesOnly_insert fun hdirectory => absurd hdirectory hfile⟩
  · cases hwritten

theorem touches_remove (h : tree.remove path = .ok next) : tree.Touches path next := by
  rcases Outcome.bind_eq_ok_iff.mp h with ⟨⟨place, node⟩, hnode, hremoved⟩
  rcases node_eq_ok_iff.mp hnode with ⟨hresolve, hfound⟩
  rcases node with ⟨_ | _, mode⟩
  · cases hremoved
    exact .inr ⟨place, hresolve, changesOnly_erase (not_isDirectoryAt_of_find? hfound nofun)⟩
  · cases hremoved

/-- An operation that fails changes nothing. -/
theorem touches_change {result : Except FileFault FileTree}
    (h : ∀ next, result = .ok next → tree.Touches path next) :
    tree.Touches path (tree.change result).2 := by
  cases result with
  | ok changed => exact h changed rfl
  | error fault => exact .inl rfl

theorem touches_answer (tree : FileTree) (call : FileCall) :
    tree.Touches call.path (FileTree.answer call tree).2 := by
  cases call with
  -- These four only read.
  | isPresent _ => exact .inl rfl
  | isDirectory _ => exact .inl rfl
  | read _ => exact .inl rfl
  | size _ => exact .inl rfl
  -- The others fail or change what there is at the end of the path.
  | makeDirectory _ => exact touches_change fun _ => touches_makeDirectory
  | setMode _ _ => exact touches_change fun _ => touches_setMode
  | create _ => exact touches_change fun _ => touches_create
  | write _ _ => exact touches_change fun _ => touches_write
  | remove _ => exact touches_change fun _ => touches_remove
  | sync _ =>
    refine touches_change fun next hsynced => ?_
    rcases Outcome.map_eq_ok_iff.mp hsynced with ⟨_, -, rfl⟩
    exact .inl rfl

theorem Attempt.touches {call : FileCall} {answer : call.Answer}
    (h : tree.Attempt call answer next) : tree.Touches call.path next := by
  cases h with
  | performed hperformed =>
    have htouches := tree.touches_answer call
    rwa [hperformed] at htouches
  | failed _ _ => exact .inl rfl
  | cut _ _ hwritten => exact touches_write hwritten

theorem Amid.touches {call : FileCall} (h : tree.Amid call point) :
    tree.Touches call.path point := by
  cases h with
  | untouched _ => exact .inl rfl
  | writing _ hwritten => exact touches_write hwritten

/-! ## Other files of the directory -/

/-- A name that leads further down. -/
def IsProper (name : String) : Prop :=
  name ≠ "." ∧ name ≠ ".."

/-- What there is under a name in a directory. -/
theorem node_of_walk (hwalk : tree.walk [] base = .ok place) (hdirectory : tree.IsDirectoryAt place)
    (hname : IsProper name) :
    tree.node (base ++ [name]) = match pathFault? (base ++ [name]) with
      | some fault => .error fault
      | none =>
        if maxNameSize < name.utf8ByteSize then .error .nameTooLong
        else match tree.find? (place ++ [name]) with
          | some node => .ok (place ++ [name], node)
          | none => .error .notFound := by
  rcases hdirectory with ⟨mode, hfound⟩
  rw [node, resolve]
  cases pathFault? (base ++ [name]) with
  | some fault => rfl
  | none =>
    rw [walk_append, hwalk]
    simp only [Except.bind, walk, hfound, if_neg hname.1, if_neg hname.2]
    split
    · rfl
    · rw [Outcome.ok_bind]
      rfl

/-- An operation on one file of a directory leaves the way there open: only a file is changed, and
no path leads on through a file. -/
theorem Room.of_touches (hroom : Room tree base name place)
    (h : tree.Touches (base ++ [name]) changed) : Room changed base name place := by
  rcases h with rfl | ⟨target, -, honly⟩
  · exact hroom
  · exact hroom.of_changesOnly honly

/-- It leaves the other files of the directory alone. -/
theorem node_of_touches (hname : IsProper name) (hother : IsProper other) (hne : other ≠ name)
    (h : tree.Touches (base ++ [name]) changed) :
    changed.node (base ++ [other]) = tree.node (base ++ [other]) := by
  rcases h with rfl | ⟨target, hresolve, honly⟩
  · rfl
  rcases exists_room_of_resolve hname.1 hname.2 hresolve with ⟨place, hroom, rfl⟩
  have hafter : Room changed base name place := hroom.of_touches (.inr ⟨_, hresolve, honly⟩)
  have hkept : changed.find? (place ++ [other]) = tree.find? (place ++ [other]) := by
    refine find?_of_changesOnly honly fun hsame => hne ?_
    simpa using hsame
  rw [node_of_walk hroom.walk hroom.directory hother,
    node_of_walk hafter.walk hafter.directory hother, hkept]

end FileTree

/-! ## Whole procedures -/

namespace FileDialogue

variable {α β : Type} {dialogue rest : FileDialogue α} {base path : Path} {name other : String}
  {tree point : FileTree} {said : List FileExchange}

/-- A procedure whose operations are all on one path. -/
def IsOn (path : Path) : FileDialogue α → Prop
  | .done _ => True
  | .ask call next => call.path = path ∧ ∀ answer, IsOn path (next answer)

theorem isOn_question (call : FileCall) : IsOn call.path (Dialogue.question call) :=
  ⟨rfl, fun _ => trivial⟩

theorem IsOn.bind {continuation : α → FileDialogue β} (h : IsOn path dialogue)
    (hrest : ∀ value, IsOn path (continuation value)) : IsOn path (dialogue >>= continuation) := by
  change IsOn path (dialogue.bind continuation)
  induction dialogue with
  | done value => exact hrest value
  | ask call next ih => exact ⟨h.1, fun answer => ih answer (h.2 answer)⟩

/-- Wherever a procedure on one file of a directory comes to, the other files are as before. -/
theorem node_of_reaches (hon : IsOn (base ++ [name]) dialogue) (hname : FileTree.IsProper name)
    (hother : FileTree.IsProper other) (hne : other ≠ name)
    (hreach : Reaches dialogue tree said rest point) :
    point.node (base ++ [other]) = tree.node (base ++ [other]) := by
  -- Each operation leaves the other file as the operation before it did.
  induction hreach with
  | done value tree => rfl
  | amid hamid =>
    have htouches := hamid.touches
    rw [hon.1] at htouches
    exact FileTree.node_of_touches hname hother hne htouches
  | step hattempt _ ih =>
    have htouches := hattempt.touches
    rw [hon.1] at htouches
    exact (ih (hon.2 _)).trans (FileTree.node_of_touches hname hother hne htouches)

/-- Wherever a procedure on one file of a directory comes to, the way there is open. -/
theorem room_of_reaches {place : Path} (hon : IsOn (base ++ [name]) dialogue)
    (hroom : FileTree.Room tree base name place) (hreach : Reaches dialogue tree said rest point) :
    FileTree.Room point base name place := by
  induction hreach with
  | done value tree => exact hroom
  | amid hamid =>
    have htouches := hamid.touches
    rw [hon.1] at htouches
    exact hroom.of_touches htouches
  | step hattempt _ ih =>
    have htouches := hattempt.touches
    rw [hon.1] at htouches
    exact ih (hon.2 _) (hroom.of_touches htouches)

/-- A run comes to where it ends. -/
theorem exists_reaches_of_run {value : α} {next : FileTree}
    (h : dialogue.run FileTree.answer tree = (some value, next)) :
    ∃ said, Reaches dialogue tree said (.done value) next := by
  induction dialogue generalizing tree with
  | done result =>
    cases h
    exact ⟨[], .done value next⟩
  | ask call further ih =>
    rw [Dialogue.run] at h
    rcases hanswer : FileTree.answer call tree with ⟨_ | answer, after⟩
    · rw [hanswer] at h
      cases h
    · rw [hanswer] at h
      rcases ih answer h with ⟨said, hreach⟩
      exact ⟨_, .step (.performed hanswer) hreach⟩

end FileDialogue

theorem FileTree.isSome_answer (call : FileCall) (tree : FileTree) :
    (FileTree.answer call tree).1.isSome := by
  have hchange (result : Except FileFault FileTree) : (tree.change result).1.isSome := by
    cases result <;> rfl
  cases call with
  | isPresent _ => rfl
  | isDirectory _ => rfl
  | read _ => rfl
  | size _ => rfl
  | _ => exact hchange _

theorem FileTask.isOn_tried {path : Path} {task : FileTask Unit}
    (h : FileDialogue.IsOn path task.run) : FileDialogue.IsOn path task.tried.run :=
  h.bind fun _ => trivial

theorem FileTask.isOn_bind {α β : Type} {path : Path} {task : FileTask α}
    {continuation : α → FileTask β} (h : FileDialogue.IsOn path task.run)
    (hrest : ∀ value, FileDialogue.IsOn path (continuation value).run) :
    FileDialogue.IsOn path (task >>= continuation).run := by
  rw [ExceptT.run_bind]
  refine h.bind fun result => ?_
  cases result with
  | ok value => exact hrest value
  | error fault => exact trivial

end Possession
