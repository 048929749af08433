import Possession.Proofs.Files.Slot

/-!
# Procedures on a disk that fails

A procedure over files can be looked at, or be stopped for good, wherever it is: between two
operations, behind one that has failed, and in the middle of a write, of whose octets only the first
ones are there.

* `FileTree.Attempt` is what an operation may come to, `FileTree.Amid` what may be seen before.
* `FileDialogue.Reaches` is where a procedure may come to.
* `FileDialogue.Stays` is what holds wherever that is; it is shown along the procedure.
* `FileTree.Remade` is a file that was emptied, and what became of it.
-/

namespace Possession

/-- The answer to an operation that fails. -/
def FileCall.refusal (fault : FileFault) : (call : FileCall) → call.Answer
  | .isPresent _ => false
  | .isDirectory _ => false
  | .makeDirectory _ => Except.error fault
  | .setMode _ _ => Except.error fault
  | .read _ => Except.error fault
  | .size _ => Except.error fault
  | .create _ => Except.error fault
  | .write _ _ => Except.error fault
  | .sync _ => Except.error fault
  | .remove _ => Except.error fault

/-- An operation on files with its answer. -/
abbrev FileExchange : Type :=
  (call : FileCall) × call.Answer

/-! ## Single operations -/

namespace FileTree

/-- What an operation may come to: it is performed, it fails and leaves everything as it was, or a
write fails behind some of its octets. -/
inductive Attempt (tree : FileTree) : (call : FileCall) → call.Answer → FileTree → Prop where
  | performed {call : FileCall} {answer : call.Answer} {next : FileTree} :
    FileTree.answer call tree = (some answer, next) → Attempt tree call answer next
  | failed (call : FileCall) (fault : FileFault) : Attempt tree call (call.refusal fault) tree
  | cut {path : Path} {bytes : Bytes} {next : FileTree} (count : Nat) (fault : FileFault) :
    tree.write path (bytes.take count) = .ok next →
      Attempt tree (.write path bytes) (Except.error fault) next

/-- What may be seen before an operation has come to its end. -/
inductive Amid (tree : FileTree) : FileCall → FileTree → Prop where
  | untouched (call : FileCall) : Amid tree call tree
  | writing {path : Path} {bytes : Bytes} {point : FileTree} (count : Nat) :
    tree.write path (bytes.take count) = .ok point → Amid tree (.write path bytes) point

variable {tree next point : FileTree} {call : FileCall}

theorem Attempt.performed_or_failed {answer : call.Answer} (h : tree.Attempt call answer next)
    (hwrite : ∀ path bytes, call ≠ .write path bytes) :
    FileTree.answer call tree = (some answer, next) ∨
      (∃ fault, answer = call.refusal fault) ∧ next = tree := by
  cases h with
  | performed hperformed => exact .inl hperformed
  | failed _ fault => exact .inr ⟨⟨fault, rfl⟩, rfl⟩
  | cut => exact absurd rfl (hwrite _ _)

theorem Amid.eq (h : tree.Amid call point) (hwrite : ∀ path bytes, call ≠ .write path bytes) :
    point = tree := by
  cases h with
  | untouched => rfl
  | writing => exact absurd rfl (hwrite _ _)

/-- An operation that changes the tree succeeds, or it leaves the tree as it was. -/
theorem changed_or_kept {result : Except FileFault FileTree} {answer : Except FileFault Unit}
    (h : tree.change result = (some answer, next) ∨
      (∃ fault, answer = .error fault) ∧ next = tree) :
    (answer = .ok () ∧ result = .ok next) ∨ (∃ fault, answer = .error fault) ∧ next = tree := by
  rcases h with hchange | hfailed
  · cases result with
    | ok changed =>
      cases hchange
      exact .inl ⟨rfl, rfl⟩
    | error fault =>
      cases hchange
      exact .inr ⟨⟨fault, rfl⟩, rfl⟩
  · exact .inr hfailed

end FileTree

/-! ## Whole procedures -/

namespace FileDialogue

variable {α β : Type}

/-- Where a procedure may come to from a tree: what was said up to there, what it is yet to do, and
the tree that is seen there. -/
inductive Reaches : FileDialogue α → FileTree → List FileExchange → FileDialogue α → FileTree →
    Prop where
  | done (value : α) (tree : FileTree) : Reaches (.done value) tree [] (.done value) tree
  | amid {call : FileCall} {next : call.Answer → FileDialogue α} {tree point : FileTree} :
    tree.Amid call point → Reaches (.ask call next) tree [] (.ask call next) point
  | step {call : FileCall} {next : call.Answer → FileDialogue α} {tree after point : FileTree}
      {answer : call.Answer} {later : List FileExchange} {rest : FileDialogue α} :
    tree.Attempt call answer after → Reaches (next answer) after later rest point →
      Reaches (.ask call next) tree (⟨call, answer⟩ :: later) rest point

/-- What holds of a procedure, given what was said before it: `Holds` wherever it comes to, and
`Ends` of its result. -/
def Stays (Holds : List FileExchange → FileTree → Prop)
    (Ends : α → List FileExchange → FileTree → Prop) :
    FileDialogue α → List FileExchange → FileTree → Prop
  | .done value, said, tree => Holds said tree ∧ Ends value said tree
  | .ask call next, said, tree => (∀ point, tree.Amid call point → Holds said point) ∧
    ∀ answer after, tree.Attempt call answer after →
      Stays Holds Ends (next answer) (said ++ [⟨call, answer⟩]) after

variable {Holds Weaker : List FileExchange → FileTree → Prop}
  {Ends Looser : α → List FileExchange → FileTree → Prop}
  {Last : β → List FileExchange → FileTree → Prop} {dialogue rest : FileDialogue α}
  {said later : List FileExchange} {tree point : FileTree}

/-- Wherever a procedure comes to. -/
theorem Stays.of_reaches (h : Stays Holds Ends dialogue said tree)
    (hreach : Reaches dialogue tree later rest point) :
    Holds (said ++ later) point ∧
      ∀ value, rest = .done value → Ends value (said ++ later) point := by
  induction hreach generalizing said with
  | done value tree =>
    rw [List.append_nil]
    refine ⟨h.1, ?_⟩
    rintro _ ⟨⟩
    exact h.2
  | amid hamid =>
    rw [List.append_nil]
    exact ⟨h.1 _ hamid, nofun⟩
  | step hattempt _ ih =>
    have hlater := ih (h.2 _ _ hattempt)
    rwa [List.append_assoc] at hlater

theorem Stays.bind {continuation : α → FileDialogue β} (h : Stays Holds Ends dialogue said tree)
    (hrest : ∀ value said tree, Holds said tree → Ends value said tree →
      Stays Holds Last (continuation value) said tree) :
    Stays Holds Last (dialogue >>= continuation) said tree := by
  change Stays Holds Last (dialogue.bind continuation) said tree
  induction dialogue generalizing said tree with
  | done value => exact hrest value said tree h.1 h.2
  | ask call next ih =>
    exact ⟨h.1, fun answer after hattempt => ih answer (h.2 answer after hattempt)⟩

theorem Stays.weaken (h : Stays Holds Ends dialogue said tree)
    (hholds : ∀ said tree, Holds said tree → Weaker said tree)
    (hends : ∀ value said tree, Holds said tree → Ends value said tree → Looser value said tree) :
    Stays Weaker Looser dialogue said tree := by
  induction dialogue generalizing said tree with
  | done value => exact ⟨hholds _ _ h.1, hends _ _ _ h.1 h.2⟩
  | ask call next ih =>
    exact ⟨fun point hamid => hholds _ _ (h.1 point hamid),
      fun answer after hattempt => ih answer (h.2 answer after hattempt)⟩

/-- A single operation that has come to its end. -/
theorem reaches_question {call : FileCall} {answer : call.Answer}
    (h : Reaches (Dialogue.question call) tree said (.done answer) point) :
    said = [⟨call, answer⟩] ∧ tree.Attempt call answer point := by
  cases h with
  | step hattempt hrest =>
    cases hrest
    exact ⟨rfl, hattempt⟩

/-- A run of a procedure and what follows on it is a run of the one and then a run of the other. -/
theorem Reaches.exists_of_bind {continuation : α → FileDialogue β} {result : β}
    (h : Reaches (dialogue >>= continuation) tree said (.done result) point) :
    ∃ value front middle back, Reaches dialogue tree front (.done value) middle ∧
      Reaches (continuation value) middle back (.done result) point ∧ said = front ++ back := by
  change Reaches (dialogue.bind continuation) tree said (.done result) point at h
  induction dialogue generalizing said tree with
  | done value => exact ⟨value, [], tree, said, .done value tree, h, rfl⟩
  | ask call next ih =>
    cases h with
    | step hattempt hrest =>
      rcases ih _ hrest with ⟨value, front, middle, back, hfirst, hlast, rfl⟩
      exact ⟨value, _, middle, back, .step hattempt hfirst, hlast, rfl⟩

theorem Reaches.bind {continuation : α → FileDialogue β} {last : FileDialogue β} {value : α}
    {middle : FileTree} (h : Reaches dialogue tree said (.done value) middle)
    (hlast : Reaches (continuation value) middle later last point) :
    Reaches (dialogue >>= continuation) tree (said ++ later) last point := by
  change Reaches (dialogue.bind continuation) tree (said ++ later) last point
  generalize hdone : (Dialogue.done value : FileDialogue α) = rest at h
  induction h with
  | done =>
    cases hdone
    exact hlast
  | amid => cases hdone
  | step hattempt _ ih => exact .step hattempt (ih hlast hdone)

/-- An operation that changes nothing leaves the tree as it was, whatever it comes to. -/
theorem stays_of_reading (call : FileCall) (hreads : (FileTree.answer call tree).2 = tree)
    (hwrite : ∀ path bytes, call ≠ .write path bytes) :
    Stays (fun _ point => point = tree) (fun _ _ after => after = tree)
      (Dialogue.question call) said tree := by
  refine ⟨fun point hamid => hamid.eq hwrite, fun answer after hattempt => ?_⟩
  have hkept : after = tree := by
    rcases hattempt.performed_or_failed hwrite with hperformed | ⟨-, hkept⟩
    · rw [hperformed] at hreads
      exact hreads
    · exact hkept
  exact ⟨hkept, hkept⟩

end FileDialogue

/-- A procedure that stops at the first fault, and what follows on it. -/
theorem FileTask.stays_bind {α β : Type} {Narrow Holds : List FileExchange → FileTree → Prop}
    {Ends : Except FileFault α → List FileExchange → FileTree → Prop}
    {Last : Except FileFault β → List FileExchange → FileTree → Prop} {task : FileTask α}
    {continuation : α → FileTask β} {said : List FileExchange} {tree : FileTree}
    (h : FileDialogue.Stays Narrow Ends task.run said tree)
    (hholds : ∀ said tree, Narrow said tree → Holds said tree)
    (hok : ∀ value said tree, Ends (.ok value) said tree →
      FileDialogue.Stays Holds Last (continuation value).run said tree)
    (herror : ∀ fault said tree, Ends (.error fault) said tree → Last (.error fault) said tree) :
    FileDialogue.Stays Holds Last (task >>= continuation).run said tree := by
  rw [ExceptT.run_bind]
  refine (h.weaken hholds fun _ _ _ _ hends => hends).bind fun result said tree hheld hends => ?_
  cases result with
  | ok value => exact hok value said tree hends
  | error fault => exact ⟨hheld, herror fault said tree hends⟩

/-- What holds where a procedure ends holds where it was tried, whatever stopped it. -/
theorem FileTask.stays_tried {Holds Last : List FileExchange → FileTree → Prop}
    {task : FileTask Unit} {said : List FileExchange} {tree : FileTree}
    (h : FileDialogue.Stays Holds (fun _ => Last) task.run said tree) :
    FileDialogue.Stays Holds (fun _ => Last) task.tried.run said tree :=
  FileDialogue.Stays.bind h fun _ _ _ hheld hends => ⟨hheld, hends⟩

/-! ## Files that are made anew -/

/-- Whether a file was emptied, or made. -/
def IsEmptied (path : Path) (said : List FileExchange) : Prop :=
  (⟨.create path, Except.ok ()⟩ : FileExchange) ∈ said

namespace FileTree

variable {before tree next : FileTree} {base : Path} {name : String} {said : List FileExchange}
  {Content : Bytes → Prop}

/-- A file that was emptied in the slot where it was before, and holds something since then. -/
def Remade (before : FileTree) (base : Path) (name : String) (Content : Bytes → Prop)
    (said : List FileExchange) (tree : FileTree) : Prop :=
  IsEmptied (base ++ [name]) said ∧
    ∃ place content bytes, Slot before base name place content ∧ Content bytes ∧
      Slot tree base name place (some bytes)

theorem Remade.mono {Looser : Bytes → Prop} (h : Remade before base name Content said tree)
    (hcontent : ∀ bytes, Content bytes → Looser bytes) :
    Remade before base name Looser said tree := by
  rcases h with ⟨hemptied, place, content, bytes, hbefore, hbytes, hslot⟩
  exact ⟨hemptied, place, content, bytes, hbefore, hcontent bytes hbytes, hslot⟩

/-- A file that can be emptied has a slot. -/
theorem exists_slot_of_create (hpoint : name ≠ ".") (hback : name ≠ "..")
    (h : before.create (base ++ [name]) = .ok next) :
    ∃ place content, Slot before base name place content ∧
      Slot next base name place (some []) := by
  have hslot : ∃ place content, Slot before base name place content := by
    rcases Outcome.bind_eq_ok_iff.mp h with ⟨target, hresolve, hcreated⟩
    refine exists_slot_of_resolve hpoint hback hresolve ?_
    rintro ⟨mode, hdirectory⟩
    rw [hdirectory] at hcreated
    cases hcreated
  rcases hslot with ⟨place, content, hslot⟩
  rcases hslot.exists_create with ⟨created, hcreated, hafter⟩
  cases h.symm.trans hcreated
  exact ⟨place, content, hslot, hafter⟩

/-- A file that can be removed has a slot. -/
theorem exists_slot_of_remove (hpoint : name ≠ ".") (hback : name ≠ "..")
    (h : before.remove (base ++ [name]) = .ok next) :
    ∃ place content, Slot before base name place content ∧ Slot next base name place none := by
  have hslot : ∃ place content, Slot before base name place content := by
    rcases Outcome.bind_eq_ok_iff.mp h with ⟨found, hnode, hremoved⟩
    rcases Outcome.bind_eq_ok_iff.mp hnode with ⟨target, hresolve, hfound⟩
    refine exists_slot_of_resolve hpoint hback hresolve ?_
    rintro ⟨mode, hdirectory⟩
    rw [hdirectory] at hfound
    cases hfound
    cases hremoved
  rcases hslot with ⟨place, content, hslot⟩
  cases content with
  | none =>
    rw [remove, hslot.node_none] at h
    cases h
  | some bytes =>
    rcases hslot.exists_remove with ⟨removed, hremoved, hafter⟩
    cases h.symm.trans hremoved
    exact ⟨place, some bytes, hslot, hafter⟩

/-- A file is as it was until it is emptied. -/
theorem stays_create (Content : Bytes → Prop) (hpoint : name ≠ ".") (hback : name ≠ "..")
    (hcontent : Content []) :
    FileDialogue.Stays
      (fun said point => point = before ∨ Remade before base name Content said point)
      (fun result said after => match result with
        | .ok () => Remade before base name (· = []) said after
        | .error _ => after = before)
      (FileTask.create (base ++ [name])).run said before := by
  refine ⟨fun point hamid => .inl (hamid.eq nofun), fun answer after hattempt => ?_⟩
  rcases changed_or_kept (hattempt.performed_or_failed nofun) with
    ⟨rfl, hcreated⟩ | ⟨⟨fault, rfl⟩, hkept⟩
  · rcases exists_slot_of_create hpoint hback hcreated with ⟨place, content, hslot, hafter⟩
    have hremade : Remade before base name (· = [])
        (said ++ [⟨.create (base ++ [name]), Except.ok ()⟩]) after :=
      ⟨List.mem_append_right _ List.mem_cons_self, place, content, [], hslot, rfl, hafter⟩
    exact ⟨.inr (hremade.mono fun bytes hbytes => hbytes ▸ hcontent), hremade⟩
  · exact ⟨.inl hkept, hkept⟩

/-- What is done to a file that is open changes what it holds to nothing else. -/
theorem Remade.stays_of_keeping {call : FileCall} (h : Remade before base name Content said tree)
    (hwrite : ∀ path bytes, call ≠ .write path bytes)
    (hkeeps : ∀ place bytes, Slot tree base name place (some bytes) →
      Slot (FileTree.answer call tree).2 base name place (some bytes)) :
    FileDialogue.Stays (Remade before base name Content)
      (fun _ said after => Remade before base name Content said after)
      (Dialogue.question call) said tree := by
  rcases h with ⟨hemptied, place, content, bytes, hbefore, hbytes, hslot⟩
  refine ⟨fun point hamid => ?_, fun answer after hattempt => ?_⟩
  · rw [hamid.eq hwrite]
    exact ⟨hemptied, place, content, bytes, hbefore, hbytes, hslot⟩
  · have hafter : Slot after base name place (some bytes) := by
      rcases hattempt.performed_or_failed hwrite with hperformed | ⟨-, rfl⟩
      · have hkept := hkeeps place bytes hslot
        rwa [hperformed] at hkept
      · exact hslot
    have hremade : Remade before base name Content (said ++ [⟨call, answer⟩]) after :=
      ⟨List.mem_append_left _ hemptied, place, content, bytes, hbefore, hbytes, hafter⟩
    exact ⟨hremade, hremade⟩

theorem Remade.stays_setMode (h : Remade before base name Content said tree) (mode : Nat) :
    FileDialogue.Stays (Remade before base name Content)
      (fun _ said after => Remade before base name Content said after)
      (FileTask.setMode (base ++ [name]) mode).run said tree := by
  refine h.stays_of_keeping nofun fun place bytes hslot => ?_
  rcases hslot.exists_setMode mode with ⟨next, hset, hnext⟩
  rw [answer, hset]
  exact hnext

theorem Remade.stays_sync (h : Remade before base name Content said tree) :
    FileDialogue.Stays (Remade before base name Content)
      (fun _ said after => Remade before base name Content said after)
      (FileTask.sync (base ++ [name])).run said tree := by
  refine h.stays_of_keeping nofun fun place bytes hslot => ?_
  rcases hslot.node_some with ⟨mode, hnode⟩
  rw [answer, hnode]
  exact hslot

/-- What is seen of a file that is being filled is a front of what is written. -/
theorem Slot.exists_front_of_amid {place : Path} {bytes : Bytes} {point : FileTree}
    (h : Slot tree base name place (some []))
    (hamid : tree.Amid (.write (base ++ [name]) bytes) point) :
    ∃ front, front <+: bytes ∧ Slot point base name place (some front) := by
  cases hamid with
  | untouched => exact ⟨[], List.nil_prefix, h⟩
  | writing count hwritten =>
    rcases h.exists_write (bytes.take count) with ⟨next, hnext, hslot⟩
    cases hwritten.symm.trans hnext
    exact ⟨_, List.take_prefix count bytes, hslot⟩

theorem Slot.exists_front_of_attempt {place : Path} {bytes : Bytes}
    {answer : Except FileFault Unit} (h : Slot tree base name place (some []))
    (hattempt : tree.Attempt (.write (base ++ [name]) bytes) answer next) :
    ∃ front, front <+: bytes ∧ Slot next base name place (some front) := by
  cases hattempt with
  | performed hperformed =>
    rcases changed_or_kept (.inl hperformed) with ⟨-, hwritten⟩ | ⟨-, rfl⟩
    · refine h.exists_front_of_amid (.writing bytes.length ?_)
      rw [List.take_length]
      exact hwritten
    · exact ⟨[], List.nil_prefix, h⟩
  | failed => exact ⟨[], List.nil_prefix, h⟩
  | cut count fault hwritten => exact h.exists_front_of_amid (.writing count hwritten)

/-- A file that is filled holds a front of what is written. -/
theorem Remade.stays_write (h : Remade before base name (· = []) said tree) (bytes : Bytes) :
    FileDialogue.Stays (Remade before base name (· <+: bytes))
      (fun _ => Remade before base name (· <+: bytes))
      (FileTask.write (base ++ [name]) bytes).run said tree := by
  rcases h with ⟨hemptied, place, content, _, hbefore, rfl, hslot⟩
  refine ⟨fun point hamid => ?_, fun answer after hattempt => ?_⟩
  · rcases hslot.exists_front_of_amid hamid with ⟨front, hfront, hfilled⟩
    exact ⟨hemptied, place, content, front, hbefore, hfront, hfilled⟩
  · rcases hslot.exists_front_of_attempt hattempt with ⟨front, hfront, hfilled⟩
    have hremade : Remade before base name (· <+: bytes)
        (said ++ [⟨.write (base ++ [name]) bytes, answer⟩]) after :=
      ⟨List.mem_append_left _ hemptied, place, content, front, hbefore, hfront, hfilled⟩
    exact ⟨hremade, hremade⟩

/-- What is written into an emptied file is there up to some octet. -/
theorem Remade.stays_fill (h : Remade before base name (· = []) said tree) (bytes : Bytes) :
    FileDialogue.Stays (Remade before base name (· <+: bytes))
      (fun _ => Remade before base name (· <+: bytes))
      (do
        FileTask.write (base ++ [name]) bytes
        FileTask.sync (base ++ [name]) : FileTask Unit).run said tree :=
  FileTask.stays_bind (h.stays_write bytes) (fun _ _ hfront => hfront)
    (fun _ _ _ hfront => hfront.stays_sync) fun _ _ _ hfront => hfront

/-- A file is removed at once, or stays as it was. -/
theorem stays_remove (hpoint : name ≠ ".") (hback : name ≠ "..") :
    FileDialogue.Stays
      (fun _ point => point = tree ∨
        ∃ place content, Slot tree base name place content ∧ Slot point base name place none)
      (fun result _ after => (∃ fault, result = .error fault) → after = tree)
      (FileTask.remove (base ++ [name])).run said tree := by
  refine ⟨fun point hamid => .inl (hamid.eq nofun), fun answer after hattempt => ?_⟩
  rcases changed_or_kept (hattempt.performed_or_failed nofun) with ⟨rfl, hremoved⟩ | ⟨-, hkept⟩
  · refine ⟨.inr (exists_slot_of_remove hpoint hback hremoved), ?_⟩
    rintro ⟨fault, hfault⟩
    cases hfault
  · exact ⟨.inl hkept, fun _ => hkept⟩

theorem Remade.stays_remove (h : Remade before base name Content said tree) :
    FileDialogue.Stays
      (fun said point => Remade before base name Content said point ∨
        ∃ place content, Slot before base name place content ∧ Slot point base name place none)
      (fun _ said _ => IsEmptied (base ++ [name]) said)
      (FileTask.remove (base ++ [name])).run said tree := by
  rcases h with ⟨hemptied, place, content, bytes, hbefore, hbytes, hslot⟩
  refine ⟨fun point hamid => ?_, fun answer after hattempt => ?_⟩
  · rw [hamid.eq nofun]
    exact .inl ⟨hemptied, place, content, bytes, hbefore, hbytes, hslot⟩
  · have hlater : IsEmptied (base ++ [name]) (said ++ [⟨.remove (base ++ [name]), answer⟩]) :=
      List.mem_append_left _ hemptied
    refine ⟨?_, hlater⟩
    rcases changed_or_kept (hattempt.performed_or_failed nofun) with ⟨-, hremoved⟩ | ⟨-, rfl⟩
    · rcases hslot.exists_remove with ⟨removed, hnext, hafter⟩
      cases hremoved.symm.trans hnext
      exact .inr ⟨place, content, hbefore, hafter⟩
    · exact .inl ⟨hlater, place, content, bytes, hbefore, hbytes, hslot⟩

end FileTree

end Possession
