import Possession.Proofs.Files.Beside

/-!
# Trees with symbolic links

A path may lead through links to places that none of its names tell of, and a link at its end leads
out of the directory that the path seems to lead into. What a procedure can change in such a tree is
therefore more than what it can change in a tree without links.

* `LinkedTree.Leads` says where a path leads. Links are followed however long that takes.
* `LinkedTree.Touches` is what an operation on a path may do, whatever it answers and whether it
  succeeds or not, and `FileDialogue.MayLeave` what a procedure may.
* `LinkedTree.SameBut` says that all that is different is in a directory, under some names.
* `LinkedTree.sameBut_of_mayLeave` says it of a procedure on one file of a directory that holds no
  links.
-/

namespace Possession

namespace LinkedTree

variable {tree changed middle point : LinkedTree} {base path place target : Path}
  {name : String} {names more front back : List String}

/-! ## Walking -/

/-- Where a name in a directory leads, and the names of a link that are to be walked from there. -/
def enter (tree : LinkedTree) (place : Path) (name : String) : Path × List String :=
  match tree.find? (place ++ [name]) with
  | some (.link fromRoot names) => (if fromRoot then [] else place, names)
  | _ => (place ++ [name], [])

/-- Where one name leads from a place, and the names that are to be walked before those behind
it. -/
def advance (tree : LinkedTree) (place : Path) (name : String) : Option (Path × List String) :=
  match tree.find? place with
  | some (.node ⟨.directory, _⟩) =>
    if name = "." then some (place, [])
    else if name = ".." then some (place.dropLast, [])
    else some (tree.enter place name)
  | _ => none

theorem enter_of_not_isLinkAt (h : ¬ tree.IsLinkAt (place ++ [name])) :
    tree.enter place name = (place ++ [name], []) := by
  rw [enter]
  split
  · next fromRoot names hfound => exact absurd ⟨fromRoot, names, hfound⟩ h
  · rfl

/-- Where names lead from a place. They lead nowhere if there is no end to the links. -/
inductive Leads (tree : LinkedTree) : Path → List String → Path → Prop where
  | here (place : Path) : Leads tree place [] place
  | step {place next target : Path} {name : String} {ahead names : List String} :
    tree.advance place name = some (next, ahead) → Leads tree next (ahead ++ names) target →
      Leads tree place (name :: names) target

theorem Leads.eq {other : Path} (h : tree.Leads place names target)
    (hother : tree.Leads place names other) : other = target := by
  induction h with
  | here place =>
    cases hother
    rfl
  | step hadvance _ ih =>
    cases hother with
    | step hsame hrest =>
      cases hadvance.symm.trans hsame
      exact ih hrest

theorem Leads.exists_of_append (h : tree.Leads place (front ++ back) target) :
    ∃ middle, tree.Leads place front middle ∧ tree.Leads middle back target := by
  generalize hnames : front ++ back = names at h
  -- the names of a link go before what is left of the front
  induction h generalizing front with
  | here place =>
    rcases List.append_eq_nil_iff.mp hnames with ⟨rfl, rfl⟩
    exact ⟨place, .here place, .here place⟩
  | @step place next target name ahead names hadvance hrest ih =>
    cases front with
    | nil =>
      cases hnames
      exact ⟨place, .here place, .step hadvance hrest⟩
    | cons first front =>
      cases hnames
      rcases ih (List.append_assoc ahead front back) with ⟨middle, hfront, hback⟩
      exact ⟨middle, .step hadvance hfront, hback⟩

/-- From a directory, a name under which there is no link leads further down. -/
theorem Leads.eq_of_singleton (hname : FileTree.IsProper name)
    (hlink : ¬ tree.IsLinkAt (place ++ [name])) (h : tree.Leads place [name] target) :
    target = place ++ [name] := by
  cases h with
  | step hadvance hrest =>
    rw [advance] at hadvance
    split at hadvance
    · rw [if_neg hname.1, if_neg hname.2, enter_of_not_isLinkAt hlink] at hadvance
      cases hadvance
      cases hrest
      rfl
    · cases hadvance

/-! ## Single operations -/

/-- The place that an operation on a path is on: the one that the path leads to, or that of a link
at its end. -/
def Means (tree : LinkedTree) (path place : Path) : Prop :=
  tree.Leads [] path place ∨ ∃ front name middle, path = front ++ [name] ∧
    tree.Leads [] front middle ∧ place = middle ++ [name]

/-- What an operation on a path may do to a tree. -/
def Touches (tree : LinkedTree) (path : Path) (changed : LinkedTree) : Prop :=
  changed = tree ∨ ∃ place, tree.Means path place ∧ ChangesOnly place tree changed

theorem ChangesOnly.enter_eq (honly : ChangesOnly target tree changed)
    (htarget : ¬ tree.IsLinkAt target) (place : Path) (name : String) :
    changed.enter place name = tree.enter place name := by
  by_cases hsame : place ++ [name] = target
  · subst hsame
    rw [enter_of_not_isLinkAt htarget, enter_of_not_isLinkAt fun hlink =>
      htarget (honly.isLinkAt hlink)]
  · rw [enter, enter, honly.elsewhere _ hsame]

theorem ChangesOnly.advance_eq (honly : ChangesOnly target tree changed)
    (htarget : ¬ tree.IsLinkAt target) {result : Path × List String}
    (h : tree.advance place name = some result) : changed.advance place name = some result := by
  rw [advance] at h
  split at h
  · next mode hfound =>
    rcases honly.isDirectoryAt ⟨mode, hfound⟩ with ⟨mode, hchanged⟩
    rw [advance, hchanged, honly.enter_eq htarget]
    exact h
  · cases h

/-- A change to anything but a link leaves every way open that there was. -/
theorem ChangesOnly.leads (honly : ChangesOnly target tree changed)
    (htarget : ¬ tree.IsLinkAt target) {last : Path} (h : tree.Leads place names last) :
    changed.Leads place names last := by
  induction h with
  | here place => exact .here place
  | step hadvance _ ih => exact .step (honly.advance_eq htarget hadvance) ih

/-! ## One directory -/

/-- Whether no link lies in the directory that a path leads to. -/
def HoldsNoLinks (tree : LinkedTree) (base : Path) : Prop :=
  ∀ place, tree.Leads [] base place → ∀ name, ¬ tree.IsLinkAt (place ++ [name])

/-- Two trees that differ at most in what lies under some names in the directory that a path leads
to. -/
structure SameBut (base : Path) (names : List String) (tree point : LinkedTree) : Prop where
  leads : ∀ place, point.Leads [] base place ↔ tree.Leads [] base place
  noLinks : point.HoldsNoLinks base
  elsewhere : ∀ other,
    (∀ place, tree.Leads [] base place → ∀ name ∈ names, other ≠ place ++ [name]) →
      point.find? other = tree.find? other

theorem SameBut.refl (hbase : tree.HoldsNoLinks base) (names : List String) :
    SameBut base names tree tree :=
  ⟨fun _ => Iff.rfl, hbase, fun _ _ => rfl⟩

theorem SameBut.trans (hfirst : SameBut base names tree middle)
    (hlast : SameBut base more middle point) : SameBut base (names ++ more) tree point where
  leads place := (hlast.leads place).trans (hfirst.leads place)
  noLinks := hlast.noLinks
  elsewhere other hother := by
    have hkept : middle.find? other = tree.find? other :=
      hfirst.elsewhere other fun place hplace name hname =>
        hother place hplace name (List.mem_append_left more hname)
    refine (hlast.elsewhere other fun place hplace name hname => ?_).trans hkept
    exact hother place ((hfirst.leads place).mp hplace) name (List.mem_append_right names hname)

theorem SameBut.mono (h : SameBut base names tree point) (hsubset : names ⊆ more) :
    SameBut base more tree point where
  leads := h.leads
  noLinks := h.noLinks
  elsewhere other hother := h.elsewhere other fun place hplace name hname =>
    hother place hplace name (hsubset hname)

/-- In a directory without links, a path to one of its files means that file. -/
theorem Means.exists_eq (hname : FileTree.IsProper name) (hbase : tree.HoldsNoLinks base)
    (h : tree.Means (base ++ [name]) target) :
    ∃ place, tree.Leads [] base place ∧ target = place ++ [name] := by
  rcases h with hleads | ⟨front, last, middle, hpath, hfront, rfl⟩
  · rcases hleads.exists_of_append with ⟨place, hplace, hlast⟩
    exact ⟨place, hplace, hlast.eq_of_singleton hname (hbase place hplace name)⟩
  · obtain ⟨rfl, hlast⟩ := List.append_inj' hpath rfl
    cases hlast
    exact ⟨middle, hfront, rfl⟩

/-- An operation on one file of a directory without links changes at most that file. -/
theorem sameBut_of_touches (hname : FileTree.IsProper name) (hbase : tree.HoldsNoLinks base)
    (h : tree.Touches (base ++ [name]) changed) : SameBut base [name] tree changed := by
  rcases h with rfl | ⟨target, hmeans, honly⟩
  · exact .refl hbase _
  rcases hmeans.exists_eq hname hbase with ⟨place, hplace, rfl⟩
  have hforward : changed.Leads [] base place := honly.leads (hbase place hplace name) hplace
  have heq {other : Path} (hother : changed.Leads [] base other) : other = place :=
    hforward.eq hother
  refine ⟨fun other => ⟨fun hother => ?_, fun hother => ?_⟩, fun other hother name hlink => ?_,
    fun other hother => ?_⟩
  · exact heq hother ▸ hplace
  · exact hplace.eq hother ▸ hforward
  · cases heq hother
    exact hbase place hplace name (honly.isLinkAt hlink)
  · exact honly.elsewhere other (hother place hplace name List.mem_cons_self)

end LinkedTree

/-! ## Whole procedures -/

namespace FileDialogue

variable {α : Type} {dialogue : FileDialogue α} {tree changed point : LinkedTree}

/-- What a procedure may leave behind in a tree, wherever it is stopped: each operation does what an
operation on its path may do, and answers anything. -/
inductive MayLeave : FileDialogue α → LinkedTree → LinkedTree → Prop where
  | here (dialogue : FileDialogue α) (tree : LinkedTree) : MayLeave dialogue tree tree
  | step {call : FileCall} {next : call.Answer → FileDialogue α} {tree changed point : LinkedTree}
      (answer : call.Answer) :
    tree.Touches call.path changed → MayLeave (next answer) changed point →
      MayLeave (.ask call next) tree point

end FileDialogue

open FileDialogue (IsOn MayLeave Reaches)

variable {α : Type} {dialogue rest : FileDialogue α} {base path place : Path} {name : String}

/-- A procedure on one file of a directory without links changes at most that file. -/
theorem LinkedTree.sameBut_of_mayLeave {tree point : LinkedTree}
    (hon : IsOn (base ++ [name]) dialogue) (hname : FileTree.IsProper name)
    (hbase : tree.HoldsNoLinks base) (h : dialogue.MayLeave tree point) :
    SameBut base [name] tree point := by
  induction h with
  | here dialogue tree => exact .refl hbase _
  | step answer htouches _ ih =>
    rw [hon.1] at htouches
    have hfirst := sameBut_of_touches hname hbase htouches
    exact (hfirst.trans (ih (hon.2 answer) hfirst.noLinks)).mono (by simp)

/-! ## Trees without links -/

namespace FileTree

variable {tree next point : FileTree} {said : List FileExchange}

theorem advance_linked (hdirectory : tree.IsDirectoryAt place) (name : String) :
    tree.linked.advance place name = some (if name = "." then (place, [])
      else if name = ".." then (place.dropLast, []) else (place ++ [name], [])) := by
  rcases hdirectory with ⟨mode, hfound⟩
  have hlinked : tree.linked.find? place = some (.node ⟨.directory, mode⟩) := by
    rw [find?_linked, hfound]
    rfl
  rw [LinkedTree.advance, hlinked]
  dsimp only
  rw [LinkedTree.enter_of_not_isLinkAt not_isLinkAt_linked]
  split
  · rfl
  · split <;> rfl

theorem leads_of_walk {names : List String} {target : Path}
    (h : tree.walk place names = .ok target) : tree.linked.Leads place names target := by
  induction names generalizing place with
  | nil =>
    cases h
    exact .here target
  | cons name names ih =>
    rw [walk] at h
    split at h
    · cases h
    · cases h
    · next mode hfound =>
      have hadvance := advance_linked ⟨mode, hfound⟩ name
      split at h
      · next hpoint =>
        rw [if_pos hpoint] at hadvance
        exact .step hadvance (ih h)
      · next hpoint =>
        rw [if_neg hpoint] at hadvance
        split at h
        · next hback =>
          rw [if_pos hback] at hadvance
          exact .step hadvance (ih h)
        · next hback =>
          rw [if_neg hback] at hadvance
          split at h
          · cases h
          · exact .step hadvance (ih h)

theorem touches_linked (h : tree.Touches path next) : tree.linked.Touches path next.linked := by
  rcases h with rfl | ⟨place, hresolve, honly⟩
  · exact .inl rfl
  refine .inr ⟨place, .inl ?_, honly⟩
  rw [resolve] at hresolve
  split at hresolve
  · cases hresolve
  · exact leads_of_walk hresolve

/-- What a procedure comes to in a tree without links is something that it may leave behind. -/
theorem mayLeave_of_reaches (h : Reaches dialogue tree said rest point) :
    dialogue.MayLeave tree.linked point.linked := by
  induction h with
  | done value tree => exact .here _ _
  | amid hamid =>
    exact .step (FileCall.refusal .notFound _) (touches_linked hamid.touches) (.here _ _)
  | step hattempt _ ih => exact .step _ (touches_linked hattempt.touches) ih

end FileTree
end Possession
