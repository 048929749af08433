import Possession.Proofs.Files.Links
import Possession.Proofs.Store.Aliases
import Possession.Proofs.Text.Split

/-!
# No alias leads out of the directory

Any text may be an alias: an empty one, one that looks like a path, one with a character that ends
texts elsewhere. The file of a key lies directly in the directory all the same, since the name of the
file is made of the alias without what could lead anywhere.

* `KeyDirectory.isChildName_fileName` says what the name of a file is like, and
  `KeyDirectory.fromText_fileName` that it is understood as one name.
* `KeyDirectory.Course` is what calls of the store may make of a tree, with links or without, whatever
  the operations on files come to.
* `KeyDirectory.aliases_are_confined` says that nothing else is touched.
-/

namespace Possession
namespace KeyDirectory

open FileDialogue (IsOn MayLeave)
open LinkedTree (SameBut)

variable {base : Path} {label : String} {tree point : LinkedTree} {calls : List StoreCall}

/-! ## Names -/

/-- Characters that could lead elsewhere, on one system or another. -/
def leading : List Char := ['/', '\\', '.']

theorem safeChar_notMem (c : Char) : safeChar c ∉ leading := by
  by_cases hc : c ∈ blurred
  · rw [safeChar_of_mem hc]
    decide
  · rw [safeChar_of_notMem hc]
    intro hmem
    have hsubset : leading ⊆ blurred := by decide
    exact hc (hsubset hmem)

/-- A name of a file that stands for nothing but itself, wherever it is put: there is no separator in
it, and it has an ending. -/
structure IsChildName (name : String) : Prop where
  proper : FileTree.IsProper name
  noSlash : '/' ∉ name.toList
  noBackslash : '\\' ∉ name.toList
  ending : ∃ stem : String, name = stem ++ ".json" ∧ '.' ∉ stem.toList

theorem isChildName_fileName (label : String) : IsChildName (fileName label) := by
  have hstem {c : Char} (hc : c ∈ leading) : c ∉ label.toList.map safeChar := by
    intro hmem
    rcases List.mem_map.mp hmem with ⟨d, -, rfl⟩
    exact safeChar_notMem d hc
  have hname {c : Char} (hc : c ∈ leading) (hending : c ∉ ".json".toList) :
      c ∉ (fileName label).toList := by
    rw [fileName, String.toList_append, String.toList_ofList, List.mem_append]
    exact not_or.mpr ⟨hstem hc, hending⟩
  refine ⟨isProper_fileName label, hname (by decide) (by decide), hname (by decide) (by decide),
    _, rfl, ?_⟩
  rw [String.toList_ofList]
  exact hstem (by decide)

/-- A text without a slash is one name, meant from where one is. -/
theorem fromText_of_isChildName {name : String} (h : IsChildName name) (base : Path) :
    Path.fromText base name = base ++ [name] := by
  have hrelative : name.startsWith "/" = false := by
    rw [String.startsWith_string_eq_false_iff]
    intro hslash
    exact h.noSlash (hslash.subset (by decide))
  have hne : name.isEmpty = false := by
    rcases h.ending with ⟨stem, rfl, -⟩
    simp
  rw [Path.fromText, hrelative, Path.ofText, Text.splitOn_of_notMem h.noSlash]
  simp [hne]

/-! ## Calls of the store -/

/-- What calls of a store may make of a tree, one after the other: each may be stopped anywhere, and
each of its operations on files may answer anything. -/
inductive Course (base : Path) : LinkedTree → List StoreCall → LinkedTree → Prop where
  | done (tree : LinkedTree) : Course base tree [] tree
  | call {tree middle point : LinkedTree} {calls : List StoreCall} (call : StoreCall)
      (supply : Supply) :
    (serve base call supply).MayLeave tree middle → Course base middle calls point →
      Course base tree (call :: calls) point

theorem sameBut_of_course (hbase : tree.HoldsNoLinks base) (h : Course base tree calls point) :
    SameBut base (calls.map fun call => fileName call.label) tree point := by
  induction h with
  | done tree => exact .refl hbase _
  | call call supply hleave _ ih =>
    have hfirst := LinkedTree.sameBut_of_mayLeave (isOn_serve base call supply)
      (isProper_fileName call.label) hbase hleave
    exact hfirst.trans (ih hfirst.noLinks)

/-- A run of a store over the files of a tree is one such course. -/
theorem course_of_run {α : Type} (base : Path) (procedure : StoreDialogue α) (disk : Disk) :
    Course base disk.tree.linked
      ((procedure.exchanges (store base).answer disk).map (·.1))
      ((store base).run procedure disk).2.tree.linked := by
  induction procedure generalizing disk with
  | done value => exact .done _
  | ask call next ih =>
    rcases Dialogue.exists_run FileTree.isSome_answer (serve base call disk.supply) disk.tree with
      ⟨⟨answer, supply⟩, tree, hrun⟩
    rcases FileDialogue.exists_reaches_of_run hrun with ⟨said, hreach⟩
    rw [KeyStore.run, Dialogue.run, Dialogue.exchanges, answer_of_serve call hrun]
    exact .call call disk.supply (FileTree.mayLeave_of_reaches hreach) (ih answer ⟨tree, supply⟩)

/-- The files of aliases are the only ones that a store in a directory reads, writes, asks about or
removes, and they lie directly in the directory, under names that lead nowhere else. What has been
done to a tree whose directory holds no links has been done to those files: every other file, in the
directory or outside it, is as it was, and so are all links. -/
theorem aliases_are_confined (base : Path) :
    (∀ label, IsChildName (fileName label) ∧
      Path.fromText base (fileName label) = base ++ [fileName label]) ∧
    (∀ call supply, IsOn (base ++ [fileName call.label]) (serve base call supply)) ∧
    (∀ tree calls point, Course base tree calls point → tree.HoldsNoLinks base →
      ∀ other, (∀ place, tree.Leads [] base place →
        ∀ call ∈ calls, other ≠ place ++ [fileName call.label]) →
          point.find? other = tree.find? other) ∧
    ∀ {α : Type} (procedure : StoreDialogue α) (disk : Disk),
      Course base disk.tree.linked ((procedure.exchanges (store base).answer disk).map (·.1))
        ((store base).run procedure disk).2.tree.linked := by
  refine ⟨fun label => ?_, isOn_serve base, fun tree calls point hcourse hbase other hother => ?_,
    course_of_run base⟩
  · have hname := isChildName_fileName label
    exact ⟨hname, fromText_of_isChildName hname base⟩
  · refine (sameBut_of_course hbase hcourse).elsewhere other fun place hplace name hname => ?_
    rcases List.mem_map.mp hname with ⟨call, hcall, rfl⟩
    exact hother place hplace call hcall

/-- A directory that is reached through a link, with a file in it, and a file outside it. -/
def sampleLinked : LinkedTree where
  find?
    | [] | ["disk"] | ["disk", "keys"] | ["etc"] => some (.node ⟨.directory, directoryMode⟩)
    | ["home"] => some (.link true ["disk"])
    | ["disk", "keys", "______etc_passwd.json"] | ["etc", "passwd"] =>
      some (.node ⟨.file [], fileMode⟩)
    | _ => none

/-- The sample without the file in the directory. -/
def sampleRemoved : LinkedTree where
  find? place :=
    if place = ["disk", "keys", "______etc_passwd.json"] then none else sampleLinked.find? place

theorem leads_sampleLinked : sampleLinked.Leads [] ["home", "keys"] ["disk", "keys"] := by
  have hhome : sampleLinked.advance [] "home" = some ([], ["disk"]) := rfl
  have hdisk : sampleLinked.advance [] "disk" = some (["disk"], []) := rfl
  have hkeys : sampleLinked.advance ["disk"] "keys" = some (["disk", "keys"], []) := rfl
  exact .step hhome (.step hdisk (.step hkeys (.here _)))

theorem holdsNoLinks_sampleLinked : sampleLinked.HoldsNoLinks ["home", "keys"] := by
  rintro place hplace name ⟨fromRoot, names, hlink⟩
  rw [leads_sampleLinked.eq hplace] at hlink
  simp only [sampleLinked, List.cons_append, List.nil_append] at hlink
  split at hlink
  all_goals simp_all

/-- A delete under an alias that looks like the path of the file outside, which cannot tell the size
of the file that it removes. -/
theorem sample_aliases_are_confined :
    let base : Path := ["home", "keys"]
    let call : StoreCall := .delete "../../etc/passwd"
    Course base sampleLinked [call] sampleRemoved ∧ sampleLinked.HoldsNoLinks base ∧
      sampleRemoved.find? ["disk", "keys", fileName call.label] = none ∧
      sampleRemoved.find? ["etc", "passwd"] = sampleLinked.find? ["etc", "passwd"] := by
  intro base call
  let path : Path := filePath base call.label
  have hname : fileName call.label = "______etc_passwd.json" := by decide
  have hchanges : LinkedTree.ChangesOnly (["disk", "keys"] ++ [fileName call.label]) sampleLinked
      sampleRemoved := by
    rw [hname]
    refine ⟨fun other hne => if_neg hne, ?_, ?_⟩
    · rintro ⟨mode, hdirectory⟩
      cases hdirectory
    · rintro ⟨fromRoot, names, hlink⟩
      cases hlink
  have hremoves : sampleLinked.Touches path sampleRemoved :=
    .inr ⟨_, .inr ⟨base, _, _, rfl, leads_sampleLinked, rfl⟩, hchanges⟩
  have hserve : (serve base call ⟨.ofSeed [], ⟨0, 0⟩⟩).MayLeave sampleLinked sampleRemoved := by
    refine @MayLeave.step _ (.isPresent path) _ _ _ _ true (.inl rfl) ?_
    refine @MayLeave.step _ (.size path) _ _ _ _ (Except.error .notFound) (.inl rfl) ?_
    exact @MayLeave.step _ (.remove path) _ _ _ _ (Except.ok ()) hremoves (.here _ _)
  have hcourse : Course base sampleLinked [call] sampleRemoved := .call call _ hserve (.done _)
  refine ⟨hcourse, holdsNoLinks_sampleLinked, by rw [hname]; rfl, ?_⟩
  refine (aliases_are_confined base).2.2.1 _ _ _ hcourse holdsNoLinks_sampleLinked _ ?_
  intro place hplace _ _ heq
  rw [leads_sampleLinked.eq hplace] at heq
  exact absurd (List.cons.inj heq).1 (by decide)

end KeyDirectory
end Possession
