import Possession.Files.Tree
import Possession.Proofs.Association

/-!
# Places of a tree

What there is at the places of a tree of files, which may hold links beside files and directories,
and what becomes of it when it is changed at one place.

* `LinkedTree` is a tree with links, and `FileTree.linked` a tree without links as one of them.
* `LinkedTree.ChangesOnly` is a change at one place, in either kind of tree.
* `FileTree.changesOnly_insert` and `FileTree.changesOnly_erase` are the changes of a tree without
  links.
-/

namespace Possession

/-- What a place holds: a file or a directory, or a link, which stands for other names. These begin
at the root, or in the directory that holds the link. -/
inductive LinkedNode where
  | node (node : FileNode)
  | link (fromRoot : Bool) (names : List String)
  deriving DecidableEq, Repr

/-- A tree of files whose places may hold links. Each file is at one place only. -/
structure LinkedTree where
  find? : Path → Option LinkedNode

/-- A tree without links. -/
def FileTree.linked (tree : FileTree) : LinkedTree :=
  ⟨fun place => (tree.find? place).map .node⟩

/-! ## Changes at one place -/

namespace LinkedTree

variable {tree changed : LinkedTree} {place target : Path}

def IsDirectoryAt (tree : LinkedTree) (place : Path) : Prop :=
  ∃ mode, tree.find? place = some (.node ⟨.directory, mode⟩)

def IsLinkAt (tree : LinkedTree) (place : Path) : Prop :=
  ∃ fromRoot names, tree.find? place = some (.link fromRoot names)

/-- A change to what there is at one place, which leaves a directory a directory and makes no
link. -/
structure ChangesOnly (place : Path) (tree changed : LinkedTree) : Prop where
  elsewhere : ∀ other, other ≠ place → changed.find? other = tree.find? other
  directory : tree.IsDirectoryAt place → changed.IsDirectoryAt place
  link : changed.IsLinkAt place → changed.find? place = tree.find? place

theorem ChangesOnly.isDirectoryAt (h : ChangesOnly target tree changed)
    (hplace : tree.IsDirectoryAt place) : changed.IsDirectoryAt place := by
  by_cases hsame : place = target
  · subst hsame
    exact h.directory hplace
  · rcases hplace with ⟨mode, hfound⟩
    exact ⟨mode, (h.elsewhere place hsame).trans hfound⟩

theorem ChangesOnly.isLinkAt (h : ChangesOnly target tree changed)
    (hplace : changed.IsLinkAt place) : tree.IsLinkAt place := by
  have hkept : changed.find? place = tree.find? place := by
    by_cases hsame : place = target
    · subst hsame
      exact h.link hplace
    · exact h.elsewhere place hsame
  rcases hplace with ⟨fromRoot, names, hfound⟩
  exact ⟨fromRoot, names, hkept.symm.trans hfound⟩

end LinkedTree

/-! ## Trees without links -/

namespace FileTree

variable {tree changed : FileTree} {place other : Path}

theorem find?_insert (tree : FileTree) (place : Path) (node : FileNode) :
    (tree.insert place node).find? place = some node := by
  simp [find?, insert]

theorem find?_insert_of_ne (h : other ≠ place) (node : FileNode) :
    (tree.insert place node).find? other = tree.find? other := by
  have hne : (other == place) = false := by simpa using h
  simp only [find?, insert, erase, List.lookup_cons, hne, lookup_removed_of_ne tree.nodes h]

theorem find?_erase (h : place ≠ []) : (tree.erase place).find? place = none := by
  simp [find?, erase, lookup_removed, h]

theorem find?_erase_of_ne (h : other ≠ place) :
    (tree.erase place).find? other = tree.find? other := by
  simp only [find?, erase, lookup_removed_of_ne tree.nodes h]

/-- Whether a place is that of a directory. -/
def IsDirectoryAt (tree : FileTree) (place : Path) : Prop :=
  ∃ mode, tree.find? place = some ⟨.directory, mode⟩

theorem find?_linked (tree : FileTree) (place : Path) :
    tree.linked.find? place = (tree.find? place).map .node := rfl

theorem isDirectoryAt_linked : tree.linked.IsDirectoryAt place ↔ tree.IsDirectoryAt place := by
  simp [LinkedTree.IsDirectoryAt, IsDirectoryAt, linked]

theorem not_isLinkAt_linked : ¬ tree.linked.IsLinkAt place := by
  simp [LinkedTree.IsLinkAt, linked]

/-- In a tree without links a change is one of files and directories alone. -/
theorem changesOnly_linked
    (helsewhere : ∀ other, other ≠ place → changed.find? other = tree.find? other)
    (hdirectory : tree.IsDirectoryAt place → changed.IsDirectoryAt place) :
    LinkedTree.ChangesOnly place tree.linked changed.linked where
  elsewhere other hne := by rw [find?_linked, find?_linked, helsewhere other hne]
  directory h := isDirectoryAt_linked.mpr (hdirectory (isDirectoryAt_linked.mp h))
  link hlink := absurd hlink not_isLinkAt_linked

theorem changesOnly_insert {node : FileNode}
    (h : tree.IsDirectoryAt place → node.contents = .directory) :
    LinkedTree.ChangesOnly place tree.linked (tree.insert place node).linked := by
  refine changesOnly_linked (fun _ hne => find?_insert_of_ne hne node) fun hdirectory => ?_
  refine ⟨node.mode, ?_⟩
  rw [find?_insert, ← h hdirectory]

theorem changesOnly_erase (h : ¬ tree.IsDirectoryAt place) :
    LinkedTree.ChangesOnly place tree.linked (tree.erase place).linked :=
  changesOnly_linked (fun _ hne => find?_erase_of_ne hne) fun hdirectory => absurd hdirectory h

theorem find?_of_changesOnly (h : LinkedTree.ChangesOnly place tree.linked changed.linked)
    (hne : other ≠ place) : changed.find? other = tree.find? other :=
  Option.map_injective (fun _ _ => LinkedNode.node.inj) (h.elsewhere other hne)

theorem isDirectoryAt_of_changesOnly (h : LinkedTree.ChangesOnly place tree.linked changed.linked)
    (hother : tree.IsDirectoryAt other) : changed.IsDirectoryAt other :=
  isDirectoryAt_linked.mp (h.isDirectoryAt (isDirectoryAt_linked.mpr hother))

end FileTree
end Possession
