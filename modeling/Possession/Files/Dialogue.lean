import Possession.Dialogue
import Possession.Files.Tree

/-!
# Procedures over files

A procedure over files asks for one operation after the other, so it can be stopped between two of
them. `FileTree.answer` performs the operations on a tree.
-/

namespace Possession

/-- An operation on files. -/
inductive FileCall where
  | isPresent (path : Path)
  | isDirectory (path : Path)
  | makeDirectory (path : Path)
  | setMode (path : Path) (mode : Nat)
  | read (path : Path)
  | size (path : Path)
  /-- To empty a file, or make an empty one. -/
  | create (path : Path)
  /-- To fill an emptied file. -/
  | write (path : Path) (bytes : Bytes)
  /-- To wait until what was written will last. -/
  | sync (path : Path)
  | remove (path : Path)
  deriving DecidableEq, Repr

def FileCall.Answer : FileCall → Type
  | .isPresent _ | .isDirectory _ => Bool
  | .read _ => Except FileFault Bytes
  | .size _ => Except FileFault Nat
  | .makeDirectory _ | .setMode _ _ | .create _ | .write _ _ | .sync _ | .remove _ =>
    Except FileFault Unit

/-- A procedure over files. -/
abbrev FileDialogue (α : Type) : Type :=
  Dialogue FileCall FileCall.Answer α

namespace FileDialogue

def isPresent (path : Path) : FileDialogue Bool :=
  Dialogue.question (FileCall.isPresent path)

def isDirectory (path : Path) : FileDialogue Bool :=
  Dialogue.question (FileCall.isDirectory path)

end FileDialogue

/-- A procedure over files that stops at the first fault. -/
abbrev FileTask (α : Type) : Type :=
  ExceptT FileFault (Dialogue FileCall FileCall.Answer) α

namespace FileTask

def read (path : Path) : FileTask Bytes :=
  ExceptT.mk (Dialogue.question (FileCall.read path))

def size (path : Path) : FileTask Nat :=
  ExceptT.mk (Dialogue.question (FileCall.size path))

def makeDirectory (path : Path) : FileTask Unit :=
  ExceptT.mk (Dialogue.question (FileCall.makeDirectory path))

def setMode (path : Path) (mode : Nat) : FileTask Unit :=
  ExceptT.mk (Dialogue.question (FileCall.setMode path mode))

def create (path : Path) : FileTask Unit :=
  ExceptT.mk (Dialogue.question (FileCall.create path))

def write (path : Path) (bytes : Bytes) : FileTask Unit :=
  ExceptT.mk (Dialogue.question (FileCall.write path bytes))

def sync (path : Path) : FileTask Unit :=
  ExceptT.mk (Dialogue.question (FileCall.sync path))

def remove (path : Path) : FileTask Unit :=
  ExceptT.mk (Dialogue.question (FileCall.remove path))

/-- Does what it can of a procedure. Whatever stops it is passed over. -/
def tried (task : FileTask Unit) : FileTask Unit :=
  ExceptT.mk do
    let _ ← task.run
    return .ok ()

/-- Makes a directory and those above it, given the names of its path from the last to the first.
Directories that are already there are left as they are. -/
def makeDirectories : (reversed : List String) → FileTask Unit
  | [] => pure ()
  | name :: parents =>
    let path := (name :: parents).reverse
    let make (ifMissing : FileTask Unit) : FileTask Unit :=
      ExceptT.mk do
        match ← (makeDirectory path).run with
        | .ok () => return .ok ()
        | .error .notFound => ifMissing.run
        | .error fault =>
          if ← FileDialogue.isDirectory path then return .ok ()
          else return .error fault
    make do
      makeDirectories parents
      make (throw .notFound)

end FileTask

namespace FileTree

/-- The answer to an operation that changes the tree unless it fails. -/
def change (tree : FileTree) (result : Except FileFault FileTree) :
    Option (Except FileFault Unit) × FileTree :=
  match result with
  | .ok changed => (some (.ok ()), changed)
  | .error fault => (some (.error fault), tree)

def answer : Partner FileCall FileCall.Answer FileTree
  | .isPresent path, tree => (some (tree.isPresent path), tree)
  | .isDirectory path, tree => (some (tree.isDirectory path), tree)
  | .makeDirectory path, tree => tree.change (tree.makeDirectory path)
  | .setMode path mode, tree => tree.change (tree.setMode path mode)
  | .read path, tree => (some (tree.read path), tree)
  | .size path, tree => (some (tree.size path), tree)
  | .create path, tree => tree.change (tree.create path)
  | .write path bytes, tree => tree.change (tree.write path bytes)
  | .sync path, tree => tree.change ((tree.node path).map fun _ => tree)
  | .remove path, tree => tree.change (tree.remove path)

end FileTree

end Possession
