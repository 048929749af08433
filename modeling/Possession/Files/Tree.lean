import Possession.Bytes
import Possession.Files.Fault

/-!
# File trees

Directories and files by their places below one root. A path is a list of names that is walked from
the root: each name but the last must be that of a directory, a point stays where it is, and two
points go back. The place that a path leads to need not be taken.
-/

namespace Possession

/-- Names to walk along, or the place that they lead to. -/
abbrev Path : Type := List String

/-- The names of a text, which slashes separate. Empty names stay where they are. -/
def Path.ofText (text : String) : Path :=
  (text.splitOn "/").filter fun name => !name.isEmpty

/-- The path of a text that is meant from a place on unless it begins with a slash. -/
def Path.fromText (base : Path) (text : String) : Path :=
  if text.startsWith "/" then ofText text else base ++ ofText text

/-- What a place holds. -/
inductive FileContents where
  | file (bytes : Bytes)
  | directory
  deriving DecidableEq, Repr

/-- A file or a directory with its access mode. -/
structure FileNode where
  contents : FileContents
  mode : Nat
  deriving DecidableEq, Repr

/-- A tree of files: what its places below the root hold. The root is a directory. -/
structure FileTree where
  nodes : List (Path × FileNode)
  deriving DecidableEq, Repr

namespace FileTree

def newDirectoryMode : Nat := 0o755

def newFileMode : Nat := 0o644

def directorySize : Nat := 4096

def empty : FileTree := ⟨[]⟩

def find? (tree : FileTree) (place : Path) : Option FileNode :=
  (tree.nodes.lookup place).or
    (if place.isEmpty then some ⟨.directory, newDirectoryMode⟩ else none)

def erase (tree : FileTree) (place : Path) : FileTree :=
  ⟨tree.nodes.filter fun item => item.1 != place⟩

def insert (tree : FileTree) (place : Path) (node : FileNode) : FileTree :=
  ⟨(place, node) :: (tree.erase place).nodes⟩

/-- The tree without a place and all below it. -/
def prune (tree : FileTree) (place : Path) : FileTree :=
  ⟨tree.nodes.filter fun item => !place.isPrefixOf item.1⟩

/-- What lies directly in a directory, by name. -/
def children (tree : FileTree) (place : Path) : List (String × FileNode) :=
  tree.nodes.filterMap fun item =>
    match item.1.getLast? with
    | some name => if item.1.dropLast = place then some (name, item.2) else none
    | none => none

/-! ## Walking -/

/-- The longest name, in octets. -/
def maxNameSize : Nat := 255

/-- The longest path, in octets with a slash before each name. -/
def maxPathSize : Nat := 4095

def hasNull (name : String) : Bool :=
  name.toList.contains '\x00'

/-- The fault of a path that no tree could lead along. -/
def pathFault? (path : Path) : Option FileFault :=
  if path.any hasNull then some .nullInName
  else if maxPathSize < path.foldl (fun size name => size + name.utf8ByteSize + 1) 0 then
    some .nameTooLong
  else none

/-- The place that names lead to from a place on. -/
def walk (tree : FileTree) : (place : Path) → (names : List String) → Except FileFault Path
  | place, [] => .ok place
  | place, name :: names =>
    match tree.find? place with
    | none => .error .notFound
    | some ⟨.file _, _⟩ => .error .notDirectory
    | some ⟨.directory, _⟩ =>
      if name = "." then tree.walk place names
      else if name = ".." then tree.walk place.dropLast names
      else if maxNameSize < name.utf8ByteSize then .error .nameTooLong
      else tree.walk (place ++ [name]) names

def resolve (tree : FileTree) (path : Path) : Except FileFault Path :=
  match pathFault? path with
  | some fault => .error fault
  | none => tree.walk [] path

def node (tree : FileTree) (path : Path) : Except FileFault (Path × FileNode) := do
  let place ← tree.resolve path
  match tree.find? place with
  | some node => return (place, node)
  | none => throw .notFound

/-! ## Operations -/

/-- Whether there is anything at the end of a path. -/
def isPresent (tree : FileTree) (path : Path) : Bool :=
  match tree.node path with
  | .ok _ => true
  | .error _ => false

/-- Whether there is a directory at the end of a path. -/
def isDirectory (tree : FileTree) (path : Path) : Bool :=
  match tree.node path with
  | .ok (_, node) => node.contents == .directory
  | .error _ => false

def read (tree : FileTree) (path : Path) : Except FileFault Bytes := do
  match ← tree.node path with
  | (_, ⟨.file bytes, _⟩) => return bytes
  | (_, ⟨.directory, _⟩) => throw .isDirectory

/-- The size of a file in octets; a directory has the size of its node. -/
def size (tree : FileTree) (path : Path) : Except FileFault Nat := do
  match ← tree.node path with
  | (_, ⟨.file bytes, _⟩) => return bytes.length
  | (_, ⟨.directory, _⟩) => return directorySize

def makeDirectory (tree : FileTree) (path : Path) : Except FileFault FileTree := do
  let place ← tree.resolve path
  match tree.find? place with
  | some _ => throw .alreadyExists
  | none => return tree.insert place ⟨.directory, newDirectoryMode⟩

/-- Empties a file, which is made if there is nothing. -/
def create (tree : FileTree) (path : Path) : Except FileFault FileTree := do
  let place ← tree.resolve path
  match tree.find? place with
  | some ⟨.directory, _⟩ => throw .isDirectory
  | some ⟨.file _, mode⟩ => return tree.insert place ⟨.file [], mode⟩
  | none => return tree.insert place ⟨.file [], newFileMode⟩

def write (tree : FileTree) (path : Path) (bytes : Bytes) : Except FileFault FileTree := do
  match ← tree.node path with
  | (place, ⟨.file _, mode⟩) => return tree.insert place ⟨.file bytes, mode⟩
  | (_, ⟨.directory, _⟩) => throw .isDirectory

def setMode (tree : FileTree) (path : Path) (mode : Nat) : Except FileFault FileTree := do
  let (place, node) ← tree.node path
  return tree.insert place { node with mode }

def remove (tree : FileTree) (path : Path) : Except FileFault FileTree := do
  match ← tree.node path with
  | (place, ⟨.file _, _⟩) => return tree.erase place
  | (_, ⟨.directory, _⟩) => throw .isDirectory

end FileTree

end Possession
