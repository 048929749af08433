import Possession.Files.Dialogue
import Possession.Store.Record
import Possession.Store.Software

/-!
# Keys in a directory

The store that keeps each key in a file of its own. Nobody but the owner may look into the directory
or a file. The name of a file is made from the alias so that it never leads out of the directory.

A file is filled in steps: it is made, closed to others, written, and made to last. It is removed in
steps too: its contents are overwritten with zeros first.
-/

namespace Possession

/-- What a store in a directory works on: files, and what new keys are made of. -/
structure Disk where
  tree : FileTree
  supply : Supply

namespace KeyDirectory

/-- The access mode of the directory. -/
def directoryMode : Nat := 0o700

/-- The access mode of a key's file. -/
def fileMode : Nat := 0o600

/-- A character of an alias as it stands in the name of a file. -/
def safeChar (c : Char) : Char :=
  if c == '/' || c == '\\' || c == '.' then '_' else c

def fileName (label : String) : String :=
  String.ofList (label.toList.map safeChar) ++ ".json"

def filePath (base : Path) (label : String) : Path :=
  base ++ [fileName label]

/-! ## Procedures -/

/-- Makes the directory, if need be, and closes it to others. -/
def prepare (base : Path) : FileTask Unit := do
  FileTask.makeDirectories base.reverse
  FileTask.setMode base directoryMode

def readKey (base : Path) (label : String) : FileDialogue (Except StoreError StoredKey) := do
  match ← (FileTask.read (filePath base label)).run with
  | .ok bytes => return StoredKey.ofJson bytes
  | .error .notFound => return .error (.notFound label)
  | .error fault => return .error (.inputOutput fault.message)

def writeKey (base : Path) (label : String) (stored : StoredKey) : FileTask Unit := do
  let path := filePath base label
  FileTask.create path
  FileTask.setMode path fileMode
  FileTask.write path (Utf8.encode stored.toJson)
  FileTask.sync path

/-- Overwrites a file with zeros. What was written is made to last even if not all of it was. -/
def wipe (path : Path) : FileTask Unit := do
  let size ← FileTask.size path
  FileTask.create path
  FileTask.tried (FileTask.write path (List.replicate size 0))
  FileTask.sync path

/-- Removes the key under an alias. That it cannot be overwritten does not keep it from being
removed. -/
def removeKey (base : Path) (label : String) : FileTask Unit :=
  let path := filePath base label
  ExceptT.mk do
    if ← FileDialogue.isPresent path then
      let _ ← (wipe path).run
      (FileTask.remove path).run
    else return .ok ()

/-! ## The store -/

/-- A procedure whose faults are errors of the store. -/
def liftFault {α : Type} (task : FileTask α) : FileDialogue (Except StoreError α) := do
  return (← task.run).mapError fun fault => .inputOutput fault.message

def generate (base : Path) (label : String) (spec : KeySpec) (supply : Supply) :
    FileDialogue (Except StoreError KeyEntry × Supply) :=
  if spec.isolated then return (.error .isolationUnavailable, supply)
  else
    match supply.generateKey spec.bits with
    | (.error error, supply) => return (.error error, supply)
    | (.ok key, supply) =>
      match StoredKey.ofKey key supply.now with
      | .error error => return (.error error, supply)
      | .ok stored => do
        let written ← liftFault (writeKey base label stored)
        return (written.map fun () => KeyEntry.ofPrivateKey label key supply.now .software, supply)

def serve (base : Path) : (call : StoreCall) → Supply → FileDialogue (call.Answer × Supply)
  | .contains label, supply => do
    return (.ok (← FileDialogue.isPresent (filePath base label)), supply)
  | .generate label spec, supply => generate base label spec supply
  | .entry label, supply => do
    let stored ← readKey base label
    return (stored.bind fun stored => stored.toEntry label, supply)
  | .delete label, supply => do
    return (← liftFault (removeKey base label), supply)
  | .creationDate label, supply => do
    let stored ← readKey base label
    return (stored.map (·.createdAt), supply)

/-- How the store answers when its files are those of a tree. -/
def answer (base : Path) : Partner StoreCall StoreCall.Answer Disk := fun call disk =>
  match (serve base call disk.supply).run FileTree.answer disk.tree with
  | (some (answer, supply), tree) => (some answer, ⟨tree, supply⟩)
  | (none, tree) => (none, { disk with tree })

def store (base : Path) : KeyStore Disk :=
  ⟨.software, answer base⟩

end KeyDirectory

end Possession
