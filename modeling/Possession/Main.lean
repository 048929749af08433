import Possession.CommandLine.Run
import Std.Time.DateTime.Timestamp

/-!
# The program

The command line on the files, the variables and the clock of the system.
-/

namespace Possession
namespace Program

/-- The fault of a number by which the system names an error. -/
def faultOfCode? : UInt32 → Option FileFault
  | 2 => some .notFound
  | 17 => some .alreadyExists
  | 20 => some .notDirectory
  | 21 => some .isDirectory
  | 36 => some .nameTooLong
  | _ => none

/-- The number of an error, if it is one of those that have a fault of their own. -/
def codeOf? : IO.Error → Option UInt32
  | .noFileOrDirectory _ code _ | .alreadyExists _ code _ | .inappropriateType _ code _
  | .invalidArgument _ code _ => some code
  | _ => none

/-- What an error of the system means for a file. Some operations tell the negative of a number. -/
def faultOf (error : IO.Error) : FileFault :=
  let fault? := (codeOf? error).bind fun code => (faultOfCode? code).or (faultOfCode? (-code))
  fault?.getD (.other (toString error))

/-- Runs an action whose errors are faults of files. -/
def attempt {α : Type} (action : IO α) : IO (Except FileFault α) := do
  try
    return .ok (← action)
  catch error =>
    return .error (faultOf error)

/-- The text of a path. -/
def textOf (path : Path) : String :=
  "/" ++ "/".intercalate path

/-- The octets of a file. -/
def octets (path : Path) : IO Bytes := do
  return (← IO.FS.readBinFile (textOf path)).toList

/-- Whether a path can be read as a file or a directory. -/
def isPresent (path : Path) : IO Bool := do
  try
    let _ ← IO.FS.realPath (textOf path)
    return true
  catch _ => return false

/-- The access rights of a mode. -/
def rightsOf (mode : Nat) : IO.FileRight :=
  let rights (bits : Nat) : IO.AccessRight :=
    { read := bits / 4 % 2 == 1, write := bits / 2 % 2 == 1, execution := bits % 2 == 1 }
  { user := rights (mode / 64), group := rights (mode / 8), other := rights mode }

def perform : (call : FileCall) → IO call.Answer
  | .isPresent path => isPresent path
  | .isDirectory path => isPresent (path ++ ["."])
  | .makeDirectory path => attempt (IO.FS.createDir (textOf path))
  | .setMode path mode => attempt (IO.setAccessRights (textOf path) (rightsOf mode))
  | .read path => attempt (octets path)
  | .size path => attempt do return (← octets path).length
  | .create path => attempt (IO.FS.writeBinFile (textOf path) ⟨#[]⟩)
  | .write path bytes => attempt (IO.FS.writeBinFile (textOf path) ⟨bytes.toArray⟩)
  | .sync path => attempt do
    let file ← IO.FS.Handle.mk (textOf path) .append
    file.flush
  | .remove path => attempt (IO.FS.removeFile (textOf path))

/-- The variables that the program looks at. -/
def variableNames : List String :=
  ["HOME", "XDG_CONFIG_HOME", "XDG_DATA_HOME", "DEVICE_POP_STORE", "DEVICE_POP_KEY_DIR",
    "DEVICE_POP_SIGNING_ALG", "DEVICE_POP_PREFER_ISOLATION", "DEVICE_POP_TIMEOUT_SECS",
    "DEVICE_POP_ACCESS_TOKEN"]

def readEnvironment : IO Settings.Environment := do
  let values ← variableNames.mapM fun name => do return (name, ← IO.getEnv name)
  return fun name => (values.lookup name).join

def now : IO Instant := do
  let span := (← Std.Time.Timestamp.now).toDurationSinceUnixEpoch
  return ⟨span.second.val, span.nano.val.toNat⟩

def readSurroundings : IO Surroundings := do
  return {
    environment := ← readEnvironment
    workingDirectory := Path.ofText (← IO.currentDir).toString
    supply := ⟨Entropy.ofSeed (← IO.getRandomBytes 32).toList, ← now⟩ }

/-- What is printed when arguments are misused or help is asked for. -/
def usage : String :=
  "Usage: device-pop [--config <CONFIG>] [--store <STORE>] <COMMAND>"

end Program
end Possession

open Possession

def main (arguments : List String) : IO UInt32 := do
  let surroundings ← Program.readSurroundings
  let (code, report) ← (CommandLine.program surroundings arguments).runIn Program.perform
  for line in report.lines do
    IO.println line
  match report.failure with
  | some reason => IO.eprintln ("Error: " ++ reason)
  | none => if code = 2 then IO.eprintln Program.usage
  return UInt32.ofNat code
