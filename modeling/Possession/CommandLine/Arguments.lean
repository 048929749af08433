import Possession.Device.Minting
import Possession.Settings.Environment

/-!
# Arguments of the command line

A command with its options, behind options that hold for every command; the latter may also stand
behind the command. The value of an option stands in the next argument or behind an equals sign, and
an option occurs once. Some options have a variable of the environment to stand in for them.

Arguments are read from the front. Asking for the version or for help ends the reading, so only what
stands before it can be misused.
-/

namespace Possession

/-- What to do, with what. -/
inductive Command where
  | generate (noIsolation : Bool)
  | status
  | thumbprint
  | confirmation
  | publicKey (format : ExportFormat)
  | mint (url accessToken : String) (method nonce : Option String) (timestamp : Option Int)
  | sign (algorithm input : String)
  | verify (algorithm input signature : String)
  | clear (force : Bool)
  deriving DecidableEq, Repr

/-- A command, and what holds for every command: the file of settings and the kind of store. -/
structure Invocation where
  settingsFile : Option String
  store : Option StoreKind
  command : Command
  deriving DecidableEq, Repr

namespace Arguments

/-! ## Options -/

/-- An option: its name, which values it takes, if it takes any, and the variable that stands in for
it. -/
structure OptionSpec where
  name : String
  isValue : Option (String → Bool)
  standIn : Option String

def switch (name : String) : OptionSpec :=
  ⟨name, none, none⟩

def anyText (name : String) : OptionSpec :=
  ⟨name, some fun _ => true, none⟩

/-- The options with their values, which are absent for switches. -/
abbrev Given : Type := List (String × Option String)

def Given.value? (given : Given) (name : String) : Option String :=
  (given.lookup name).bind id

def Given.has (given : Given) (name : String) : Bool :=
  (given.lookup name).isSome

/-- Reads an integer of 64 bits with an optional sign. -/
def readInteger? (text : String) : Option Int :=
  let (negative, digits) :=
    match text.toList with
    | '-' :: rest => (true, rest)
    | '+' :: rest => (false, rest)
    | chars => (false, chars)
  let value := (Digits.decimal? digits).map fun magnitude =>
    if negative then -Int.ofNat magnitude else Int.ofNat magnitude
  value.filter fun value => Claims.minTimestamp ≤ value && value ≤ Claims.maxTimestamp

def commonOptions : List OptionSpec := [
  ⟨"config", some fun text => !text.isEmpty, none⟩,
  ⟨"store", some fun text => (StoreKind.parse text).toOption.isSome, some Settings.storeVariable⟩]

/-! ## Commands -/

/-- A command: its name, its own options, and what it is when they are given. It is nothing when an
option that it needs is missing. -/
structure CommandSpec where
  name : String
  options : List OptionSpec
  ofGiven? : Given → Option Command

/-- The algorithm of signatures when none is given. -/
def standardAlgorithm : String := "SHA256withRSA"

def mintOf? (given : Given) : Option Command := do
  let url ← given.value? "url"
  let accessToken ← given.value? "token"
  return .mint url accessToken (given.value? "method") (given.value? "nonce")
    ((given.value? "timestamp").bind readInteger?)

def signOf? (given : Given) : Option Command := do
  return .sign ((given.value? "alg").getD standardAlgorithm) (← given.value? "input")

def verifyOf? (given : Given) : Option Command := do
  return .verify ((given.value? "alg").getD standardAlgorithm) (← given.value? "input")
    (← given.value? "signature")

def publicKeyOf? (given : Given) : Option Command :=
  match given.value? "format" with
  | none => some (.publicKey .jwk)
  | some format => (ExportFormat.parse format).toOption.map .publicKey

def commands : List CommandSpec := [
  ⟨"generate", [switch "no-isolation"], fun given => some (.generate (given.has "no-isolation"))⟩,
  ⟨"status", [], fun _ => some .status⟩,
  ⟨"thumbprint", [], fun _ => some .thumbprint⟩,
  ⟨"req-cnf", [], fun _ => some .confirmation⟩,
  ⟨"export", [⟨"format", some fun text => (ExportFormat.parse text).toOption.isSome, none⟩],
    publicKeyOf?⟩,
  ⟨"mint", [anyText "url", ⟨"token", some fun _ => true, some "DEVICE_POP_ACCESS_TOKEN"⟩,
    anyText "method", anyText "nonce",
    ⟨"timestamp", some fun text => (readInteger? text).isSome, none⟩], mintOf?⟩,
  ⟨"sign", [anyText "alg", anyText "input"], signOf?⟩,
  ⟨"verify", [anyText "alg", anyText "input", anyText "signature"], verifyOf?⟩,
  ⟨"clear", [switch "force"], fun given => some (.clear (given.has "force"))⟩]

/-! ## Reading -/

/-- The name of the option and of the command that ask for help. -/
def helpName : String := "help"

/-- Why reading ends before there is a command. -/
inductive Stop where
  | version
  | help
  | misuse
  deriving DecidableEq, Repr

/-- Whether an argument can only be an option. -/
def isOption (argument : String) : Bool :=
  match argument.toList with
  | '-' :: _ :: _ => true
  | _ => false

/-- The name of a long option, without its hyphens, and the value behind its equals sign. -/
def splitOption (chars : List Char) : String × Option String :=
  let name := chars.takeWhile (· != '=')
  let attached :=
    if name.length < chars.length then some (String.ofList (chars.drop (name.length + 1)))
    else none
  (String.ofList name, attached)

/-- An option with its value, taken from behind its equals sign or from the arguments behind it, and
the arguments left. -/
def takeOption (spec : OptionSpec) (attached : Option String) (rest : List String) :
    Except Stop (Option String × List String) :=
  match spec.isValue, attached, rest with
  | none, none, _ => .ok (none, rest)
  | none, some _, _ => .error .misuse
  | some isValue, some value, _ =>
    if isValue value then .ok (some value, rest) else .error .misuse
  | some isValue, none, value :: rest =>
    if !isOption value && isValue value then .ok (some value, rest) else .error .misuse
  | some _, none, [] => .error .misuse

/-- What short options ask for, of which the first one counts. -/
def stopOfShort (versioned : Bool) : List Char → Stop
  | 'h' :: _ => .help
  | 'V' :: _ => if versioned then .version else .misuse
  | _ => .misuse

/-- The options up to an argument that is none, together with that argument and those behind it.
`versioned` tells whether the version may be asked for. Fuel counts arguments. -/
def readOptions (specs : List OptionSpec) (versioned : Bool) : (fuel : Nat) → Given →
    List String → Except Stop (Given × List String)
  | 0, _, _ => .error .misuse
  | _, given, [] => .ok (given, [])
  | fuel + 1, given, argument :: rest =>
    match argument.toList with
    | ['-', '-'] => if rest.isEmpty then .ok (given, []) else .error .misuse
    | '-' :: '-' :: chars =>
      let (name, attached) := splitOption chars
      match specs.find? fun spec => spec.name == name with
      | some spec =>
        if given.has name then .error .misuse
        else
          match takeOption spec attached rest with
          | .ok (value, rest) => readOptions specs versioned fuel ((name, value) :: given) rest
          | .error stop => .error stop
      | none =>
        if attached.isSome then .error .misuse
        else if name = helpName then .error .help
        else if name = "version" && versioned then .error .version
        else .error .misuse
    | '-' :: c :: chars => .error (stopOfShort versioned (c :: chars))
    | _ => .ok (given, argument :: rest)

/-- The options with what their variables say where they are not given. -/
def addVariables (environment : Settings.Environment) : List OptionSpec → Given →
    Except Stop Given
  | [], given => .ok given
  | spec :: specs, given =>
    match spec.isValue, spec.standIn.bind environment with
    | some isValue, some value =>
      if given.has spec.name then addVariables environment specs given
      else if isValue value then addVariables environment specs ((spec.name, some value) :: given)
      else .error .misuse
    | _, _ => addVariables environment specs given

/-- What asking for help about something comes to: there is help about the whole, and about each
command. -/
def stopOfHelp : List String → Stop
  | [] => .help
  | [name] =>
    if name = helpName || commands.any fun spec => spec.name == name then .help else .misuse
  | _ => .misuse

/-- The value of an option for every command: the one given behind the command goes before the one
given in front of it, and both go before a variable. -/
def commonValue? (before behind : Given) (withVariables : Given) (name : String) : Option String :=
  ((behind.value? name).or (before.value? name)).or (withVariables.value? name)

def read (environment : Settings.Environment) (arguments : List String) :
    Except Stop Invocation := do
  let fuel := arguments.length + 1
  let (before, rest) ← readOptions commonOptions true fuel [] arguments
  match rest with
  | [] => throw .misuse
  | name :: rest =>
    match commands.find? fun spec => spec.name == name with
    | none => throw (if name = helpName then stopOfHelp rest else .misuse)
    | some spec =>
      let options := spec.options ++ commonOptions
      let (behind, rest) ← readOptions options false fuel [] rest
      if !rest.isEmpty then throw .misuse
      let given ← addVariables environment options behind
      let common ← addVariables environment commonOptions before
      match spec.ofGiven? given with
      | none => throw .misuse
      | some command =>
        return {
          settingsFile := commonValue? before behind common "config"
          store := (commonValue? before behind common "store").bind fun text =>
            (StoreKind.parse text).toOption
          command }

end Arguments

end Possession
