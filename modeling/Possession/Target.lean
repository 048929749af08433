import Possession.RequestError
import Possession.Text.Blank
import Possession.Url.Basic

/-!
# Request targets

The parts of a request's URL that a token binds: host and port, and the path. Both are cut out of
the text as it is written. The text must be an absolute URL with a host.
-/

namespace Possession

/-- What a token binds of a URL; an empty path means that there is none. -/
structure Target where
  authority : List Char
  pathChars : List Char
  deriving DecidableEq, Repr

namespace Target

/-- The path, if there is one. -/
def path (target : Target) : Option String :=
  if target.pathChars.isEmpty then none else some (String.ofList target.pathChars)

/-- The text behind the first `://`. -/
def afterScheme? : List Char → Option (List Char)
  | ':' :: '/' :: '/' :: rest => some rest
  | _ :: rest => afterScheme? rest
  | [] => none

/-- The characters behind the last `@`, or all of them. -/
def dropUser (chars : List Char) : List Char :=
  (chars.reverse.takeWhile (· != '@')).reverse

/-- Cuts host, port and path out of the text behind the scheme. -/
def cut (rest : List Char) : Target :=
  let whole := rest.takeWhile fun c => c != '/' && c != '?' && c != '#'
  let tail := rest.drop whole.length
  ⟨dropUser whole, tail.takeWhile fun c => c != '?' && c != '#'⟩

/-- Why a text has no target, behind the text itself. -/
def refuse (text reason : String) : RequestError :=
  .invalidUrl (text ++ ": " ++ reason)

/-- The target of a URL; blanks around it do not matter. -/
def parse (url : String) : Except RequestError Target :=
  let text := Text.trim url
  match Url.parse text with
  | .error fault => .error (refuse text fault.message)
  | .ok parsed =>
    if parsed.host.isNone then .error (refuse text "missing host")
    else
      match afterScheme? text.toList with
      | none => .error (refuse text "not hierarchical")
      | some rest =>
        let target := cut rest
        if target.authority.isEmpty then .error (refuse text "empty authority") else .ok target

end Target

end Possession
