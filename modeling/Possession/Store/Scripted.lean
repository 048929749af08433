import Possession.Store.Memory

/-!
# Stores that follow a script

A store whose new keys are laid down in a script, for leading the use of a store along every path.
It fails where it is told to, and keeps a log of what it was asked to change.
-/

namespace Possession

/-- What a scripted store answers to a request for a key. -/
inductive ScriptStep where
  | fail (error : StoreError)
  /-- The call never returns. -/
  | crash
  /-- The key's entry, given its alias. -/
  | make (entry : (label : String) → KeyEntry)

/-- The kinds of calls that a scripted store can be told to fail. -/
inductive ScriptedCall where
  | contains
  | generate
  | entry
  | delete
  | creationDate
  deriving DecidableEq, Repr

/-- What a scripted store was asked to change. -/
inductive LogItem where
  | generate (label : String) (spec : KeySpec)
  | delete (label : String)
  deriving DecidableEq, Repr

/-- A scripted store: what it holds, what it will answer, where it fails, and what it was asked. -/
structure Scripted where
  memory : Memory
  isolation : Bool
  script : List ScriptStep
  fault? : ScriptedCall → Option StoreError
  log : List LogItem

namespace Scripted

/-- The store with one more item at the end of its log. -/
def record (scripted : Scripted) (item : LogItem) : Scripted :=
  { scripted with log := scripted.log ++ [item] }

/-- The answer to a call that may have been told to fail. -/
def unlessTold {α : Type} (scripted : Scripted) (call : ScriptedCall)
    (result : Except StoreError α) : Except StoreError α :=
  match scripted.fault? call with
  | some error => .error error
  | none => result

def generate (scripted : Scripted) (label : String) (spec : KeySpec) :
    Option (Except StoreError KeyEntry) × Scripted :=
  let scripted := scripted.record (.generate label spec)
  match scripted.fault? .generate with
  | some error => (some (.error error), scripted)
  | none =>
    if spec.isolated && !scripted.isolation then (some (.error .isolationUnavailable), scripted)
    else
      match scripted.script with
      | [] => (some (.error (.backend "script exhausted")), scripted)
      | step :: script =>
        let scripted := { scripted with script }
        match step with
        | .fail error => (some (.error error), scripted)
        | .crash => (none, scripted)
        | .make entry =>
          let entry := entry label
          (some (.ok entry), { scripted with memory := scripted.memory.insert label entry })

def answer : Partner StoreCall StoreCall.Answer Scripted
  | .contains label, scripted =>
    (some (scripted.unlessTold .contains (.ok (scripted.memory.find? label).isSome)), scripted)
  | .generate label spec, scripted => scripted.generate label spec
  | .entry label, scripted =>
    (some (scripted.unlessTold .entry (scripted.memory.entry label)), scripted)
  | .delete label, scripted =>
    let scripted := scripted.record (.delete label)
    match scripted.fault? .delete with
    | some error => (some (.error error), scripted)
    | none => (some (.ok ()), { scripted with memory := scripted.memory.erase label })
  | .creationDate label, scripted =>
    (some (scripted.unlessTold .creationDate
      ((scripted.memory.entry label).map (·.createdAt))), scripted)

def store (backing : Backing) (isolation : Bool) : KeyStore Scripted :=
  ⟨⟨backing, isolation⟩, answer⟩

end Scripted

end Possession
