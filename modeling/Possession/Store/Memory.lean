import Possession.Store.Software

/-!
# Keys in memory

The store whose entries are just a map from aliases to entries.
-/

namespace Possession

/-- A store in memory: its entries by alias, and what new keys are made of. -/
structure Memory where
  entries : List (String × KeyEntry)
  supply : Supply

namespace Memory

def empty (supply : Supply) : Memory :=
  ⟨[], supply⟩

def find? (memory : Memory) (label : String) : Option KeyEntry :=
  memory.entries.lookup label

def erase (memory : Memory) (label : String) : Memory :=
  { memory with entries := memory.entries.filter fun item => item.1 != label }

/-- The store with an entry under an alias, in place of any other. -/
def insert (memory : Memory) (label : String) (entry : KeyEntry) : Memory :=
  { memory with entries := (label, entry) :: (memory.erase label).entries }

/-- The entry under an alias, or that there is none. -/
def entry (memory : Memory) (label : String) : Except StoreError KeyEntry :=
  match memory.find? label with
  | some entry => .ok entry
  | none => .error (.notFound label)

def generate (memory : Memory) (label : String) (spec : KeySpec) :
    Except StoreError KeyEntry × Memory :=
  if spec.isolated then (.error .isolationUnavailable, memory)
  else
    match memory.supply.generateKey spec.bits with
    | (.error error, supply) => (.error error, { memory with supply })
    | (.ok key, supply) =>
      let entry := KeyEntry.ofPrivateKey label key supply.now .software
      (.ok entry, { memory with supply }.insert label entry)

def answer : Partner StoreCall StoreCall.Answer Memory
  | .contains label, memory => (some (.ok (memory.find? label).isSome), memory)
  | .generate label spec, memory =>
    let (result, memory) := memory.generate label spec
    (some result, memory)
  | .entry label, memory => (some (memory.entry label), memory)
  | .delete label, memory => (some (.ok ()), memory.erase label)
  | .creationDate label, memory => (some ((memory.entry label).map (·.createdAt)), memory)

def store : KeyStore Memory :=
  ⟨.software, answer⟩

end Memory

end Possession
