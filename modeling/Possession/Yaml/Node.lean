import Possession.Yaml.Token

/-!
# Nodes of YAML

What a YAML text says: scalars, sequences and mappings. A node that has an anchor is numbered, and a
reference holds the number of the last node before it that has the name as its anchor; it may be a
node that the reference itself lies in.

* `Document.ofText?` reads a text of at most one document.
-/

namespace Possession
namespace Yaml

/-- A value. A tag is kept in full length; a node without one has to be understood by its form. -/
inductive Node where
  | scalar (tag : Option String) (style : Style) (text : String)
  | sequence (items : List Node)
  | mapping (members : List (Node × Node))
  | reference (number : Nat)

/-- A text of one document: its node, unless the text is empty, and the nodes with anchors by their
numbers. -/
structure Document where
  root : Option Node
  anchored : List (Nat × Node)

/-- What is known while nodes are read: the tokens ahead, the meanings of handles, the numbers of
anchors by name, the last one first, how many there are, and the anchored nodes read so far. -/
structure Reading where
  tokens : List Token
  handles : List (String × String)
  names : List (String × Nat)
  count : Nat
  anchored : List (Nat × Node)

/-- A step of reading nodes. -/
abbrev Read (α : Type) : Type :=
  StateT Reading Option α

namespace Read

def peek : Read (Option Token) := do
  return (← get).tokens.head?

def advance : Read Unit :=
  modify fun reading => { reading with tokens := reading.tokens.drop 1 }

/-- Goes past the token ahead if it is a given one, and tells whether it was. -/
def accept (token : Token) : Read Bool := do
  if (← peek) = some token then
    advance
    return true
  else return false

def expect (token : Token) : Read Unit := do
  if !(← accept token) then failure

def isAhead (tokens : List Token) : Read Bool := do
  return (← peek).any tokens.contains

end Read

/-! ## Properties -/

/-- The anchor of a node, as its number, and the tag. -/
structure Properties where
  anchor : Option Nat
  tag : Option String

namespace Properties

/-- Reads an anchor, if there is one, and numbers it. -/
def readAnchor : Read (Option Nat) := do
  match ← Read.peek with
  | some (.anchor name) =>
    Read.advance
    let number := (← get).count
    modify fun reading => { reading with
      names := (name, number) :: reading.names
      count := number + 1 }
    return some number
  | _ => return none

/-- Reads a tag, if there is one, in full length. Its handle must have a meaning. -/
def readTag : Read (Option String) := do
  match ← Read.peek with
  | some (.tag handle suffix) =>
    Read.advance
    if handle.isEmpty then return some suffix
    match (← get).handles.lookup handle with
    | some lead => return some (lead ++ suffix)
    | none => failure
  | _ => return none

/-- Reads an anchor and a tag in either order. -/
def read : Read Properties := do
  match ← readAnchor with
  | some number => return ⟨some number, ← readTag⟩
  | none =>
    let tag ← readTag
    let anchor ← if tag.isSome then readAnchor else pure none
    return ⟨anchor, tag⟩

def isPresent (properties : Properties) : Bool :=
  properties.anchor.isSome || properties.tag.isSome

/-- Takes a node down under its anchor. -/
def attach (properties : Properties) (node : Node) : Read Node := do
  match properties.anchor with
  | some number =>
    modify fun reading => { reading with anchored := (number, node) :: reading.anchored }
  | none => pure ()
  return node

end Properties

/-! ## Nodes -/

namespace Node

/-- The node of nothing at all. -/
def blank : Node :=
  .scalar none .plain ""

/-- The tag that says nothing. -/
def bareTag : String := "!"

def ofScalar (tag : Option String) (text : String) (style : Style) : Node :=
  .scalar (tag.filter fun tag => tag != bareTag) style text

/-- Reads a reference to an anchor that must have been seen. -/
def readReference (name : String) : Read Node := do
  Read.advance
  match (← get).names.lookup name with
  | some number => return .reference number
  | none => failure

mutual

/-- Reads a node. Block collections begin only where `block` allows; a sequence that is indented no
more than the mapping around it, only where `level` allows. Fuel counts nodes and entries. -/
def read (block level : Bool) : (fuel : Nat) → Read Node
  | 0 => failure
  | fuel + 1 => do
    if let some (.reference name) ← Read.peek then return ← readReference name
    let properties ← Properties.read
    match ← Read.peek with
    | some .blockEntry =>
      if level then properties.attach (.sequence (← readLevelItems fuel))
      else if properties.isPresent then properties.attach (ofScalar properties.tag "" .plain)
      else failure
    | some (.scalar text style) =>
      Read.advance
      properties.attach (ofScalar properties.tag text style)
    | some .flowSequenceStart =>
      Read.advance
      properties.attach (.sequence (← readFlowItems true fuel))
    | some .flowMappingStart =>
      Read.advance
      properties.attach (.mapping (← readFlowMembers true fuel))
    | token =>
      if block && token = some .blockSequenceStart then
        Read.advance
        properties.attach (.sequence (← readBlockItems fuel))
      else if block && token = some .blockMappingStart then
        Read.advance
        properties.attach (.mapping (← readBlockMembers fuel))
      else if properties.isPresent then properties.attach (ofScalar properties.tag "" .plain)
      else failure

/-- Reads a node, or the node of nothing where one of the given tokens is ahead. -/
def readUnless (stops : List Token) (block level : Bool) : (fuel : Nat) → Read Node
  | 0 => failure
  | fuel + 1 => do
    if ← Read.isAhead stops then return blank else read block level fuel

/-- Reads the items of a block sequence and its end. -/
def readBlockItems : (fuel : Nat) → Read (List Node)
  | 0 => failure
  | fuel + 1 => do
    if ← Read.accept .blockEntry then
      let item ← readUnless [.blockEntry, .blockEnd] true false fuel
      return item :: (← readBlockItems fuel)
    else
      Read.expect .blockEnd
      return []

/-- Reads the items of a block sequence whose end is that of the mapping around it. -/
def readLevelItems : (fuel : Nat) → Read (List Node)
  | 0 => failure
  | fuel + 1 => do
    if ← Read.accept .blockEntry then
      let item ← readUnless [.blockEntry, .key, .value, .blockEnd] true false fuel
      return item :: (← readLevelItems fuel)
    else return []

/-- Reads the members of a block mapping and its end. -/
def readBlockMembers : (fuel : Nat) → Read (List (Node × Node))
  | 0 => failure
  | fuel + 1 => do
    if ← Read.accept .key then
      let stops := [Token.key, .value, .blockEnd]
      let key ← readUnless stops true true fuel
      let value ← if ← Read.accept .value then readUnless stops true true fuel else pure blank
      return (key, value) :: (← readBlockMembers fuel)
    else
      Read.expect .blockEnd
      return []

/-- Reads the items of a flow sequence and its end. A key among them makes a mapping of one
member. -/
def readFlowItems (first : Bool) : (fuel : Nat) → Read (List Node)
  | 0 => failure
  | fuel + 1 => do
    if ← Read.accept .flowSequenceEnd then return []
    if !first then
      Read.expect .flowEntry
      if ← Read.accept .flowSequenceEnd then return []
    let item ←
      if ← Read.accept .key then pure (Node.mapping [← readPair fuel])
      else read false false fuel
    return item :: (← readFlowItems false fuel)

/-- Reads the one member of a mapping among the items of a flow sequence, behind its mark. Where no
key stands, the token in its place is passed over. -/
def readPair : (fuel : Nat) → Read (Node × Node)
  | 0 => failure
  | fuel + 1 => do
    let key ←
      if ← Read.isAhead [.value, .flowEntry, .flowSequenceEnd] then
        Read.advance
        pure blank
      else read false false fuel
    let value ←
      if ← Read.accept .value then
        readUnless [.flowEntry, .flowSequenceEnd] false false fuel
      else pure blank
    return (key, value)

/-- Reads the members of a flow mapping and its end. A member may lack its value. -/
def readFlowMembers (first : Bool) : (fuel : Nat) → Read (List (Node × Node))
  | 0 => failure
  | fuel + 1 => do
    if ← Read.accept .flowMappingEnd then return []
    if !first then
      Read.expect .flowEntry
      if ← Read.accept .flowMappingEnd then return []
    let member ←
      if ← Read.accept .key then do
        let key ← readUnless [.value, .flowEntry, .flowMappingEnd] false false fuel
        let value ←
          if ← Read.accept .value then
            readUnless [.flowEntry, .flowMappingEnd] false false fuel
          else pure blank
        pure (key, value)
      else do
        let key ← read false false fuel
        pure (key, blank)
    return member :: (← readFlowMembers false fuel)

end

end Node

/-! ## Documents -/

namespace Document

/-- The handles that have a meaning without a directive. -/
def standardHandles : List (String × String) :=
  [("!", "!"), ("!!", "tag:yaml.org,2002:")]

/-- Reads the directives before a document: one version at most, which must be known, and one
meaning for each handle. Fuel counts directives. -/
def readDirectives (hasVersion : Bool) (handles : List (String × String)) : (fuel : Nat) →
    Read (Bool × List (String × String))
  | 0 => failure
  | fuel + 1 => do
    match ← Read.peek with
    | some (.version major minor) =>
      Read.advance
      if hasVersion || major ≠ 1 || !(minor = 1 || minor = 2) then failure
      readDirectives true handles fuel
    | some (.tagDirective handle lead) =>
      Read.advance
      if (handles.lookup handle).isSome then failure
      readDirectives hasVersion ((handle, lead) :: handles) fuel
    | _ => return (hasVersion, handles)

/-- Reads the start of a document with its directives. Without directives the start may be left
out. -/
def readStart : Read Bool := do
  let (hasVersion, handles) ← readDirectives false [] ((← get).tokens.length + 1)
  modify fun reading => { reading with handles := handles ++ standardHandles }
  if ← Read.accept .documentStart then return true
  else if hasVersion || !handles.isEmpty then failure
  else return false

/-- Goes past all marks of an end. Fuel counts marks. -/
def skipEnds : (fuel : Nat) → Read Unit
  | 0 => return ()
  | fuel + 1 => do
    if ← Read.accept .documentEnd then skipEnds fuel

def read : Read Document := do
  let count := (← get).tokens.length
  if (← Read.peek).isNone then return ⟨none, []⟩
  let isMarked ← readStart
  let fuel := 4 * count + 8
  let isEmpty ← Read.isAhead [.documentStart, .documentEnd]
  let isDirective ← do
    match ← Read.peek with
    | some (.version _ _) | some (.tagDirective _ _) => pure true
    | _ => pure false
  let root ←
    if isMarked && (isEmpty || isDirective || (← Read.peek).isNone) then pure Node.blank
    else Node.read true false fuel
  skipEnds count
  if (← Read.peek).isSome then failure
  return ⟨some root, (← get).anchored⟩

def ofText? (text : String) : Option Document := do
  let tokens ← Token.scan? text
  let (document, _) ← read.run ⟨tokens, [], [], 0, []⟩
  return document

/-- What a node stands for, behind a reference. -/
def follow (document : Document) : Node → Node
  | .reference number => (document.anchored.lookup number).getD Node.blank
  | node => node

end Document

end Yaml
end Possession
