import Possession.Text.Utf8
import Possession.Yaml.Scalar

/-!
# Tokens of YAML

What a YAML text is made of: directives, marks of documents, marks of collections, properties of
nodes, and scalars. Indentation becomes tokens too: a collection of the block style begins where a
line is indented more than before and ends where one is indented less.

A key that stands before its colon without a mark is found only at the colon. So the scanner keeps,
for each collection it is inside of, the place where such a key may have begun; at the colon the
tokens that open it are inserted there. `weave` puts them in when all tokens are known.

* `Token.scan?` answers the tokens of a text, or nothing when the text is malformed.
-/

namespace Possession
namespace Yaml

/-- A piece of a YAML text. -/
inductive Token where
  | version (major minor : Nat)
  | tagDirective (handle lead : String)
  | documentStart
  | documentEnd
  | blockSequenceStart
  | blockMappingStart
  | blockEnd
  | flowSequenceStart
  | flowSequenceEnd
  | flowMappingStart
  | flowMappingEnd
  | blockEntry
  | flowEntry
  | key
  | value
  | reference (name : String)
  | anchor (name : String)
  | tag (handle suffix : String)
  | scalar (text : String) (style : Style)
  deriving DecidableEq, Repr

/-- A place where a key without a mark may have begun: the number of tokens before it, and where it
stands. A required key must turn out to be one. -/
structure PendingKey where
  position : Nat
  required : Bool
  start : Cursor

/-- Tokens to be inserted before the token with a given number. -/
structure Insertion where
  position : Nat
  tokens : List Token

/-- The tokens of a text up to a place. `keys` holds the pending key of each collection of the flow
style around the place, the innermost first, and at last that of the block style. `indent` is the
indentation of the innermost block collection, minus one outside all of them. -/
structure Scanner where
  cursor : Cursor
  tokens : Array Token
  insertions : List Insertion
  key : Option PendingKey
  outerKeys : List (Option PendingKey)
  keyAllowed : Bool
  indent : Int
  outerIndents : List Int

namespace Scanner

def start (text : List Char) : Scanner :=
  ⟨.start text, #[], [], none, [], true, -1, []⟩

/-- Whether the place lies inside a collection of the flow style. -/
def inFlow (scanner : Scanner) : Bool :=
  !scanner.outerKeys.isEmpty

def column (scanner : Scanner) : Nat :=
  scanner.cursor.column

def push (scanner : Scanner) (token : Token) : Scanner :=
  { scanner with tokens := scanner.tokens.push token }

/-- The scanner with one more token of `count` characters. -/
def pushMark (scanner : Scanner) (token : Token) (count : Nat) : Scanner :=
  { scanner.push token with cursor := scanner.cursor.skip count }

/-! ## Blanks, comments and lines -/

/-- Goes to the next token. Tabs are skipped only where no key may begin. After a line break outside
flow collections a key may begin. Fuel counts lines. -/
def skipToToken : (fuel : Nat) → Scanner → Scanner
  | 0, scanner => scanner
  | fuel + 1, scanner =>
    -- A byte order mark counts as nothing, but only as the very first character.
    let cursor :=
      if scanner.cursor.index == 0 && scanner.cursor.rest.head? == some '\uFEFF' then
        scanner.cursor.skip 1
      else scanner.cursor
    let tabs := scanner.inFlow || !scanner.keyAllowed
    let cursor := (cursor.span fun c => c == ' ' || (tabs && c == '\t')).2.skipComment
    let scanner := { scanner with cursor }
    if !cursor.rest.isEmpty && endsLine cursor.rest then
      skipToToken fuel { scanner with
        cursor := cursor.readBreak.2
        keyAllowed := scanner.keyAllowed || !scanner.inFlow }
    else scanner

/-! ## Pending keys -/

/-- The longest key without a mark. -/
def maxKeySize : Nat := 1024

/-- What remains of a pending key at a place: nothing once its line has ended or it has become too
long, and then it must not have been required. -/
def freshKey? (cursor : Cursor) : Option PendingKey → Option (Option PendingKey)
  | none => some none
  | some key =>
    if key.start.line < cursor.line || key.start.index + maxKeySize < cursor.index then
      if key.required then none else some none
    else some (some key)

/-- Drops the pending keys that can no longer be keys. -/
def dropStaleKeys? (scanner : Scanner) : Option Scanner := do
  let key ← freshKey? scanner.cursor scanner.key
  let outerKeys ← scanner.outerKeys.mapM (freshKey? scanner.cursor)
  return { scanner with key, outerKeys }

/-- Gives up the innermost pending key, which must not have been required. -/
def dropKey? (scanner : Scanner) : Option Scanner :=
  match scanner.key with
  | some ⟨_, true, _⟩ => none
  | _ => some { scanner with key := none }

/-- Takes down that a key may begin here. At the indentation of the block collection around the
place it must. -/
def saveKey? (scanner : Scanner) : Option Scanner :=
  if scanner.keyAllowed then do
    let required := !scanner.inFlow && scanner.indent == Int.ofNat scanner.column
    let scanner ← scanner.dropKey?
    return { scanner with key := some ⟨scanner.tokens.size, required, scanner.cursor⟩ }
  else some scanner

/-! ## Indentation -/

/-- Opens a block collection at a column that is indented more than those around it. -/
def indentTo (scanner : Scanner) (column : Nat) : Bool × Scanner :=
  if !scanner.inFlow && scanner.indent < Int.ofNat column then
    (true, { scanner with
      indent := Int.ofNat column
      outerIndents := scanner.indent :: scanner.outerIndents })
  else (false, scanner)

/-- Opens a block collection at the place, if it is indented more. -/
def openBlock (scanner : Scanner) (token : Token) : Scanner :=
  let (isNew, scanner) := scanner.indentTo scanner.column
  if isNew then scanner.push token else scanner

/-- Closes block collections given the indentations around them. -/
def closeWithin (column : Int) (scanner : Scanner) : (outer : List Int) → Scanner
  | [] => { scanner with outerIndents := [] }
  | outer :: others =>
    if column < scanner.indent then
      closeWithin column { scanner.push .blockEnd with indent := outer } others
    else { scanner with outerIndents := outer :: others }

/-- Closes the block collections that are indented more than a column. -/
def closeBlocks (scanner : Scanner) (column : Int) : Scanner :=
  if scanner.inFlow then scanner else closeWithin column scanner scanner.outerIndents

/-! ## Marks -/

/-- Leaves all block collections, after which no key is pending. -/
def leaveBlocks? (scanner : Scanner) : Option Scanner := do
  let scanner ← (scanner.closeBlocks (-1)).dropKey?
  return { scanner with keyAllowed := false }

/-- A mark of three characters that starts or ends a document. -/
def readDocumentMark? (scanner : Scanner) (token : Token) : Option Scanner := do
  return (← scanner.leaveBlocks?).pushMark token 3

/-- The start of a flow collection, which may itself be a key. -/
def openFlow? (scanner : Scanner) (token : Token) : Option Scanner := do
  let scanner ← scanner.saveKey?
  return { scanner.pushMark token 1 with
    key := none
    outerKeys := scanner.key :: scanner.outerKeys
    keyAllowed := true }

/-- The end of a flow collection. -/
def closeFlow? (scanner : Scanner) (token : Token) : Option Scanner := do
  let scanner := { (← scanner.dropKey?).pushMark token 1 with keyAllowed := false }
  match scanner.outerKeys with
  | [] => return scanner
  | key :: outerKeys => return { scanner with key, outerKeys }

/-- The comma between entries of a flow collection. -/
def readFlowEntry? (scanner : Scanner) : Option Scanner := do
  return { (← scanner.dropKey?).pushMark .flowEntry 1 with keyAllowed := true }

/-- The hyphen before an entry of a block sequence. -/
def readBlockEntry? (scanner : Scanner) : Option Scanner := do
  if !scanner.inFlow && !scanner.keyAllowed then none
  let scanner ← (scanner.openBlock .blockSequenceStart).dropKey?
  return { scanner.pushMark .blockEntry 1 with keyAllowed := true }

/-- The question mark before a key. -/
def readKeyMark? (scanner : Scanner) : Option Scanner := do
  if !scanner.inFlow && !scanner.keyAllowed then none
  let scanner ← (scanner.openBlock .blockMappingStart).dropKey?
  return { scanner.pushMark .key 1 with keyAllowed := !scanner.inFlow }

/-- The colon before a value. If a key is pending it was a key indeed. -/
def readValueMark? (scanner : Scanner) : Option Scanner :=
  match scanner.key with
  | some key =>
    -- The mapping opens where its first key stands, not where the colon does.
    let (isNew, scanner) := scanner.indentTo key.start.column
    let opening := if isNew then [Token.blockMappingStart, .key] else [.key]
    some { scanner.pushMark .value 1 with
      insertions := ⟨key.position, opening⟩ :: scanner.insertions
      key := none
      keyAllowed := false }
  | none =>
    if scanner.inFlow then some { scanner.pushMark .value 1 with keyAllowed := false }
    else if scanner.keyAllowed then
      some ((scanner.openBlock .blockMappingStart).pushMark .value 1)
    else none

/-! ## Directives -/

/-- Reads a number of one to nine digits. -/
def readNumber? (cursor : Cursor) : Option (Nat × Cursor) :=
  let (digits, cursor) := cursor.span Char.isDigit
  if digits.isEmpty || 9 < digits.length then none
  else some (Digits.decimal digits, cursor)

/-- Reads the rest of a character in UTF-8 that is written as escaped octets, `count` more of
them. -/
def readOctets? : (count : Nat) → Cursor → Option (Bytes × Cursor)
  | 0, cursor => some ([], cursor)
  | count + 1, cursor =>
    match cursor.rest with
    | '%' :: high :: low :: _ => do
      let octet ← Digits.number? 16 [high, low]
      let (octets, cursor) ← readOctets? count (cursor.skip 3)
      return (UInt8.ofNat octet :: octets, cursor)
    | _ => none

/-- The number of octets of a character in UTF-8 by the first of them. -/
def utf8Length? (first : UInt8) : Option Nat :=
  if first < 0x80 then some 1
  else if 0xC0 ≤ first ∧ first < 0xE0 then some 2
  else if 0xE0 ≤ first ∧ first < 0xF0 then some 3
  else if 0xF0 ≤ first ∧ first < 0xF8 then some 4
  else none

/-- Reads a character that is written as escaped octets. -/
def readEscapedChar? (cursor : Cursor) : Option (List Char × Cursor) := do
  -- The first octet is looked at to learn how many belong together, then read again with them.
  let (first, _) ← readOctets? 1 cursor
  let count ← utf8Length? (first.headD 0)
  let (octets, cursor) ← readOctets? count cursor
  let text ← Utf8.decode? octets
  return (text.toList, cursor)

/-- Whether a character may stand in a tag; within angle brackets a few more may. -/
def isTagChar (verbatim : Bool) (c : Char) : Bool :=
  isWord c || ";/?:@&=+$.%!~*'()".toList.contains c ||
    (verbatim && (c == ',' || c == '[' || c == ']'))

/-- Reads the characters of a tag. -/
def readTagChars? (verbatim : Bool) : (fuel : Nat) → (text : List Char) → Cursor →
    Option (List Char × Cursor)
  | 0, _, _ => none
  | fuel + 1, text, cursor =>
    match cursor.rest with
    | [] => some (text, cursor)
    | c :: _ =>
      if !isTagChar verbatim c then some (text, cursor)
      else if c = '%' then do
        let (chars, cursor) ← readEscapedChar? cursor
        readTagChars? verbatim fuel (text ++ chars) cursor
      else readTagChars? verbatim fuel (text ++ [c]) (cursor.skip 1)

/-- Reads a handle: an exclamation mark, and perhaps word characters with another one behind. -/
def readHandle? (cursor : Cursor) : Option (List Char × Cursor) :=
  if cursor.rest.head? ≠ some '!' then none
  else
    let (name, cursor) := (cursor.skip 1).span isWord
    if cursor.rest.head? = some '!' then some ('!' :: name ++ ['!'], cursor.skip 1)
    else some ('!' :: name, cursor)

/-- Reads the values of a directive with a given name. Other directives are malformed. -/
def readDirectiveValue? (name : List Char) (cursor : Cursor) : Option (Token × Cursor) := do
  let cursor := cursor.skipBlanks
  if name = "YAML".toList then
    let (major, cursor) ← readNumber? cursor
    if cursor.rest.head? ≠ some '.' then none
    let (minor, cursor) ← readNumber? (cursor.skip 1)
    return (.version major minor, cursor)
  else if name = "TAG".toList then
    let (handle, cursor) ← readHandle? cursor
    if handle ≠ ['!'] && handle.getLast? ≠ some '!' then none
    if !(cursor.rest.head?.any isBlank) then none
    let cursor := cursor.skipBlanks
    let (lead, ending) ← readTagChars? true (cursor.rest.length + 1) [] cursor
    if lead.isEmpty || !endsWord ending.rest then none
    return (.tagDirective (String.ofList handle) (String.ofList lead), ending)
  else none

/-- Reads a directive, its percent sign ahead. -/
def readDirective? (scanner : Scanner) : Option Scanner := do
  let scanner ← scanner.leaveBlocks?
  let (name, cursor) := (scanner.cursor.skip 1).span isWord
  if name.isEmpty || !endsWord cursor.rest then none
  let (token, cursor) ← readDirectiveValue? name cursor
  return { scanner.push token with cursor := ← cursor.finishLine? }

/-! ## Properties -/

/-- Whether the front of a text may stand behind the name of an anchor. -/
def endsAnchor (rest : List Char) : Bool :=
  endsWord rest || rest.head?.any fun c => "?:,]\x7d%@`".toList.contains c

/-- Reads the name of an anchor or a reference, its mark ahead. -/
def readAnchor? (scanner : Scanner) (token : String → Token) : Option Scanner := do
  let scanner ← scanner.saveKey?
  let (name, cursor) := (scanner.cursor.skip 1).span isWord
  if name.isEmpty || !endsAnchor cursor.rest then none
  return { scanner.push (token (String.ofList name)) with cursor, keyAllowed := false }

/-- Reads the parts of a tag, its exclamation mark ahead. A tag without a handle is taken as it
is. -/
def readTagParts? (cursor : Cursor) : Option (List Char × List Char × Cursor) := do
  let fuel := cursor.rest.length + 1
  if (cursor.rest.drop 1).head? = some '<' then
    let (text, cursor) ← readTagChars? true fuel [] (cursor.skip 2)
    if text.isEmpty || cursor.rest.head? ≠ some '>' then none
    return ([], text, cursor.skip 1)
  let (handle, cursor) ← readHandle? cursor
  if 1 < handle.length && handle.getLast? = some '!' then
    let (suffix, cursor) ← readTagChars? false fuel [] cursor
    if suffix.isEmpty then none
    return (handle, suffix, cursor)
  let (suffix, cursor) ← readTagChars? false fuel (handle.drop 1) cursor
  return if suffix.isEmpty then ([], ['!'], cursor) else (['!'], suffix, cursor)

def readTag? (scanner : Scanner) : Option Scanner := do
  let scanner ← scanner.saveKey?
  let (handle, suffix, cursor) ← readTagParts? scanner.cursor
  if !endsWord cursor.rest && !(scanner.inFlow && cursor.rest.head? = some ',') then none
  let token := Token.tag (String.ofList handle) (String.ofList suffix)
  return { scanner.push token with cursor, keyAllowed := false }

/-! ## Scalars -/

/-- Reads a block scalar, which is never a key without a mark. -/
def readBlockScalar? (scanner : Scanner) (style : Style) : Option Scanner := do
  let scanner ← scanner.dropKey?
  let (text, cursor) ← readBlock? (style == .folded) scanner.indent (scanner.cursor.skip 1)
  return { scanner.push (.scalar (String.ofList text) style) with cursor, keyAllowed := true }

/-- Reads a quoted scalar, its quote ahead. -/
def readQuotedScalar? (scanner : Scanner) (quote : Char) (style : Style) : Option Scanner := do
  let scanner ← scanner.saveKey?
  let (text, cursor) ←
    readQuoted? quote (scanner.cursor.rest.length + 1) [] (scanner.cursor.skip 1)
  return { scanner.push (.scalar (String.ofList text) style) with cursor, keyAllowed := false }

/-- Reads a plain scalar. If a line ended behind it a key may follow. -/
def readPlainScalar? (scanner : Scanner) : Option Scanner := do
  let scanner ← scanner.saveKey?
  let plain ← readPlain? scanner.inFlow (scanner.indent + 1).toNat
    (scanner.cursor.rest.length + 1) [] .empty scanner.cursor
  return { scanner.push (.scalar (String.ofList plain.text) .plain) with
    cursor := plain.ending
    keyAllowed := plain.lineEnded }

/-- The characters that no plain scalar begins with, unless the last three of them stand before a
word. -/
def marks : List Char := ",[]\x7b\x7d#&*!|>'\"%@`-?:".toList

/-- Whether a plain scalar begins at the front of a text. -/
def beginsPlain (inFlow : Bool) : List Char → Bool
  | [] => false
  | c :: rest =>
    if isBlank c || isBreak c then false
    else if c = '-' then !(rest.head?.any isBlank)
    else if c = '?' || c = ':' then !inFlow && !endsWord rest
    else !marks.contains c

/-! ## Tokens -/

/-- Reads the token ahead, of which `c` is the first character. -/
def readToken? (scanner : Scanner) (c : Char) : Option Scanner :=
  let rest := scanner.cursor.rest.drop 1
  let isMark := scanner.inFlow || endsWord rest
  if scanner.column = 0 && c = '%' then scanner.readDirective?
  else if scanner.cursor.isAtMark '-' then scanner.readDocumentMark? .documentStart
  else if scanner.cursor.isAtMark '.' then scanner.readDocumentMark? .documentEnd
  else if c = '[' then scanner.openFlow? .flowSequenceStart
  else if c = '\x7b' then scanner.openFlow? .flowMappingStart
  else if c = ']' then scanner.closeFlow? .flowSequenceEnd
  else if c = '\x7d' then scanner.closeFlow? .flowMappingEnd
  else if c = ',' then scanner.readFlowEntry?
  else if c = '-' && endsWord rest then scanner.readBlockEntry?
  else if c = '?' && isMark then scanner.readKeyMark?
  else if c = ':' && isMark then scanner.readValueMark?
  else if c = '*' then scanner.readAnchor? .reference
  else if c = '&' then scanner.readAnchor? .anchor
  else if c = '!' then scanner.readTag?
  else if c = '|' && !scanner.inFlow then scanner.readBlockScalar? .literal
  else if c = '>' && !scanner.inFlow then scanner.readBlockScalar? .folded
  else if c = '\'' then scanner.readQuotedScalar? c .singleQuoted
  else if c = '"' then scanner.readQuotedScalar? c .doubleQuoted
  else if beginsPlain scanner.inFlow scanner.cursor.rest then scanner.readPlainScalar?
  else none

/-- Reads all tokens ahead. Fuel counts tokens. -/
def readAll? : (fuel : Nat) → Scanner → Option Scanner
  | 0, _ => none
  | fuel + 1, scanner => do
    let scanner ← (scanner.skipToToken (scanner.cursor.rest.length + 1)).dropStaleKeys?
    let scanner := scanner.closeBlocks scanner.column
    match scanner.cursor.rest with
    | [] => scanner.leaveBlocks?
    | c :: _ => readAll? fuel (← scanner.readToken? c)

end Scanner

namespace Token

/-- Puts insertions before their tokens, `index` tokens having gone before. -/
def weave (insertions : List Insertion) : (index : Nat) → List Token → List Token
  | _, [] => []
  | index, token :: tokens =>
    let here := (insertions.filter fun insertion => insertion.position == index).flatMap (·.tokens)
    here ++ token :: weave insertions (index + 1) tokens

def scan? (text : String) : Option (List Token) := do
  let chars := text.toList
  if !chars.all isAllowed then none
  let scanner ← (Scanner.start chars).readAll? (chars.length + 2)
  return weave scanner.insertions 0 scanner.tokens.toList

end Token

end Yaml
end Possession
