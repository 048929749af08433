import Possession.Text.Digits
import Possession.Yaml.Cursor

/-!
# Scalars of YAML

Texts in the five styles: plain, in single or double quotes, and the two block styles, literal and
folded. A line break inside a scalar is folded: it becomes a space, and `n` breaks more become `n`
line feeds.

Each reader answers the text of the scalar and the place behind it, or nothing when the scalar is
malformed. Fuel counts characters.
-/

namespace Possession
namespace Yaml

/-- How a scalar is written. -/
inductive Style where
  | plain
  | singleQuoted
  | doubleQuoted
  | literal
  | folded
  deriving DecidableEq, Repr

/-! ## Gaps -/

/-- Blanks and line breaks between two words of a scalar. -/
structure Gap where
  /-- The blanks before the first break. -/
  blanks : List Char
  /-- What the first break stands for. -/
  first : List Char
  /-- What all further breaks stand for. -/
  more : List Char
  broken : Bool
  deriving DecidableEq, Repr

namespace Gap

def empty : Gap := ⟨[], [], [], false⟩

/-- A gap that begins behind a break that stands for nothing. -/
def joined : Gap := ⟨[], [], [], true⟩

/-- What a gap becomes in the text of the scalar. -/
def fold (gap : Gap) : List Char :=
  if !gap.broken then gap.blanks
  else if gap.first = ['\n'] then if gap.more.isEmpty then [' '] else gap.more
  else gap.first ++ gap.more

def addBreak (gap : Gap) (text : List Char) : Gap :=
  if gap.broken then { gap with more := gap.more ++ text }
  else { gap with first := text, broken := true }

/-- Reads the blanks and breaks ahead. At the beginning of a line no tab may stand in a column under
`indent`. -/
def read? (indent : Nat) : (fuel : Nat) → Gap → Cursor → Option (Gap × Cursor)
  | 0, _, _ => none
  | fuel + 1, gap, cursor =>
    match cursor.rest with
    | [] => some (gap, cursor)
    | c :: _ =>
      if isBlank c then
        if gap.broken && cursor.column < indent && c == '\t' then none
        else
          let gap := if gap.broken then gap else { gap with blanks := gap.blanks ++ [c] }
          read? indent fuel gap (cursor.skip 1)
      else if isBreak c then
        let (text, cursor) := cursor.readBreak
        read? indent fuel (gap.addBreak text) cursor
      else some (gap, cursor)

end Gap

/-! ## Plain scalars -/

/-- Whether the front of a text ends a word of a plain scalar. -/
def endsPlainWord (inFlow : Bool) : List Char → Bool
  | [] => true
  | c :: rest =>
    isBlank c || isBreak c || (c == ':' && endsWord rest) || (inFlow && isFlowMark c)

/-- Whether the front of a text is a colon that may not stand in a flow collection. -/
def isStrayColon (inFlow : Bool) : List Char → Bool
  | ':' :: c :: _ => inFlow && (isFlowMark c || c == '?')
  | _ => false

def readPlainWord? (inFlow : Bool) : (fuel : Nat) → Cursor → Option (List Char × Cursor)
  | 0, _ => none
  | fuel + 1, cursor =>
    if !endsWord cursor.rest && isStrayColon inFlow cursor.rest then none
    else if endsPlainWord inFlow cursor.rest then some ([], cursor)
    else do
      let (word, ending) ← readPlainWord? inFlow fuel (cursor.skip 1)
      return (cursor.rest.take 1 ++ word, ending)

/-- A plain scalar with the gap behind it: its text, whether a line ended behind it, and the place
reached. -/
structure PlainScalar where
  text : List Char
  lineEnded : Bool
  ending : Cursor

/-- Reads a plain scalar from one of its words on. Outside flow collections it ends before a line
that is indented by less than `indent`. -/
def readPlain? (inFlow : Bool) (indent : Nat) : (fuel : Nat) → (text : List Char) → Gap → Cursor →
    Option PlainScalar
  | 0, _, _, _ => none
  | fuel + 1, text, gap, cursor =>
    if cursor.isAtDocumentMark || cursor.rest.head? == some '#' then
      some ⟨text, gap.broken, cursor⟩
    else do
      let (word, cursor) ← readPlainWord? inFlow (cursor.rest.length + 1) cursor
      let (text, gap) := if word.isEmpty then (text, gap) else (text ++ gap.fold ++ word, .empty)
      if cursor.rest.isEmpty || !endsWord cursor.rest then
        return ⟨text, gap.broken, cursor⟩
      let (gap, cursor) ← gap.read? indent (cursor.rest.length + 1) cursor
      if !inFlow && cursor.column < indent then return ⟨text, gap.broken, cursor⟩
      readPlain? inFlow indent fuel text gap cursor

/-! ## Quoted scalars -/

/-- What an escape of one letter stands for. -/
def escaped? : Char → Option Char
  | '0' => some '\x00'
  | 'a' => some '\x07'
  | 'b' => some '\x08'
  | 't' => some '\t'
  | '\t' => some '\t'
  | 'n' => some '\n'
  | 'v' => some '\x0b'
  | 'f' => some '\x0c'
  | 'r' => some '\r'
  | 'e' => some '\x1b'
  | ' ' => some ' '
  | '"' => some '"'
  | '/' => some '/'
  | '\\' => some '\\'
  | 'N' => some '\u0085'
  | '_' => some '\u00a0'
  | 'L' => some '\u2028'
  | 'P' => some '\u2029'
  | _ => none

/-- The number of digits of an escape by code point. -/
def codeLength? : Char → Option Nat
  | 'x' => some 2
  | 'u' => some 4
  | 'U' => some 8
  | _ => none

/-- The character of a code point that is no surrogate. -/
def charOfCode? (code : Nat) : Option Char :=
  if (0xD800 ≤ code ∧ code ≤ 0xDFFF) ∨ 0x10FFFF < code then none else some (Char.ofNat code)

/-- Reads the escape of a double-quoted scalar behind its backslash. -/
def readEscape? (cursor : Cursor) : Option (Char × Cursor) :=
  match cursor.rest with
  | [] => none
  | c :: rest =>
    match codeLength? c with
    | none => (escaped? c).map fun meaning => (meaning, cursor.skip 1)
    | some count =>
      let digits := rest.take count
      if digits.length = count then do
        let meaning ← charOfCode? (← Digits.number? 16 digits)
        return (meaning, cursor.skip (count + 1))
      else none

/-- Reads the next word of a quoted scalar. It ends before a blank, a break or the closing quote, or
behind a break that a backslash takes away; the flag tells of the last. -/
def readQuotedWord? (quote : Char) : (fuel : Nat) → (text : List Char) → Cursor →
    Option (List Char × Bool × Cursor)
  | 0, _, _ => none
  | fuel + 1, text, cursor =>
    match cursor.rest with
    | [] => some (text, false, cursor)
    | c :: rest =>
      if endsWord cursor.rest then some (text, false, cursor)
      else if c = quote then
        if quote = '\'' ∧ rest.head? = some quote then
          readQuotedWord? quote fuel (text ++ [quote]) (cursor.skip 2)
        else some (text, false, cursor)
      else if quote = '"' ∧ c = '\\' then
        match rest with
        | [] => none
        | next :: _ =>
          if isBreak next then some (text, true, (cursor.skip 1).readBreak.2)
          else do
            let (meaning, cursor) ← readEscape? (cursor.skip 1)
            readQuotedWord? quote fuel (text ++ [meaning]) cursor
      else readQuotedWord? quote fuel (text ++ [c]) (cursor.skip 1)

/-- Reads a quoted scalar behind its opening quote, from one of its words on. -/
def readQuoted? (quote : Char) : (fuel : Nat) → (text : List Char) → Cursor →
    Option (List Char × Cursor)
  | 0, _, _ => none
  | fuel + 1, text, cursor =>
    if cursor.isAtDocumentMark || cursor.rest.isEmpty then none
    else do
      let (text, joined, cursor) ← readQuotedWord? quote (cursor.rest.length + 1) text cursor
      if cursor.rest.head? = some quote then return (text, cursor.skip 1)
      let gap := if joined then Gap.joined else Gap.empty
      let (gap, cursor) ← gap.read? 0 (cursor.rest.length + 1) cursor
      readQuoted? quote fuel (text ++ gap.fold) cursor

/-! ## Block scalars -/

/-- What happens to the line breaks at the end of a block scalar. -/
inductive Chomping where
  | strip
  | clip
  | keep
  deriving DecidableEq, Repr

/-- The chomping that a character asks for. -/
def Chomping.ofChar? : Char → Option Chomping
  | '+' => some .keep
  | '-' => some .strip
  | _ => none

/-- Reads the indentation of a block scalar's header, if there is one. It is not zero. -/
def readIncrement? (cursor : Cursor) : Option (Nat × Cursor) :=
  match cursor.rest with
  | c :: _ =>
    if c == '0' then none
    else if c.isDigit then some (c.toNat - 48, cursor.skip 1)
    else some (0, cursor)
  | [] => some (0, cursor)

/-- Reads the chomping of a block scalar's header, if there is one. -/
def readChomping (cursor : Cursor) : Option Chomping × Cursor :=
  match cursor.rest.head?.bind Chomping.ofChar? with
  | some chomping => (some chomping, cursor.skip 1)
  | none => (none, cursor)

/-- Reads the header of a block scalar behind its indicator: chomping and indentation in either
order, and nothing but a comment up to the end of the line. -/
def readBlockHeader? (cursor : Cursor) : Option (Chomping × Nat × Cursor) := do
  let (before, cursor) := readChomping cursor
  let (increment, cursor) ← readIncrement? cursor
  let (behind, cursor) := if before.isNone && increment ≠ 0 then readChomping cursor
    else (none, cursor)
  let cursor ← cursor.finishLine?
  return ((before.or behind).getD .clip, increment, cursor)

/-- Reads indentation and empty lines before a line of a block scalar. With no known indentation,
blanks are skipped as far as they go, and the widest line so far is told. -/
def readEmptyLines? (indent : Option Nat) : (fuel : Nat) → (widest : Nat) → (breaks : List Char) →
    Cursor → Option (Nat × List Char × Cursor)
  | 0, _, _, _ => none
  | fuel + 1, widest, breaks, cursor =>
    let blanks := (cursor.rest.takeWhile (· == ' ')).length
    let count :=
      match indent with
      | none => blanks
      | some indent => min blanks (indent - cursor.column)
    let cursor := cursor.skip count
    let widest := max widest cursor.column
    let isShort :=
      match indent with
      | none => true
      | some indent => cursor.column < indent
    match cursor.rest with
    | [] => some (widest, breaks, cursor)
    | c :: _ =>
      if isShort && c == '\t' then none
      else if isBreak c then
        let (text, cursor) := cursor.readBreak
        readEmptyLines? indent fuel widest (breaks ++ text) cursor
      else some (widest, breaks, cursor)

/-- What has been read of a block scalar: its text, the break behind its last line, the breaks of
the empty lines behind that, and whether the last line began with a blank. -/
structure BlockText where
  text : List Char
  lastBreak : List Char
  emptyLines : List Char
  ledByBlank : Bool

/-- The text with its last break, which is folded unless one of the lines around it begins with a
blank. -/
def BlockText.join (block : BlockText) (folded leadsWithBlank : Bool) : List Char :=
  if folded && block.lastBreak == ['\n'] && !block.ledByBlank && !leadsWithBlank then
    block.text ++ (if block.emptyLines.isEmpty then [' '] else []) ++ block.emptyLines
  else block.text ++ block.lastBreak ++ block.emptyLines

/-- The text of a whole block scalar. -/
def BlockText.finish (block : BlockText) : Chomping → List Char
  | .strip => block.text
  | .clip => block.text ++ block.lastBreak
  | .keep => block.text ++ block.lastBreak ++ block.emptyLines

def readBlockLines? (folded : Bool) (indent : Nat) : (fuel : Nat) → BlockText → Cursor →
    Option (BlockText × Cursor)
  | 0, _, _ => none
  | fuel + 1, block, cursor =>
    match cursor.rest with
    | [] => some (block, cursor)
    | c :: _ =>
      if cursor.column ≠ indent then some (block, cursor)
      else do
        let (line, cursor) := cursor.span fun c => !isBreak c
        let (lastBreak, cursor) := cursor.readBreak
        let (_, emptyLines, cursor) ←
          readEmptyLines? (some indent) (cursor.rest.length + 1) 0 [] cursor
        readBlockLines? folded indent fuel
          ⟨block.join folded (isBlank c) ++ line, lastBreak, emptyLines, isBlank c⟩ cursor

/-- Reads a block scalar behind its indicator. `outer` is the indentation around it, minus one
outside every collection. -/
def readBlock? (folded : Bool) (outer : Int) (cursor : Cursor) : Option (List Char × Cursor) := do
  let (chomping, increment, cursor) ← readBlockHeader? cursor
  let fuel := cursor.rest.length + 1
  let known :=
    if increment = 0 then none else some (max outer 0 + Int.ofNat increment).toNat
  let (widest, breaks, cursor) ← readEmptyLines? known fuel 0 [] cursor
  let indent := known.getD (max (max widest (outer + 1).toNat) 1)
  let (block, cursor) ← readBlockLines? folded indent fuel ⟨[], [], breaks, false⟩ cursor
  return (block.finish chomping, cursor)

end Yaml
end Possession
