import Possession.Digest.Padding

/-!
# The hash family

A message is padded to whole blocks of sixteen words, each block is expanded to one word for each
round, and each of those is mixed into eight words of state. What a member of the family has of its
own is the size of its words, how far it moves them, and the constants of its rounds.
-/

namespace Possession
namespace Digest

/-! ## Words -/

/-- A word of `size` octets. -/
abbrev Word (size : Nat) := BitVec (8 * size)

variable {size : Nat}

namespace Word

/-- The word that octets denote, most significant first. -/
def ofBytes (bytes : Bytes) : Word size :=
  .ofNat _ (Bytes.toNat bytes)

/-- The octets of a word, most significant first. -/
def bytes (word : Word size) : Bytes :=
  Bytes.ofNatPadded size word.toNat

end Word

/-- Three amounts by which a word is moved to its right. -/
structure Amounts where
  first : Nat
  second : Nat
  third : Nat

namespace Amounts

/-- A word rotated by each of the amounts. -/
def rotate (amounts : Amounts) (word : Word size) : Word size :=
  word.rotateRight amounts.first ^^^ word.rotateRight amounts.second ^^^
    word.rotateRight amounts.third

/-- A word rotated by two of the amounts and shifted by the last. -/
def shift (amounts : Amounts) (word : Word size) : Word size :=
  word.rotateRight amounts.first ^^^ word.rotateRight amounts.second ^^^ (word >>> amounts.third)

end Amounts

/-- Eight words. -/
structure State (size : Nat) where
  a : Word size
  b : Word size
  c : Word size
  d : Word size
  e : Word size
  f : Word size
  g : Word size
  h : Word size

namespace State

def add (state other : State size) : State size :=
  ⟨state.a + other.a, state.b + other.b, state.c + other.c, state.d + other.d,
    state.e + other.e, state.f + other.f, state.g + other.g, state.h + other.h⟩

def bytes (state : State size) : Bytes :=
  [state.a, state.b, state.c, state.d, state.e, state.f, state.g, state.h].flatMap Word.bytes

end State

/-! ## Members -/

/-- What a member of the family has of its own. -/
structure Family (size : Nat) where
  small0 : Amounts
  small1 : Amounts
  large0 : Amounts
  large1 : Amounts
  /-- One word for each round. -/
  constants : List (Word size)

namespace Family

variable (family : Family size)

/-- The next word of a schedule, from the words before it, the last one first. -/
def nextWord (words : List (Word size)) : Word size :=
  let at16 := words.getD 15 0
  let at15 := words.getD 14 0
  let at7 := words.getD 6 0
  let at2 := words.getD 1 0
  at16 + family.small0.shift at15 + at7 + family.small1.shift at2

/-- Words with `count` more of a schedule behind them, the last one first. -/
def extend : (count : Nat) → (words : List (Word size)) → List (Word size)
  | 0, words => words
  | count + 1, words => extend count (family.nextWord words :: words)

/-- The words that a block of sixteen is expanded to. -/
def schedule (block : List (Word size)) : List (Word size) :=
  (family.extend (family.constants.length - 16) block.reverse).reverse

/-- The state after a round, in which a constant and a word of the schedule are mixed in. -/
def round (state : State size) (input : Word size × Word size) : State size :=
  let ⟨a, b, c, d, e, f, g, h⟩ := state
  let choice := (e &&& f) ^^^ ((~~~e) &&& g)
  let first := h + family.large1.rotate e + choice + input.1 + input.2
  let majority := (a &&& b) ^^^ (a &&& c) ^^^ (b &&& c)
  ⟨first + (family.large0.rotate a + majority), a, b, c, d + first, e, f, g⟩

/-- The state after a block. -/
def compress (state : State size) (block : Bytes) : State size :=
  let words := family.schedule ((chunks size block).map Word.ofBytes)
  state.add ((family.constants.zip words).foldl family.round state)

/-- The octets of the state after all blocks of a message. -/
def digest (initial : State size) (message : Bytes) : Bytes :=
  ((chunks (16 * size) (pad (16 * size) (2 * size) message)).foldl family.compress initial).bytes

end Family
end Digest
end Possession
