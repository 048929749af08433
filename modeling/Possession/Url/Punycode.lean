/-!
# Punycode

The ASCII form of labels: the ASCII characters in front, and behind a hyphen the places and values
of the others, as differences in a base-36 notation with variable digit weights whose thresholds
adapt to the size of the differences.

Each loop has a measure: the difference is divided, and reading goes through the digits once.
-/

namespace Possession
namespace Url
namespace Punycode

/-! ## Notation -/

def digit (value : Nat) : Char :=
  if value < 26 then Char.ofNat (97 + value) else Char.ofNat (22 + value)

/-- The value of a letter of either case or a digit. -/
def value? (c : Char) : Option Nat :=
  if 'a' ≤ c ∧ c ≤ 'z' then some (c.toNat - 97)
  else if 'A' ≤ c ∧ c ≤ 'Z' then some (c.toNat - 65)
  else if '0' ≤ c ∧ c ≤ '9' then some (c.toNat - 22)
  else none

/-- The threshold at a position: digits under it end a number. -/
def threshold (position bias : Nat) : Nat :=
  if position ≤ bias then 1 else if bias + 26 ≤ position then 26 else position - bias

/-- Divides a difference until it is small and counts positions. -/
def shrink (delta position : Nat) : Nat × Nat :=
  if 455 < delta then shrink (delta / 35) (position + 36) else (delta, position)
termination_by delta
decreasing_by omega

/-- The bias after a difference, with `count` characters placed so far. -/
def adapt (delta count : Nat) (first : Bool) : Nat :=
  let damped := if first then delta / 700 else delta / 2
  let (delta, position) := shrink (damped + damped / count) 0
  position + 36 * delta / (delta + 38)

def firstCode : Nat := 128

def initialBias : Nat := 72

/-! ## Writing -/

/-- Threshold digits always leave a base of at least ten. -/
theorem threshold_le (position bias : Nat) : threshold position bias ≤ 26 := by
  unfold threshold
  split
  · omega
  · split <;> omega

/-- Thresholds are positive. -/
theorem threshold_pos (position bias : Nat) : 0 < threshold position bias := by
  unfold threshold
  split
  · omega
  · split <;> omega

/-- The digits of a difference, from a position on. -/
def writeNumber (bias position number : Nat) : List Char :=
  let bound := threshold position bias
  if h : number < bound then [digit number]
  else
    digit (bound + (number - bound) % (36 - bound)) ::
      writeNumber bias (position + 36) ((number - bound) / (36 - bound))
termination_by number
decreasing_by
  have low := threshold_pos position bias
  have high := threshold_le position bias
  have : (number - threshold position bias) / (36 - threshold position bias) ≤
      number - threshold position bias := Nat.div_le_self _ _
  omega

/-- What writing keeps: the digits so far, the difference, the bias and the number of characters
placed. -/
structure Writing where
  digits : List Char
  delta : Nat
  bias : Nat
  placed : Nat

/-- Passes a character of the label while the code point `code` is being placed. `start` is the
number of ASCII characters. -/
def Writing.pass (start code : Nat) (state : Writing) (other : Nat) : Writing :=
  if other < code then { state with delta := state.delta + 1 }
  else if other = code then
    { digits := state.digits ++ writeNumber state.bias 36 state.delta
      delta := 0
      bias := adapt state.delta (state.placed + 1) (state.placed == start)
      placed := state.placed + 1 }
  else state

/-- Places all characters with the code point `code`, the next one after `previous`. -/
def Writing.place (label : List Nat) (start : Nat) (state : Writing) (previous code : Nat) :
    Writing :=
  let ahead := { state with delta := state.delta + (code - previous) * (state.placed + 1) }
  let done := label.foldl (Writing.pass start code) ahead
  { done with delta := done.delta + 1 }

/-- Places all characters, code point by code point. -/
def placeAll (label : List Nat) (start : Nat) : Writing → (next : Nat) → List Nat → Writing
  | state, _, [] => state
  | state, next, code :: codes =>
    placeAll label start (state.place label start next code) (code + 1) codes

def encode (label : List Nat) : List Char :=
  let basic := label.filter (· < firstCode)
  let others := ((label.filter (firstCode ≤ ·)).mergeSort).eraseReps
  let front := basic.map Char.ofNat ++ if basic.isEmpty then [] else ['-']
  let state := placeAll label basic.length ⟨[], 0, initialBias, basic.length⟩ firstCode others
  front ++ state.digits

/-! ## Reading -/

/-- What reading keeps: the characters so far, the code point and place of the next one, the place
where the number being read began, and the weight and position of its next digit. -/
structure Reading where
  label : List Nat
  code : Nat
  place : Nat
  began : Nat
  bias : Nat
  weight : Nat
  position : Nat

/-- Reads digits until they end. A code point beyond Unicode, a surrogate, or a number that breaks
off is refused. -/
def readDigits (state : Reading) : List Char → Option (List Nat)
  | [] => if state.weight = 1 ∧ state.position = 36 then some state.label else none
  | c :: rest =>
    match value? c with
    | none => none
    | some value =>
      let place := state.place + value * state.weight
      let bound := threshold state.position state.bias
      if value < bound then
        let count := state.label.length + 1
        let code := state.code + place / count
        if 0x110000 ≤ code ∨ (0xD800 ≤ code ∧ code < 0xE000) then none
        else
          let index := place % count
          readDigits
            { label := state.label.take index ++ code :: state.label.drop index
              code := code
              place := index + 1
              began := index + 1
              bias := adapt (place - state.began) count (state.began == 0)
              weight := 1
              position := 36 } rest
      else if 0x1_0000_0000 ≤ place then none
      else
        readDigits { state with
          place := place
          weight := state.weight * (36 - bound)
          position := state.position + 36 } rest

def decode? (text : List Char) : Option (List Nat) :=
  let reversed := text.reverse
  let tail := (reversed.takeWhile (· != '-')).reverse
  let front := (reversed.drop (tail.length + 1)).reverse
  if front.all (fun c => c.toNat < firstCode) then
    readDigits ⟨front.map Char.toNat, firstCode, 0, 0, initialBias, 1, 36⟩ tail
  else none

end Punycode
end Url
end Possession
