import Possession.Device.Error

/-!
# Calls from afar

Operations on the device key can be run by a worker instead of the caller. The caller gets the
result through a callback, waits for it as long as it takes, or waits for a limited time. What a
worker's operation does is done even if nobody waits for the result any more.
-/

namespace Possession

/-- A span of time in microseconds. -/
structure Duration where
  micros : Nat
  deriving DecidableEq, Repr

namespace Duration

def ofSeconds (seconds : Nat) : Duration := ⟨seconds * 1000000⟩

def ofMillis (millis : Nat) : Duration := ⟨millis * 1000⟩

/-- A number in a unit of `10 ^ places` parts, without zeros at the end of its fraction. -/
def inUnit (parts places : Nat) : String :=
  let fraction := Nat.toDigits 10 (Nat.pow 10 places + parts % Nat.pow 10 places) |>.drop 1
  let digits := (fraction.reverse.dropWhile (· == '0')).reverse
  toString (parts / Nat.pow 10 places) ++
    if digits.isEmpty then "" else String.ofList ('.' :: digits)

/-- The text of a span in the largest unit of which it holds one. -/
def text (duration : Duration) : String :=
  if duration.micros = 0 then "0ns"
  else if duration.micros < 1000 then toString duration.micros ++ "µs"
  else if duration.micros < 1000000 then inUnit duration.micros 3 ++ "ms"
  else inUnit duration.micros 6 ++ "s"

end Duration

namespace Gateway

/-- How long a caller waits where nothing else is said. -/
def standardTimeout : Duration := .ofSeconds 30

/-- How an operation is called. -/
inductive CallStyle where
  | direct
  /-- By a worker; the caller waits for a limited time. -/
  | blocking
  /-- By a worker; the caller waits as long as it takes. -/
  | future
  /-- By a worker, who hands on the result. -/
  | callback
  deriving DecidableEq, Repr

/-- What becomes of an operation that never returned. -/
def crashed : DeviceError :=
  .interruptedWait "operation panicked"

/-- What becomes of a wait that took too long. -/
def timedOut (timeout : Duration) : DeviceError :=
  .interruptedWait ("no result after " ++ timeout.text)

/-- What a worker hands on: the result of the operation, or that it never returned. -/
def submitted {α : Type} (result : Option (Except DeviceError α)) : Except DeviceError α :=
  result.getD (.error crashed)

/-- What the caller of an operation gets, given what the operation answers and how long that takes.
There is nothing to get only from an operation that never returns to a caller who ran it himself. -/
def deliver {α : Type} (style : CallStyle) (timeout elapsed : Duration)
    (result : Option (Except DeviceError α)) : Option (Except DeviceError α) :=
  match style with
  | .direct => result
  | .future | .callback => some (submitted result)
  | .blocking =>
    if timeout.micros < elapsed.micros then some (.error (timedOut timeout))
    else some (submitted result)

end Gateway

end Possession
