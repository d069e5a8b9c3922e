import Terradoc.Number.Reading

namespace Terradoc.Calendar

def unitSize? (unit : String) : Option Float :=
  if unit == "ns" then some 1.0
  else if unit == "us" || unit == "µs" then some 1e3
  else if unit == "ms" then some 1e6
  else if unit == "s" then some 1e9
  else if unit == "m" then some 60e9
  else if unit == "h" then some 3600e9
  else none

/-- Whether a character is part of the number before a unit. -/
def isAmount (char : Char) : Bool := char.isDigit || char == '.'

/-- Adds up amounts with units; the budget bounds their number. -/
def sumWithin : Nat → Float → List Char → Option Float
  | _, total, [] => some total
  | 0, _, _ => none
  | budget + 1, total, text => do
    let rest := text.dropWhile isAmount
    if rest.isEmpty then none
    else
      let amount ← Number.parseFloat? (String.ofList (text.takeWhile isAmount))
      let size ← unitSize? (String.ofList (rest.takeWhile (!isAmount ·)))
      sumWithin budget (total + amount * size) (rest.dropWhile (!isAmount ·))

/-- Reads a span in nanoseconds. Fractions of a nanosecond are cut off, and what lies outside the
signed 64-bit range goes to its ends. -/
def parseSpan? (text : String) : Option Int := do
  let (negative, rest) := match text.toList with
    | '-' :: rest => (true, rest)
    | '+' :: rest => (false, rest)
    | rest => (false, rest)
  if rest.isEmpty then none
  else
    let total ← sumWithin rest.length 0.0 rest
    some (Number.truncated (if negative then -total else total))

end Terradoc.Calendar
