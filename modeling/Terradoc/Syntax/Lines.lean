import Terradoc.Syntax.Expr

namespace Terradoc

/-- Where a number stands among sorted ones: at a position, or not there but to be put at a position. -/
inductive Standing where
  | present (position : Nat)
  | absent (position : Nat)
deriving DecidableEq, Repr

/-- Halves a window of sorted numbers until one position is left: the last of a number that is not above
the sought one, or the first position when all are above. -/
def narrow (numbers : Array Nat) (sought first size : Nat) (within : first + size ≤ numbers.size) : Nat :=
  if small : size ≤ 1 then first
  else
    have inside : first + size / 2 < numbers.size := by omega
    if sought < numbers[first + size / 2] then
      narrow numbers sought first (size - size / 2) (by omega)
    else narrow numbers sought (first + size / 2) (size - size / 2) (by omega)
termination_by size

/-- Binary search among sorted numbers. -/
def binarySearch (numbers : Array Nat) (sought : Nat) : Standing :=
  let position := narrow numbers sought 0 numbers.size (by omega)
  if inside : position < numbers.size then
    if numbers[position] = sought then .present position
    else if numbers[position] < sought then .absent (position + 1)
    else .absent position
  else .absent position

/-- Places where the lines of a text start. -/
structure LineIndex where
  starts : Array Nat
deriving Repr

namespace LineIndex

/-- Places after the newlines of a text that starts at a place. -/
def startsFrom (place : Nat) : List Char → List Nat
  | [] => []
  | char :: rest =>
    let next := place + char.utf8Size
    if char == '\n' then next :: startsFrom next rest else startsFrom next rest

def ofText (text : List Char) : LineIndex := ⟨(0 :: startsFrom 0 text).toArray⟩

/-- The line that holds a place, counted from one: the one that starts there, or the one before the start
that comes next. -/
def lineOf (index : LineIndex) (place : Nat) : Nat :=
  match binarySearch index.starts place with
  | .present position => position + 1
  | .absent position => position

/-- Lines of the first and the last byte between two places. -/
def range (index : LineIndex) (start stop : Nat) : LineRange :=
  ⟨index.lineOf start, index.lineOf (max (stop - 1) start)⟩

end LineIndex

/-- How many bytes characters take up. -/
def byteLength (text : List Char) : Nat := text.foldl (fun size char => size + char.utf8Size) 0

end Terradoc
