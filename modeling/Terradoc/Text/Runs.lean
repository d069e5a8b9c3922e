namespace Terradoc.Text

/-- A run of code points from its first on. -/
structure Run where
  first : Nat
  length : Nat
deriving Repr

/-- Value of hexadecimal digits written in lower case. -/
def hexValue (digits : List Char) : Nat :=
  digits.foldl
    (fun value digit =>
      value * 16 + if digit.isDigit then digit.toNat - '0'.toNat else digit.toNat - 'a'.toNat + 10) 0

/-- The words of a text, cut at blanks. -/
def words (text : String) : List (List Char) :=
  let (done, last) := text.toList.foldr
    (fun char (parts : List (List Char) × List Char) =>
      if char == ' ' then (parts.2 :: parts.1, []) else (parts.1, char :: parts.2)) ([], [])
  (last :: done).filter (!·.isEmpty)

/-- Places runs that are given by their distances from one another. -/
def placeRuns : Nat → List Nat → List Run
  | last, gap :: length :: rest => ⟨last + gap, length⟩ :: placeRuns (last + gap + length) rest
  | _, _ => []

/-- Reads runs written as pairs of a gap and a length. -/
def runsOf (text : String) : List Run := placeRuns 0 ((words text).map hexValue)

def Run.holds (run : Run) (char : Char) : Bool :=
  run.first ≤ char.toNat && char.toNat < run.first + run.length

def inRuns (runs : List Run) (char : Char) : Bool := runs.any (Run.holds · char)

end Terradoc.Text
