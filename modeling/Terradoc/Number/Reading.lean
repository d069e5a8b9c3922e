import Terradoc.Number.Basic

namespace Terradoc.Number

/-- A decimal numeral cut into its parts. -/
structure Numeral where
  whole : List Char
  fraction : List Char
  exponent : Int
deriving Repr

/-- The value of a run of decimal digits. -/
def digitsValue (digits : List Char) : Nat :=
  digits.foldl (fun value digit => value * 10 + (digit.toNat - '0'.toNat)) 0

/-- An optional exponent mark with its signed digits at the end of a numeral. -/
def exponent? : List Char → Option Int
  | [] => some 0
  | mark :: rest =>
    if mark != 'e' && mark != 'E' then none
    else
      let (negative, digits) := match rest with
        | '-' :: digits => (true, digits)
        | '+' :: digits => (false, digits)
        | digits => (false, digits)
      if digits.isEmpty || !digits.all Char.isDigit then none
      else
        let size : Int := digitsValue digits
        some (if negative then -size else size)

/-- An unsigned numeral: digits around an optional point, at least one of them, then an exponent. -/
def numeral? (text : List Char) : Option Numeral :=
  let whole := text.takeWhile Char.isDigit
  let rest := text.dropWhile Char.isDigit
  let (fraction, rest) := match rest with
    | '.' :: rest => (rest.takeWhile Char.isDigit, rest.dropWhile Char.isDigit)
    | rest => ([], rest)
  if whole.isEmpty && fraction.isEmpty then none
  else (exponent? rest).map fun exponent => ⟨whole, fraction, exponent⟩

/-- The double nearest to `digits * 10 ^ exponent`. Far outside the range the result is settled
without computing the power. -/
def nearestFloat (digits : Nat) (exponent : Int) : Float :=
  let magnitude : Int := exponent + (digitsOf digits).length
  if digits = 0 then 0.0
  else if 400 < magnitude then 1.0 / 0.0
  else if magnitude < -400 then 0.0
  else Float.ofScientific digits (exponent < 0) exponent.natAbs

def Numeral.toFloat (numeral : Numeral) : Float :=
  nearestFloat (digitsValue (numeral.whole ++ numeral.fraction))
    (numeral.exponent - numeral.fraction.length)

/-- Reads a signed decimal, `inf`, `infinity` or `nan` in any letter case. -/
def parseFloat? (text : String) : Option Float :=
  let (negative, body) := match text.toList with
    | '-' :: rest => (true, rest)
    | '+' :: rest => (false, rest)
    | rest => (false, rest)
  let word := String.ofList (body.map Char.toLower)
  let magnitude :=
    if word == "inf" || word == "infinity" then some (1.0 / 0.0)
    else if word == "nan" then some (0.0 / 0.0)
    else (numeral? body).map Numeral.toFloat
  magnitude.map fun value => if negative then -value else value

/-- Why a text is not an integer of the signed 64-bit range. -/
inductive IntegerFault where
  | empty
  | badDigit
  | tooLarge
  | tooSmall
deriving DecidableEq, Repr

def IntegerFault.message : IntegerFault → String
  | empty => "cannot parse integer from empty string"
  | badDigit => "invalid digit found in string"
  | tooLarge => "number too large to fit in target type"
  | tooSmall => "number too small to fit in target type"

def digitIn? (base : Nat) (digit : Char) : Option Nat :=
  let value :=
    if digit.isDigit then some (digit.toNat - '0'.toNat)
    else if 'a' ≤ digit && digit ≤ 'z' then some (digit.toNat - 'a'.toNat + 10)
    else if 'A' ≤ digit && digit ≤ 'Z' then some (digit.toNat - 'A'.toNat + 10)
    else none
  value.filter (· < base)

/-- Reads digits from the left and stops at the first that is not one, or at the one that leaves
the range; whichever comes first is the fault. -/
def readDigits (base : Nat) (negative : Bool) : Int → List Char → Except IntegerFault Int
  | value, [] => .ok value
  | value, digit :: rest =>
    match digitIn? base digit with
    | none => .error .badDigit
    | some size =>
      let next := if negative then value * base - size else value * base + size
      if next < minWord then .error .tooSmall
      else if maxWord < next then .error .tooLarge
      else readDigits base negative next rest

def parseInteger (base : Nat) (text : String) : Except IntegerFault Int :=
  match text.toList with
  | [] => .error .empty
  | ['-'] | ['+'] => .error .badDigit
  | '-' :: digits => readDigits base true 0 digits
  | '+' :: digits => readDigits base false 0 digits
  | digits => readDigits base false 0 digits

end Terradoc.Number
