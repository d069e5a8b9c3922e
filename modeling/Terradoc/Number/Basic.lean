import Terradoc.Number.Shortest

namespace Terradoc

/-- A number. The integers it holds run from `-2 ^ 63` below `2 ^ 64`. -/
inductive Number where
  | int (value : Int)
  | float (value : Float)
deriving Repr, Inhabited

namespace Number

def minWord : Int := -Int.pow 2 63

/-- Largest integer of a signed 64-bit word. -/
def maxWord : Int := Int.pow 2 63 - 1

/-- A finite double as a number: whole doubles in the integer range become integers. -/
def ofFloat? (value : Float) : Option Number :=
  match dyadic? value with
  | none => none
  | some dyadic =>
    match dyadic.toInt? with
    | some whole => if minWord ≤ whole && whole < Int.pow 2 64 then some (int whole) else some (float value)
    | none => some (float value)

def toFloat : Number → Float
  | int value => Float.ofInt value
  | float value => value

def clampWord (value : Int) : Int := max minWord (min maxWord value)

/-- A double without its fraction, cut off at the ends of the signed 64-bit range; the undefined
number counts as zero. -/
def truncated (value : Float) : Int :=
  match dyadic? value with
  | some dyadic =>
    clampWord (if 0 ≤ dyadic.exponent then dyadic.mantissa * Int.pow 2 dyadic.exponent.toNat
      else dyadic.mantissa.tdiv (Int.pow 2 (-dyadic.exponent).toNat))
  | none => if value.isNaN then 0 else if value < 0 then minWord else maxWord

/-- Whole numbers as a signed 64-bit word; what lies outside the word is cut off at its ends. -/
def toInt? : Number → Option Int
  | int value => some (clampWord value)
  | float value => (wholeFloat? value).map clampWord

/-- Numbers of the same kind and value. -/
def same : Number → Number → Bool
  | int left, int right => left == right
  | float left, float right => left == right
  | _, _ => false

def numericallyEqual (left right : Number) : Bool := left.toFloat == right.toFloat

/-- Order of the nearest doubles; numbers without an order count as equal. -/
def order (left right : Number) : Ordering :=
  if left.toFloat < right.toFloat then .lt
  else if right.toFloat < left.toFloat then .gt
  else .eq

/-- The number with the opposite sign. Integers below the word range become doubles. -/
def negate : Number → Number
  | int value => if minWord ≤ -value then int (-value) else float (-Float.ofInt value)
  | float value => float (-value)

/-- Texts inside the language write doubles without a sign before a positive exponent. -/
def plainStyle : FloatStyle := ⟨-5, 15, ""⟩

/-- Documents write doubles with a sign before every exponent. -/
def documentStyle : FloatStyle := ⟨-5, 15, "+"⟩

/-- Text of a number inside the language. -/
def toText : Number → String
  | int value => toString value
  | float value => plainStyle.render value

def toDocumentText : Number → String
  | int value => toString value
  | float value => documentStyle.render value

end Number

end Terradoc
