import Terradoc.Number.Binary

namespace Terradoc.Number

/-- Decimal digits and the power of ten of the last one. -/
structure Decimal where
  digits : Nat
  exponent : Int
deriving DecidableEq, Repr

/-- The reals that round to a double: bounds over one denominator, closed when the mantissa is even. -/
structure RoundingInterval where
  low : Nat
  value : Nat
  high : Nat
  denominator : Nat
  closed : Bool

/-- The rounding interval of the positive double `mantissa * 2 ^ exponent`. Below a power of two
the neighbours are twice as dense. -/
def RoundingInterval.of (mantissa : Nat) (exponent : Int) : RoundingInterval :=
  let down := if mantissa = Nat.pow 2 52 && -1074 < exponent then 1 else 2
  let scale := Nat.pow 2 exponent.toNat
  { low := (4 * mantissa - down) * scale
    value := 4 * mantissa * scale
    high := (4 * mantissa + 2) * scale
    denominator := 4 * Nat.pow 2 (-exponent).toNat
    closed := mantissa % 2 = 0 }

/-- Whether `digits * 10 ^ exponent` rounds to the double. -/
def RoundingInterval.holds (interval : RoundingInterval) (decimal : Decimal) : Bool :=
  let point := decimal.digits * Nat.pow 10 decimal.exponent.toNat * interval.denominator
  let scale := Nat.pow 10 (-decimal.exponent).toNat
  if interval.closed then interval.low * scale ≤ point && point ≤ interval.high * scale
  else interval.low * scale < point && point < interval.high * scale

/-- The place of the first digit of `value / denominator`. -/
def RoundingInterval.leading (interval : RoundingInterval) : Int :=
  let estimate : Int := ((interval.value.log2 : Int) - interval.denominator.log2 - 1) * 30103 / 100000 - 1
  let reaches (place : Int) : Bool :=
    Nat.pow 10 place.toNat * interval.denominator ≤ interval.value * Nat.pow 10 (-place).toNat
  ([estimate + 3, estimate + 2, estimate + 1].find? reaches).getD estimate

/-- The two neighbours of the value on the grid of `10 ^ place`, and which of them is nearer. -/
def RoundingInterval.onGrid? (interval : RoundingInterval) (place : Int) : Option Decimal :=
  let numerator := interval.value * Nat.pow 10 (-place).toNat
  let denominator := interval.denominator * Nat.pow 10 place.toNat
  let below : Decimal := ⟨numerator / denominator, place⟩
  let above : Decimal := ⟨numerator / denominator + 1, place⟩
  let rest := numerator % denominator
  let nearer :=
    if 2 * rest < denominator then below
    else if denominator < 2 * rest then above
    else if below.digits % 2 = 0 then below else above
  let other := if nearer = below then above else below
  if interval.holds nearer then some nearer
  else if interval.holds other then some other
  else none

/-- The decimal with the fewest digits that reads back as the positive double, nearest first. -/
def RoundingInterval.shortest (interval : RoundingInterval) : Decimal :=
  let places := (List.range 17).map fun (count : Nat) => interval.leading - (count : Int)
  (places.findSome? interval.onGrid?).getD ⟨interval.value / interval.denominator, 0⟩

structure FloatStyle where
  /-- Scientific exponents written positionally. -/
  positionalFrom : Int
  positionalTo : Int
  /-- Written before a non-negative exponent. -/
  plus : String
deriving Repr

def digitsOf (value : Nat) : List Char := Nat.toDigits 10 value

/-- Text of a positive decimal whose digits carry no trailing zeros. -/
def FloatStyle.renderDecimal (style : FloatStyle) (decimal : Decimal) : String :=
  let digits := digitsOf decimal.digits
  let scientific : Int := decimal.exponent + digits.length - 1
  if style.positionalFrom ≤ scientific && scientific ≤ style.positionalTo then
    if 0 ≤ decimal.exponent then
      String.ofList (digits ++ List.replicate decimal.exponent.toNat '0' ++ ['.', '0'])
    else if 0 ≤ scientific then
      String.ofList (digits.take (scientific.toNat + 1) ++ '.' :: digits.drop (scientific.toNat + 1))
    else
      String.ofList (['0', '.'] ++ List.replicate (-scientific - 1).toNat '0' ++ digits)
  else
    let mantissa := match digits with
      | [] => "0"
      | [digit] => String.ofList [digit]
      | digit :: rest => String.ofList (digit :: '.' :: rest)
    let sign := if scientific < 0 then "-" else style.plus
    mantissa ++ "e" ++ sign ++ toString scientific.natAbs

/-- Drops the trailing zeros of a decimal. -/
def Decimal.trim (decimal : Decimal) : Decimal :=
  let digits := (digitsOf decimal.digits).reverse
  let zeros := (digits.takeWhile (· == '0')).length
  if decimal.digits = 0 then ⟨0, 0⟩ else ⟨decimal.digits / Nat.pow 10 zeros, decimal.exponent + zeros⟩

/-- Shortest text of a finite double that reads back as it. -/
def FloatStyle.render (style : FloatStyle) (value : Float) : String :=
  match dyadic? value with
  | none => ""
  | some ⟨mantissa, exponent⟩ =>
    let sign := if value.toBits.toNat / Nat.pow 2 63 = 0 then "" else "-"
    if mantissa = 0 then sign ++ "0.0"
    else sign ++ style.renderDecimal (RoundingInterval.of mantissa.natAbs exponent).shortest.trim

/-- `numerator / denominator` rounded to a whole number, a half to the even neighbour. -/
def roundHalfEven (numerator denominator : Nat) : Nat :=
  let quotient := numerator / denominator
  let twice := 2 * (numerator % denominator)
  if twice < denominator then quotient
  else if denominator < twice then quotient + 1
  else if quotient % 2 = 0 then quotient else quotient + 1

/-- Text of a finite double with exactly `places` digits after the point. -/
def renderFixed (places : Nat) (value : Float) : String :=
  match dyadic? value with
  | none => if value.isNaN then "NaN" else if value < 0 then "-inf" else "inf"
  | some ⟨mantissa, exponent⟩ =>
    let sign := if value.toBits.toNat / Nat.pow 2 63 = 0 then "" else "-"
    let scaled := roundHalfEven (mantissa.natAbs * Nat.pow 2 exponent.toNat * Nat.pow 10 places)
      (Nat.pow 2 (-exponent).toNat)
    let whole := toString (scaled / Nat.pow 10 places)
    let fraction := digitsOf (scaled % Nat.pow 10 places)
    if places = 0 then sign ++ whole
    else
      sign ++ whole ++ "." ++
        String.ofList (List.replicate (places - fraction.length) '0' ++ fraction)

end Terradoc.Number
