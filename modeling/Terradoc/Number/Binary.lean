namespace Terradoc.Number

/-- The number `mantissa * 2 ^ exponent`. -/
structure Dyadic where
  mantissa : Int
  exponent : Int
deriving DecidableEq, Repr

namespace Dyadic

/-- The mantissas of two dyadics over their smaller exponent. -/
def align (left right : Dyadic) : Int × Int × Int :=
  let exponent := min left.exponent right.exponent
  (left.mantissa * Int.pow 2 (left.exponent - exponent).toNat,
    right.mantissa * Int.pow 2 (right.exponent - exponent).toNat, exponent)

/-- The integer a dyadic is equal to, when there is one. -/
def toInt? (value : Dyadic) : Option Int :=
  if 0 ≤ value.exponent then some (value.mantissa * Int.pow 2 value.exponent.toNat)
  else
    let scale : Int := Int.pow 2 (-value.exponent).toNat
    if value.mantissa % scale = 0 then some (value.mantissa / scale) else none

end Dyadic

/-- The exact value of a finite double; infinities and the undefined number have none. -/
def dyadic? (value : Float) : Option Dyadic :=
  let bits : Nat := value.toBits.toNat
  let fraction : Nat := bits % Nat.pow 2 52
  let exponent : Nat := bits / Nat.pow 2 52 % Nat.pow 2 11
  let sign : Int := if bits / Nat.pow 2 63 = 0 then 1 else -1
  if exponent = 2047 then none
  else if exponent = 0 then some ⟨sign * fraction, -1074⟩
  else some ⟨sign * ((fraction + Nat.pow 2 52 : Nat) : Int), (exponent : Int) - 1075⟩

/-- The integer a double is equal to, when there is one. -/
def wholeFloat? (value : Float) : Option Int :=
  (dyadic? value).bind Dyadic.toInt?

/-- A double from a dyadic that a double can hold. -/
def ofDyadic (value : Dyadic) : Float :=
  (Float.ofInt value.mantissa).scaleB value.exponent

/-- The remainder of the division truncated toward zero; it has the sign of the dividend. -/
def remainder (dividend divisor : Float) : Float :=
  match dyadic? dividend, dyadic? divisor with
  | some left, some right =>
    let (l, r, exponent) := left.align right
    if r = 0 then 0.0 / 0.0
    else
      let result := ofDyadic ⟨l.tmod r, exponent⟩
      if l.tmod r = 0 && dividend < 0 then -0.0 else result
  | some _, none => if divisor.isNaN then divisor else dividend
  | none, _ => 0.0 / 0.0

end Terradoc.Number
