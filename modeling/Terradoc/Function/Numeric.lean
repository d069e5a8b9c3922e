import Terradoc.Function.Basic

namespace Terradoc.Functions

def onFloat (run : Float → Value) : Function :=
  ⟨[.number], none, false, fun (value, ()) => (floatArgument 0 value).map run⟩

/-- Doubles of number arguments from a position on. -/
def floatArguments : Nat → List (Option Number) → Except CallFault (List Float)
  | _, [] => .ok []
  | index, value :: rest => do
    let first ← floatArgument index value
    let others ← floatArguments (index + 1) rest
    .ok (first :: others)

/-- A function that picks one of several doubles. -/
def picking (better : Float → Float → Float) : Function :=
  ⟨[.number], some .number, false, fun (first, rest) => do
    let first ← floatArgument 0 first
    let others ← floatArguments 1 rest
    .ok (.ofFloat (others.foldl better first))⟩

def signOf (value : Float) : Int := if 0.0 < value then 1 else if value < 0.0 then -1 else 0

/-- Reads an integer in a base from two to thirty-six. -/
def integerIn (text : String) (base : Int) : Except CallFault Value :=
  if base < 2 || 36 < base then .error (.baseOutOfRange base)
  else match Number.parseInteger base.toNat text with
    | .ok value => .ok (.ofInt value)
    | .error cause => .error (.badInteger text base cause)

/-- Functions on numbers by name. -/
def numericFunctions : Entries Function := [
  ("min", picking fun left right => if right < left then right else left),
  ("max", picking fun left right => if left < right then right else left),
  ("abs", onFloat fun value => .ofFloat value.abs),
  ("ceil", onFloat fun value => .ofFloat value.ceil),
  ("floor", onFloat fun value => .ofFloat value.floor),
  ("pow", ⟨[.number, .number], none, false, fun (base, exponent, ()) => do
    .ok (.ofFloat ((← floatArgument 0 base).pow (← floatArgument 1 exponent)))⟩),
  ("signum", onFloat fun value => .ofInt (signOf value)),
  ("parseint", ⟨[.text, .number], none, false, fun (text, base, ()) => do
    integerIn text (← wholeArgument 1 base)⟩)]

end Terradoc.Functions
