import Terradoc.Function.Basic
import Terradoc.Value.Projection

namespace Terradoc

/-- How many digits after the point a verb may ask for. -/
def mostPlaces : Nat := 64

/-- The precision that digits after a dot ask for; none, or more than a 64-bit word holds, stands
for the default. -/
def precisionOf (digits : List Char) : Option Nat :=
  let value := Number.digitsValue digits
  if digits.isEmpty || Nat.pow 2 64 ≤ value then none else some (min value mostPlaces)

/-- The lower-case hexadecimal digits of a signed 64-bit word, negative ones in two's
complement. -/
def hexWord (value : Int) : String :=
  String.ofList (Nat.toDigits 16 (value % Int.pow 2 64).toNat)

def formatValue (verb : Char) (precision : Option Nat) (value : Value) :
    Except CallFault String :=
  match verb with
  | 's' | 'v' =>
    match value with
    | .list _ | .map _ => .ok value.toJson.compact
    | other => textArgument other
  | 'q' => (textArgument value).map Json.quote
  | 'd' =>
    match value.int? with
    | some whole => .ok (toString whole)
    | none => .error (.verbNeeds 'd' "a whole number")
  | 'f' =>
    match value.float? with
    | some number => .ok (Number.renderFixed (precision.getD 6) number)
    | none => .error (.verbNeeds 'f' "a number")
  | 't' =>
    match value.bool? with
    | some truth => .ok (if truth then "true" else "false")
    | none => .error (.verbNeeds 't' "a bool")
  | 'x' =>
    match value.int? with
    | some whole => .ok (hexWord whole)
    | none => .error (.verbNeeds 'x' "a whole number")
  | other => .error (.unsupportedVerb other)

def nextValue (verb : Char) : List Value → Except CallFault (Value × List Value)
  | [] => .error (.notEnoughArguments verb)
  | value :: rest => .ok (value, rest)

/-- Follows a format; every value goes to the next verb, and two percent signs stand for one. The
budget bounds the number of characters. -/
def formatWithin : Nat → List Char → List Value → Except CallFault (List Char)
  | 0, _, _ | _, [], _ => .ok []
  | _ + 1, ['%'], _ => .error .formatEnd
  | budget + 1, '%' :: '%' :: rest, values => (formatWithin budget rest values).map ('%' :: ·)
  | budget + 1, '%' :: '.' :: rest, values =>
    match rest.dropWhile Char.isDigit with
    | [] => .error .incompleteVerb
    | verb :: after => do
      let (value, values) ← nextValue verb values
      let text ← formatValue verb (precisionOf (rest.takeWhile Char.isDigit)) value
      (formatWithin budget after values).map (text.toList ++ ·)
  | budget + 1, '%' :: verb :: rest, values => do
    let (value, values) ← nextValue verb values
    let text ← formatValue verb none value
    (formatWithin budget rest values).map (text.toList ++ ·)
  | budget + 1, char :: rest, values => (formatWithin budget rest values).map (char :: ·)

def formatText (format : String) (values : List Value) : Except CallFault String :=
  (formatWithin format.length format.toList values).map String.ofList

/-- The arguments of one row: the item of every list at a position, and all else as it is. -/
def formatRow (values : List Value) (position : Nat) : List Value :=
  values.map fun
    | .list items => items.getD position .null
    | other => other

/-- How many rows the longest list asks for; one when there is no list. -/
def rowCount (values : List Value) : Nat :=
  ((values.filterMap Value.list?).map List.length).max?.getD 1

def formatRows (format : String) (values : List Value) : Except CallFault (List Value) :=
  (List.range (rowCount values)).mapM fun position =>
    (formatText format (formatRow values position)).map Value.string

end Terradoc
