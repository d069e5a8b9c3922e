import Terradoc.Entries
import Terradoc.Eval.Error
import Terradoc.Text.Letter

namespace Terradoc

/-- What an accepted argument of a parameter holds. A number is missing when it was given as text
for an infinity or the undefined number. -/
def Param.Carrier : Param → Type
  | any => Value
  | text => String
  | number => Option Number
  | bool => Bool
  | list => List Value
  | map => Entries Value

/-- Accepts an argument, with the conversions between texts, numbers and truth values that hold
without being asked for. -/
def Param.accept (param : Param) (index : Nat) (value : Value) : Except CallFault param.Carrier :=
  match param, value with
  | .any, value => .ok value
  | _, .null => .error (.nullArgument index)
  | .text, .string value => .ok value
  | .text, .number value => .ok value.toText
  | .text, .bool value => .ok (if value then "true" else "false")
  | .number, .number value => .ok (some value)
  | .number, .string written =>
    match Number.parseFloat? (Text.trim written) with
    | some value => .ok (Number.ofFloat? value)
    | none => .error (.argumentText index written)
  | .bool, .bool value => .ok value
  | .bool, .string written =>
    if written == "true" then .ok true
    else if written == "false" then .ok false
    else .error (.mismatch index .bool "string")
  | .list, .list items => .ok items
  | .map, .map entries => .ok entries
  | param, value => .error (.mismatch index param value.typeName)

/-- Accepts the arguments of a parameter that takes any number of them. -/
def Param.acceptAll (param : Param) (index : Nat) :
    List Value → Except CallFault (List param.Carrier)
  | [] => .ok []
  | value :: rest => do
    let first ← param.accept index value
    let others ← param.acceptAll (index + 1) rest
    .ok (first :: others)

/-- Accepted arguments: one for each parameter, then those of the last one if it takes more. -/
def Arguments : List Param → Option Param → Type
  | [], none => Unit
  | [], some param => List param.Carrier
  | param :: params, more => param.Carrier × Arguments params more

def Arguments.accept (more : Option Param) :
    (params : List Param) → Nat → List Value → Except CallFault (Arguments params more)
  | [], index, values =>
    match more with
    | none => if values.isEmpty then .ok () else .error (.arity index (index + values.length) false)
    | some param => param.acceptAll index values
  | _ :: _, index, [] => .error (.arity (index + 1) index more.isSome)
  | param :: params, index, value :: rest => do
    let first ← param.accept index value
    let others ← Arguments.accept more params (index + 1) rest
    .ok (first, others)

/-- A function. One that is tolerant takes collections that hold unknowns; only an argument that is
unknown as a whole keeps it from running. -/
structure Function where
  params : List Param
  more : Option Param
  tolerant : Bool
  body : Arguments params more → Except CallFault Value

namespace Function

/-- Whether a function takes so many arguments. -/
def takes (function : Function) (count : Nat) : Bool :=
  function.params.length ≤ count && (function.more.isSome || count ≤ function.params.length)

/-- The unknown that a call gives instead of running. -/
def blocking? (function : Function) (values : List Value) : Option Unknown :=
  if function.tolerant then values.findSome? Value.unknown?
  else values.findSome? Value.firstUnknown?

/-- Calls a function: counts the arguments, looks for unknowns, accepts the arguments and runs. -/
def call (function : Function) (values : List Value) : Except CallFault Value :=
  if !function.takes values.length then
    .error (.arity function.params.length values.length function.more.isSome)
  else match function.blocking? values with
    | some marker => .ok (.unknown marker)
    | none => (Arguments.accept function.more function.params 0 values).bind function.body

end Function

def floatArgument (index : Nat) (value : Option Number) : Except CallFault Float :=
  match value with
  | some value => .ok value.toFloat
  | none => .error (.notFinite index)

def wholeArgument (index : Nat) (value : Option Number) : Except CallFault Int :=
  match value.bind Number.toInt? with
  | some whole => .ok whole
  | none => .error (.notWhole index)

def textArgument (value : Value) : Except CallFault String :=
  match value.toText with
  | .ok text => .ok text
  | .error cause => .error (.conversion cause)

end Terradoc
