import Terradoc.Function.Basic
import Terradoc.Json.Parser
import Terradoc.Value.Order

namespace Terradoc.Functions

def onValue (tolerant : Bool) (run : Value → Except CallFault Value) : Function :=
  ⟨[.any], none, tolerant, fun (value, ()) => run value⟩

def toText : Value → Except CallFault Value
  | .null => .ok .null
  | other => (textArgument other).map Value.string

def toNumber : Value → Except CallFault Value
  | .null => .ok .null
  | .number value => .ok (.number value)
  | .string text =>
    match Number.parseFloat? (Text.trim text) with
    | some value => .ok (.ofFloat value)
    | none => .error (.textToNumber text)
  | other => .error (.noConversion other.typeName "number")

def toBool : Value → Except CallFault Value
  | .null => .ok .null
  | .bool value => .ok (.bool value)
  | .string text =>
    if text == "true" then .ok (.bool true)
    else if text == "false" then .ok (.bool false)
    else .error (.toBool text)
  | other => .error (.toBool other.display)

def toList : Value → Except CallFault Value
  | .list items => .ok (.list items)
  | .null => .ok .null
  | other => .error (.noConversion other.typeName "list")

def toSet : Value → Except CallFault Value
  | .list items => .ok (.list (Value.toSet items))
  | .null => .ok .null
  | other => .error (.noConversion other.typeName "set")

def toMap : Value → Except CallFault Value
  | .map entries => .ok (.map entries)
  | .null => .ok .null
  | other => .error (.noConversion other.typeName "map")

def conversionFunctions : Entries Function := [
  ("tostring", onValue false toText),
  ("tonumber", onValue false toNumber),
  ("tobool", onValue false toBool),
  ("tolist", onValue true toList),
  ("toset", onValue true toSet),
  ("tomap", onValue true toMap),
  ("jsonencode", onValue false fun value => .ok (.string value.toJson.compact)),
  ("jsondecode", ⟨[.text], none, false, fun (text, ()) =>
    match Json.parse? text with
    | some value => .ok (Value.ofJson value)
    | none => .error .invalidJson⟩)]

end Terradoc.Functions
