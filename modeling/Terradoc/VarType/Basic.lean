import Terradoc.Entries
import Terradoc.Number.Reading
import Terradoc.Text.Letter
import Terradoc.Text.Quoted
import Terradoc.Value.Order

namespace Terradoc

mutual
inductive VarType where
  | any
  | string
  | number
  | bool
  | list (item : VarType)
  | set (item : VarType)
  | map (item : VarType)
  | object (attributes : List AttributeType)
  | tuple (items : List VarType)

/-- An attribute of an object type. One that may be left out has a default. -/
inductive AttributeType where
  | mk (name : String) (type : VarType) (default : Option Value)
end

instance : Inhabited VarType := ⟨.any⟩

/-- The name of a type in documents and messages. -/
def VarType.friendly : VarType → String
  | any => "dynamic"
  | string => "string"
  | number => "number"
  | bool => "bool"
  | list item => "list of " ++ item.friendly
  | set item => "set of " ++ item.friendly
  | map item => "map of " ++ item.friendly
  | object _ => "object"
  | tuple _ => "tuple"

/-- Why a value does not fit a type. -/
inductive CoerceFault where
  | textToNumber (text : String)
  | noConversion (typeName target : String)
  | required (name : String)
  | tupleLength (wanted found : Nat)
deriving DecidableEq, Repr

def CoerceFault.message : CoerceFault → String
  | textToNumber text => "cannot convert " ++ Text.quoted text ++ " to number"
  | noConversion typeName target => "cannot convert " ++ typeName ++ " to " ++ target
  | required name => "attribute '" ++ name ++ "' is required"
  | tupleLength wanted found =>
    "tuple requires " ++ toString wanted ++ " element(s), got " ++ toString found

def Entries.erase {α : Type} (entries : Entries α) (key : String) : Entries α :=
  entries.filter (·.1 != key)

def coerceEntries (convert : Value → Except CoerceFault Value) :
    Entries Value → Except CoerceFault (Entries Value)
  | [] => .ok []
  | (key, value) :: rest => do
    let first ← convert value
    let others ← coerceEntries convert rest
    return (key, first) :: others

mutual
/-- Converts a value to a type, collections item by item. Null and unknowns fit every type. -/
def VarType.coerce (type : VarType) (value : Value) : Except CoerceFault Value :=
  match type, value with
  | _, .unknown marker => .ok (.unknown marker)
  | _, .null => .ok .null
  | .any, value => .ok value
  | .string, .string text => .ok (.string text)
  | .string, .number number => .ok (.string number.toText)
  | .string, .bool truth => .ok (.string (if truth then "true" else "false"))
  | .number, .number number => .ok (.number number)
  | .number, .string text =>
    match Number.parseFloat? (Text.trim text) with
    | some number => .ok (.ofFloat number)
    | none => .error (.textToNumber text)
  | .bool, .bool truth => .ok (.bool truth)
  | .bool, .string text =>
    if text == "true" then .ok (.bool true)
    else if text == "false" then .ok (.bool false)
    else .error (.noConversion "string" "bool")
  | .list item, .list items => do return .list (← items.mapM item.coerce)
  | .set item, .list items => do return .list (Value.toSet (← items.mapM item.coerce))
  | .map item, .map entries => do return .map (← coerceEntries item.coerce entries)
  | .object attributes, .map entries => do return .map (← coerceObject attributes entries [])
  | .tuple types, .list items =>
    if types.length != items.length then .error (.tupleLength types.length items.length)
    else do return .list (← coerceTuple types items)
  | type, value => .error (.noConversion value.typeName type.friendly)

/-- Takes the attributes of an object type out of entries, in the order of the type. -/
def coerceObject : List AttributeType → Entries Value → Entries Value →
    Except CoerceFault (Entries Value)
  | [], _, taken => .ok taken
  | .mk name type default :: rest, entries, taken => do
    let value ← match Entries.get? entries name, default with
      | some value, _ => type.coerce value
      | none, some default => .ok default
      | none, none => .error (.required name)
    coerceObject rest (Entries.erase entries name) (Entries.insert taken name value)

/-- Converts items to the types at their positions. -/
def coerceTuple : List VarType → List Value → Except CoerceFault (List Value)
  | type :: types, item :: items => do
    let first ← type.coerce item
    let others ← coerceTuple types items
    return first :: others
  | _, _ => .ok []
end

end Terradoc
