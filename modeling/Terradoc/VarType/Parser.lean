import Terradoc.Eval.Expr
import Terradoc.VarType.Basic

namespace Terradoc

/-- Why an expression is no type. -/
inductive TypeFault where
  | unknownName (name : String)
  | unknownText (text : String)
  | oneArgument (name : String)
  | tupleItems
  | objectAttributes
  | attributeName
  | unknownConstructor (name : String)
  | invalid (source : String)
  | optionalArguments
  | default (cause : EvalError)

def TypeFault.message : TypeFault → String
  | unknownName name => "unknown type '" ++ name ++ "'"
  | unknownText text => "unknown type " ++ Text.quoted text
  | oneArgument name => name ++ "() takes exactly one argument"
  | tupleItems => "tuple() expects a list of types"
  | objectAttributes => "object() expects an object of types"
  | attributeName => "object attribute names must be identifiers"
  | unknownConstructor name => "unknown type constructor '" ++ name ++ "'"
  | invalid source => "invalid type expression: " ++ source
  | optionalArguments => "optional() takes one or two arguments"
  | default cause => cause.message

def VarType.named : List (String × VarType) := [
  ("any", .any), ("string", .string), ("number", .number), ("bool", .bool), ("list", .list .any),
  ("set", .set .any), ("map", .map .any)]

def VarType.ofName (name : String) (fault : TypeFault) : Except TypeFault VarType :=
  match VarType.named.lookup name with
  | some type => .ok type
  | none => .error fault

def typeConstructors : List String := ["list", "set", "map", "tuple", "object"]

/-- Why a call of a name with the wrong arguments is no type. -/
def callFault (name : String) (arguments : Nat) : TypeFault :=
  if !typeConstructors.contains name then .unknownConstructor name
  else if arguments != 1 then .oneArgument name
  else if name == "tuple" then .tupleItems
  else .objectAttributes

def attributeName : ObjectKey → Except TypeFault String
  | .name text => .ok text
  | .expr (.string text) | .expr (.variable text) => .ok text
  | _ => .error .attributeName

mutual
/-- The type that an expression writes. Names in quotes are an older form. -/
def VarType.parse (env : Environment) : Expr → Except TypeFault VarType
  | .variable name => VarType.ofName name (.unknownName name)
  | .string text => VarType.ofName text (.unknownText text)
  | .template _ source _ => VarType.ofName source (.unknownText source)
  | .parens inner => VarType.parse env inner
  | .call name [argument] _ =>
    if name == "list" then (VarType.parse env argument).map VarType.list
    else if name == "set" then (VarType.parse env argument).map VarType.set
    else if name == "map" then (VarType.parse env argument).map VarType.map
    else match argument with
      | .array items =>
        if name == "tuple" then (parseTypes env items).map VarType.tuple
        else .error (callFault name 1)
      | .object items =>
        if name == "object" then (parseAttributes env items).map VarType.object
        else .error (callFault name 1)
      | _ => .error (callFault name 1)
  | .call name arguments _ => .error (callFault name arguments.length)
  | other => .error (.invalid other.render)

/-- The types that expressions write. -/
def parseTypes (env : Environment) : List Expr → Except TypeFault (List VarType)
  | [] => .ok []
  | item :: rest => do
    let first ← VarType.parse env item
    let others ← parseTypes env rest
    return first :: others

def parseAttributes (env : Environment) :
    List (ObjectKey × Expr) → Except TypeFault (List AttributeType)
  | [] => .ok []
  | (key, value) :: rest => do
    let name ← attributeName key
    let first ← parseAttribute env name value
    let others ← parseAttributes env rest
    return first :: others

/-- An attribute of an object type; one marked as optional may be left out. -/
def parseAttribute (env : Environment) (name : String) : Expr → Except TypeFault AttributeType
  | .call function arguments expand =>
    if function == "optional" then
      match arguments with
      | [type] => do return .mk name (← VarType.parse env type) (some .null)
      | [type, default] =>
        match default.eval env with
        | .ok value => do return .mk name (← VarType.parse env type) (some value)
        | .error cause => .error (.default cause)
      | _ => .error .optionalArguments
    else (VarType.parse env (.call function arguments expand)).map fun type => .mk name type none
  | other => (VarType.parse env other).map fun type => .mk name type none
end

end Terradoc
