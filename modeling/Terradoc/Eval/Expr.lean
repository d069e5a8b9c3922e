import Terradoc.Eval.Operator
import Terradoc.Eval.Reference

/-! Evaluation of expressions and templates.

An unknown that an expression needs makes its value unknown, except where only a part of the value
depends on it. Evaluation follows the expression, so it always ends. -/

namespace Terradoc

def Value.condition? : Value → Option Bool
  | .bool value => some value
  | .string text =>
    if text == "true" then some true else if text == "false" then some false else none
  | _ => none

/-- Spreads the last of the arguments of a call. -/
def spread (function : String) (values : List Value) :
    Except EvalError (Determined (List Value)) :=
  match values.getLast? with
  | some (.list items) => .ok (.known (values.dropLast ++ items))
  | some (.unknown marker) => .ok (.unknown marker)
  | some other => .error (.cannotExpand other.typeName function)
  | none => .error (.nothingToExpand function)

/-- Adds an entry that a loop gives for a key. -/
def addEntry (grouping : Bool) (entries : Entries Value) (key : String) (value : Value) :
    Except EvalError (Entries Value) :=
  if grouping then
    .ok (Entries.alter entries key (.list []) fun
      | .list items => .list (items ++ [value])
      | other => other)
  else if Entries.contains entries key then .error (.duplicateKey key)
  else .ok (Entries.insert entries key value)

/-- The key that a loop gives for an entry. -/
def loopKey (key : Value) : Except EvalError String :=
  match key.toText with
  | .ok text => .ok text
  | .error cause => .error (.forKey cause)

mutual
def Expr.eval (env : Environment) : Expr → Except EvalError Value
  | .null => .ok .null
  | .bool value => .ok (.bool value)
  | .number value => .ok (.number value)
  | .string value => .ok (.string value)
  | .array items => do return .list (← evalItems env items)
  | .object items => evalObject env [] items
  | .template _ _ [.interpolation value] => value.eval env
  | .template _ source elements => do
    match ← renderElements env "" elements with
    | .known text => return .string text
    | .unknown marker => return .unknown { marker with template := some source }
  | .variable name => variableValue env name
  | .traversal (.variable root) steps =>
    match Entries.get? env.bindings root with
    | some value => walk env none 0 value steps
    | none => do
      match ← originOf env root steps with
      | .whole value => return value
      | .part taken fallback value => walk env fallback taken value steps
  | .traversal root steps => do walk env none 0 (← root.eval env) steps
  | .call name arguments expand =>
    if name == "try" then evalFirst env .tryArguments arguments
    else if name == "can" then evalCan env arguments
    else do
      let values ← evalItems env arguments
      if expand then
        match ← spread name values with
        | .known values => env.functions name values
        | .unknown marker => return .unknown marker
      else env.functions name values
  | .parens inner => inner.eval env
  | .conditional condition yes no => do
    match ← condition.eval env with
    | .unknown marker => return .unknown marker
    | value =>
      match value.condition? with
      | some true => yes.eval env
      | some false => no.eval env
      | none => .error (.condition value.typeName)
  | .unary operator operand => do
    match ← operand.eval env with
    | .unknown marker => return .unknown marker
    | value => operator.apply value
  | .binary operator left right => do
    let left ← left.eval env
    let right ← right.eval env
    match left.unknown?.or right.unknown? with
    | some marker => return .unknown marker
    | none => operator.apply left right
  | .listFor key value collection item condition => do
    match ← collection.eval env with
    | .unknown marker => return .unknown marker
    | known =>
      let turn (items : List Value) (entry : Value × Value) :
          Except EvalError (Determined (List Value)) := do
        let inner := env.bindEntry key value entry
        match ← evalCondition inner condition with
        | .unknown marker => return .unknown marker
        | .known false => return .known items
        | .known true => return .known (items ++ [← item.eval inner])
      match ← foldEntries turn [] (← known.entries?) with
      | .known items => return .list items
      | .unknown marker => return .unknown marker
  | .mapFor key value collection entryKey entryValue grouping condition => do
    match ← collection.eval env with
    | .unknown marker => return .unknown marker
    | known =>
      let turn (entries : Entries Value) (entry : Value × Value) :
          Except EvalError (Determined (Entries Value)) := do
        let inner := env.bindEntry key value entry
        match ← evalCondition inner condition with
        | .unknown marker => return .unknown marker
        | .known false => return .known entries
        | .known true =>
          let made ← entryValue.eval inner
          match ← entryKey.eval inner with
          | .unknown marker => return .unknown marker
          | key => return .known (← addEntry grouping entries (← loopKey key) made)
      match ← foldEntries turn [] (← known.entries?) with
      | .known entries => return .map entries
      | .unknown marker => return .unknown marker

/-- The values of expressions in order. -/
def evalItems (env : Environment) : List Expr → Except EvalError (List Value)
  | [] => .ok []
  | item :: rest => do
    let first ← item.eval env
    let others ← evalItems env rest
    return first :: others

/-- The value of an object, given the entries of the items before. A key that is unknown makes the
whole object unknown. -/
def evalObject (env : Environment) (before : Entries Value) :
    List (ObjectKey × Expr) → Except EvalError Value
  | [] => .ok (.map before)
  | (key, value) :: rest => do
    match ← key.eval env with
    | .unknown marker => return .unknown marker
    | .known name => evalObject env (Entries.insert before name (← value.eval env)) rest

def ObjectKey.eval (env : Environment) : ObjectKey → Except EvalError (Determined String)
  | .name text => .ok (.known text)
  | .expr key => do
    match ← key.eval env with
    | .unknown marker => return .unknown marker
    | value =>
      match value.toText with
      | .ok text => return .known text
      | .error cause => .error (.objectKey cause)

def evalFirst (env : Environment) (last : EvalError) : List Expr → Except EvalError Value
  | [] => .error (.tryFailed last)
  | expr :: rest =>
    match expr.eval env with
    | .ok value => .ok value
    | .error error => if error.isTooDeep then .error error else evalFirst env error rest

/-- Whether a single argument has a value. -/
def evalCan (env : Environment) : List Expr → Except EvalError Value
  | [expr] =>
    match expr.eval env with
    | .ok (.unknown marker) => .ok (.unknown marker)
    | .ok _ => .ok (.bool true)
    | .error error => if error.isTooDeep then .error error else .ok (.bool false)
  | _ => .error .canArguments

/-- Whether a loop takes an entry. -/
def evalCondition (env : Environment) : Option Expr → Except EvalError (Determined Bool)
  | none => .ok (.known true)
  | some condition => do
    match ← condition.eval env with
    | .bool value => return .known value
    | .unknown marker => return .unknown marker
    | other => .error (.forCondition other.typeName)

/-- Follows steps from a value, after leaving out the first few. -/
def walk (env : Environment) (fallback : Fallback) :
    Nat → Value → List Step → Except EvalError Value
  | _, value, [] => .ok value
  | taken + 1, value, _ :: rest => walk env fallback taken value rest
  | 0, .unknown marker, _ :: _ => .ok (fallback.through marker)
  | 0, value, .each :: rest => do
    return .list (← value.splatItems.mapM fun item => walk env fallback 0 item rest)
  | 0, value, step :: rest => do walk env fallback 0 (← step.apply env fallback value) rest

/-- Takes one step from a known value. -/
def Step.apply (env : Environment) (fallback : Fallback) (value : Value) :
    Step → Except EvalError Value
  | .attribute name => value.attribute fallback name
  | .index key => do value.itemAt fallback (← key.eval env)
  | .position index => value.item fallback (.ofNat index)
  | .eachAttribute names => do
    return .list (← value.splatItems.mapM (Value.attributes fallback names))
  | .each => .ok (.list value.splatItems)

/-- Appends the text of template elements to a text, up to the first unknown. -/
def renderElements (env : Environment) (before : String) :
    List TemplateElement → Except EvalError (Determined String)
  | [] => .ok (.known before)
  | element :: rest => do
    match ← element.render env before with
    | .known text => renderElements env text rest
    | .unknown marker => return .unknown marker

def TemplateElement.render (env : Environment) (before : String) :
    TemplateElement → Except EvalError (Determined String)
  | .literal text => .ok (.known (before ++ text))
  | .interpolation expr => do
    let value ← expr.eval env
    match value.firstUnknown? with
    | some marker => return .unknown { marker with template := none }
    | none => return .known (before ++ (← value.text))
  | .branch condition yes no => do
    match ← condition.eval env with
    | .unknown marker => return .unknown marker
    | .bool true => renderElements env before yes
    | .bool false => renderBranch env before no
    | other => .error (.templateCondition other.typeName)
  | .loop key value collection body => do
    match ← collection.eval env with
    | .unknown marker => return .unknown marker
    | known =>
      foldEntries (fun text entry => renderElements (env.bindEntry key value entry) text body)
        before (← known.entries?)

/-- Appends the text of the other branch, if there is one. -/
def renderBranch (env : Environment) (before : String) :
    Option (List TemplateElement) → Except EvalError (Determined String)
  | none => .ok (.known before)
  | some elements => renderElements env before elements
end

/-- The value of a whole template. An unknown in it makes it an unknown that carries its source. -/
def Template.eval (env : Environment) (template : Template) : Except EvalError Value := do
  match ← renderElements env "" template.elements with
  | .known text => return .string text
  | .unknown marker => return .unknown { marker with template := some template.source }

def Expr.evalText (env : Environment) (expr : Expr) : Except EvalError String := do
  match ← expr.eval env with
  | .unknown marker => .error (.notKnown marker.address)
  | value => value.text

end Terradoc
