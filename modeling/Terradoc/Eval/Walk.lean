import Terradoc.Eval.Scope

/-! Steps from values into their parts. Inside a block of the configuration a part that is missing is
unknown; elsewhere it is an error. -/

namespace Terradoc

abbrev Fallback := Option Unknown

/-- The outcome of a step to a missing part. -/
def Fallback.missing (fallback : Fallback) (error : EvalError) : Except EvalError Value :=
  match fallback with
  | some marker => .ok (.unknown marker)
  | none => .error error

/-- What a step from an unknown or with an unknown key gives. -/
def Fallback.through (fallback : Fallback) (marker : Unknown) : Value :=
  .unknown (fallback.getD marker)

def Value.attribute (fallback : Fallback) (name : String) : Value → Except EvalError Value
  | .unknown marker => .ok (fallback.through marker)
  | .map entries =>
    match Entries.get? entries name with
    | some value => .ok value
    | none => fallback.missing (.missingAttribute name)
  | other => fallback.missing (.noAttributes name other.typeName)

def Value.attributes (fallback : Fallback) : List String → Value → Except EvalError Value
  | [], value => .ok value
  | name :: rest, value => do Value.attributes fallback rest (← value.attribute fallback name)

/-- The position that a key names in a list: a whole number, or its digits. -/
def Value.position? (key : Value) : Option Int :=
  key.int?.or (key.string?.bind fun text => (Number.parseInteger 10 text).toOption)

/-- An item of a known value under a known key. -/
def Value.item (fallback : Fallback) (value key : Value) : Except EvalError Value :=
  match value with
  | .list items =>
    match key.position? with
    | none => .error (.listIndex key.typeName)
    | some index =>
      if index < 0 then fallback.missing (.outOfRange index)
      else match items[index.toNat]? with
        | some item => .ok item
        | none => fallback.missing (.outOfRange index)
  | .map entries => do
    let name ← key.text
    match Entries.get? entries name with
    | some item => .ok item
    | none => fallback.missing (.missingKey name)
  | other => fallback.missing (.cannotIndex other.typeName)

def Value.itemAt (fallback : Fallback) (value key : Value) : Except EvalError Value :=
  match key with
  | .unknown marker => .ok (fallback.through marker)
  | key => value.item fallback key

/-- What a splat goes over: the items of a list, nothing for null, a single value otherwise. -/
def Value.splatItems : Value → List Value
  | .list items => items
  | .null => []
  | other => [other]

end Terradoc
