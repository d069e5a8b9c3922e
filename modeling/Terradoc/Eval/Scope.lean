import Terradoc.Entries
import Terradoc.Eval.Error
import Terradoc.Files.Path

namespace Terradoc

/-- What one run of a module has resolved so far. -/
structure Scope where
  moduleDirectory : Path
  rootDirectory : Path
  workingDirectory : Path
  workspace : String
  vars : Entries Value
  locals : Entries Value
  /-- Values of blocks under their addresses without instance keys. -/
  blocks : Entries Value
  /-- Addresses of all resources, data sources and module calls of the module. -/
  declared : List String

/-- A scope in which nothing is resolved. -/
def Scope.empty (moduleDirectory rootDirectory workingDirectory : Path) : Scope :=
  ⟨moduleDirectory, rootDirectory, workingDirectory, "default", [], [], [], []⟩

def Scope.modulePath (scope : Scope) : String :=
  Path.relativeTo scope.rootDirectory scope.moduleDirectory

abbrev FunctionTable := String → List Value → Except EvalError Value

/-- A scope with the functions and the iteration that are in effect. -/
structure Environment where
  scope : Scope
  functions : FunctionTable
  /-- Key and value of the instance of a block that is made for each entry of a collection. -/
  each : Option (Value × Value)
  /-- Index of the instance of a block that is made so many times. -/
  count : Option Value
  /-- Variables of loops and iterators of dynamic blocks. -/
  bindings : Entries Value

namespace Environment

/-- An environment outside of iterations. -/
def ofScope (scope : Scope) (functions : FunctionTable) : Environment :=
  ⟨scope, functions, none, none, []⟩

/-- The environment of one instance of a collection. -/
def withEach (env : Environment) (key value : Value) : Environment :=
  { env with each := some (key, value) }

def withCount (env : Environment) (index : Value) : Environment := { env with count := some index }

/-- An environment with one more variable. -/
def bind (env : Environment) (name : String) (value : Value) : Environment :=
  { env with bindings := Entries.insert env.bindings name value }

/-- The environment of one turn of a loop; a key variable of the same name hides the value. -/
def bindEntry (env : Environment) (key : Option String) (value : String) (entry : Value × Value) :
    Environment :=
  let inner := env.bind value entry.2
  match key with
  | some name => inner.bind name entry.1
  | none => inner

end Environment

/-- A result that may turn out unknown. -/
inductive Determined (α : Type) where
  | known (value : α)
  | unknown (marker : Unknown)

/-- Keys and values of a collection: positions of a list, keys of a map. -/
def Value.entries? : Value → Except EvalError (List (Value × Value))
  | .list items => .ok (items.zipIdx.map fun (item, index) => (.ofNat index, item))
  | .map entries => .ok (entries.map fun (key, value) => (.string key, value))
  | other => .error (.cannotIterate other.typeName)

/-- Passes over entries in order, up to the first error or unknown. -/
def foldEntries {α : Type} (step : α → Value × Value → Except EvalError (Determined α)) :
    α → List (Value × Value) → Except EvalError (Determined α)
  | state, [] => .ok (.known state)
  | state, entry :: rest => do
    match ← step state entry with
    | .known state => foldEntries step state rest
    | .unknown marker => .ok (.unknown marker)

def Value.text (value : Value) : Except EvalError String :=
  match value.toText with
  | .ok text => .ok text
  | .error cause => .error (.conversion cause)

end Terradoc
