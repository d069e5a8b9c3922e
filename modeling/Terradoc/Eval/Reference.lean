import Terradoc.Eval.Walk
import Terradoc.Syntax.Printer

namespace Terradoc

/-- Where a reference starts: at a value that takes all steps, or at one from which the steps after
the first few lead on. -/
inductive Origin where
  | whole (value : Value)
  | part (taken : Nat) (fallback : Fallback) (value : Value)

/-- The instance key that is written out right after the address of a block. -/
def literalKey? : List Step → Option InstanceKey
  | .index (.number (.int position)) :: _ =>
    if 0 ≤ position then some (.index position.toNat) else none
  | .index (.string name) :: _ => some (.key name)
  | .position index :: _ => some (.index index)
  | _ => none

/-- The origin of a reference to a block. What is missing in a block that is declared is unknown, and
the unknown names the block. -/
def blockOrigin (scope : Scope) (key : String) (target : BlockTarget) (address : String)
    (taken : Nat) (rest : List Step) : Origin :=
  let plain := Unknown.plain address target.name
  if !scope.declared.contains key then .whole (.unknown plain)
  else
    let marker := { plain with target := some { target with key := literalKey? rest } }
    match Entries.get? scope.blocks key with
    | some value => .part taken (some marker) value
    | none => .whole (.unknown marker)

/-- The origin of a reference to a variable or local. -/
def namedOrigin (values : Entries Value) (space name : String) : Origin :=
  .part 1 none ((Entries.get? values name).getD (.unresolved (space ++ "." ++ name) name))

/-- The origin of a reference to the key or value of an iteration. -/
def eachOrigin (env : Environment) (name : String) : Except EvalError Origin :=
  match env.each with
  | none => .error .noEach
  | some (key, value) =>
    if name == "key" then .ok (.part 1 none key)
    else if name == "value" then .ok (.part 1 none value)
    else .error (.eachAttribute name)

def pathValue (scope : Scope) (name : String) : Except EvalError Value :=
  if name == "module" then .ok (.string scope.modulePath)
  else if name == "root" then .ok (.string ".")
  else if name == "cwd" then .ok (.string scope.workingDirectory.text)
  else .error (.pathAttribute name)

def countValue (env : Environment) (name : String) : Except EvalError Value :=
  if name != "index" then .error (.countAttribute name)
  else match env.count with
    | some index => .ok index
    | none => .error .noCount

/-- Roots that are no resource types, with the form of reference that each asks for. -/
def referenceForms : List (String × String) := [
  ("var", "var.<name>"), ("local", "local.<name>"), ("module", "module.<name>"),
  ("data", "data.<type>.<name>"), ("each", "each.key or each.value"), ("count", "count.index"),
  ("path", "path.<attribute>")]

/-- Why a reference without the names that it needs has no value. -/
def malformed (root address : String) : EvalError :=
  if root == "terraform" then .terraformAttribute address
  else match referenceForms.lookup root with
    | some form => .expected form
    | none => .unknownVariable root

/-- The origin of a reference whose root is no variable of a loop. -/
def originOf (env : Environment) (root : String) (steps : List Step) : Except EvalError Origin :=
  let address := traversalAddress root steps
  if root == "self" then .ok (.whole (.unresolved address "self"))
  else match steps with
    | .attribute name :: rest =>
      if root == "var" then .ok (namedOrigin env.scope.vars root name)
      else if root == "local" then .ok (namedOrigin env.scope.locals root name)
      else if root == "module" then
        .ok (blockOrigin env.scope ("module." ++ name) (.module name) address 1 rest)
      else if root == "data" then
        match rest with
        | .attribute second :: rest =>
          .ok (blockOrigin env.scope ("data." ++ name ++ "." ++ second) (.data name second) address
            2 rest)
        | _ => .error (malformed root address)
      else if root == "each" then eachOrigin env name
      else if root == "count" then (countValue env name).map Origin.whole
      else if root == "path" then (pathValue env.scope name).map Origin.whole
      else if root == "terraform" then
        if name == "workspace" then .ok (.whole (.string env.scope.workspace))
        else .error (malformed root address)
      else .ok (blockOrigin env.scope (root ++ "." ++ name) (.resource root name) address 1 rest)
    | _ => .error (malformed root address)

/-- The value of a name that stands alone. -/
def variableValue (env : Environment) (name : String) : Except EvalError Value :=
  match Entries.get? env.bindings name with
  | some value => .ok value
  | none =>
    if name == "self" then .ok (.unresolved "self" "self") else .error (.unknownVariable name)

end Terradoc
