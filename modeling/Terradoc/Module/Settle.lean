import Terradoc.Block.Evaluation
import Terradoc.Block.Projection
import Terradoc.Module.Session
import Terradoc.Value.Order

/-! Settling a module: locals, blocks and the outputs of called modules are evaluated over and over,
each time with the values of the time before, until nothing changes. -/

namespace Terradoc

/-- A called module as of the latest pass. -/
structure ChildRun where
  inputs : Inputs
  /-- The run, unless the module cannot be resolved. -/
  run : Option ModuleRun

/-- The called modules by the paths of their instances, and these paths in order as of the latest
pass. -/
structure Children where
  runs : Entries ChildRun
  order : List String

def Children.empty : Children := ⟨[], []⟩

/-- The blocks of called modules, each instance once. -/
def Children.blocks (children : Children) : List Block :=
  children.order.eraseDups.flatMap fun path =>
    match (Entries.get? children.runs path).bind (·.run) with
    | some run => run.blocks
    | none => []

/-- A computation that also keeps the called modules. -/
abbrev Settling (α : Type) := StateT Children (StateT RunState (Except LoadError)) α

/-- The environment of a module outside of its blocks. -/
def Session.environment (session : Session) (scope : Scope) : Environment :=
  Environment.ofScope scope session.functions

/-- The value of a local; one that fails is unknown. -/
def localValue (env : Environment) (attr : Attribute) : Value :=
  match attr.value.eval env with
  | .ok value => value
  | .error _ => .unresolved ("local." ++ attr.name) attr.name

/-- The values of locals by name; the last one of a name counts. -/
def settleLocals (env : Environment) (blocks : List SourceBlock) : Entries Value :=
  Entries.ofList ((blocks.filter (·.kind = .locals)).flatMap fun block =>
    block.body.attributes.map fun attr => (attr.name, localValue env attr))

/-- The instances of a block; a single one where they cannot be told. -/
def instancesOrSingle (env : Environment) (body : Body) : List Instance :=
  (instances body env).toOption.getD [.single]

/-- The value of an instance of a resource or data source. -/
def resourceValue (env : Environment) (block : SourceBlock) : Value :=
  (evaluateBody ⟨block.filename, block.address⟩ env block.body block.spans).value.value

/-- Arguments of a module call that are no inputs of the module. -/
def callArguments : List String :=
  ["source", "version", "count", "for_each", "providers", "depends_on"]

/-- The inputs that a module call gives; one that fails is unknown. -/
def childInputs (env : Environment) (path : String) (body : Body) : Inputs :=
  Entries.ofList ((body.attributes.filter fun attr => !callArguments.contains attr.name).map
    fun attr => (attr.name,
      match attr.value.eval env with
      | .ok value => value
      | .error _ => .unresolved (path ++ "." ++ attr.name) attr.name))

/-- The source that a module call names. -/
def sourceOf (env : Environment) (body : Body) : Except ModuleFault String :=
  match body.attribute? "source" with
  | none => .error .missingSource
  | some expr =>
    match expr.evalText env with
    | .ok source => .ok source
    | .error cause => .error (.source cause)

/-- The version that a module call asks for; one that fails does not count. -/
def versionOf (env : Environment) (body : Body) : Option String :=
  (body.attribute? "version").bind fun expr => (expr.evalText env).toOption

/-- The call that an instance of a module block makes. The stack holds the directories of the
modules that are being evaluated. -/
def childCall (session : Session) (stack : List Path) (caller : ModuleCall) (env : Environment)
    (name path : String) (inputs : Inputs) (body : Body) : Except ModuleFault ModuleCall := do
  let source ← sourceOf env body
  let key := if caller.key == "" then name else caller.key ++ "." ++ name
  match session.resolver.resolve caller.directory key source (versionOf env body) with
  | .error cause => .error (.resolution cause)
  | .ok directory =>
    if stack.any directory.same then .error (.recursive directory)
    else .ok ⟨directory, caller.lead ++ path ++ ".", key, some inputs⟩

/-- Runs a called module. A call that cannot be made gives no run. -/
def runChild (session : Session) (run : Runner) (path : String)
    (call : Except ModuleFault ModuleCall) : Running (Option ModuleRun) :=
  match call with
  | .ok call => some <$> run call
  | .error fault => do
    session.report (.module path fault)
    return none

/-- The value of a called module: its outputs, or an unknown that points at the call. -/
def ChildRun.value (child : ChildRun) (path name : String) : Value :=
  match child.run with
  | some run => .map run.outputs
  | none => .unknown { Unknown.plain path name with target := some (.module name) }

/-- Whether two sets of inputs are the same, in whatever order. -/
def sameInputs (left right : Entries Value) : Bool := Value.same (.map left) (.map right)

/-- The value of an instance of a module block. The module is run again only when its inputs are
others than in the pass before. -/
def settleChild (session : Session) (run : Runner) (stack : List Path) (caller : ModuleCall)
    (env : Environment) (block : SourceBlock) (name : String) (key : Option InstanceKey) :
    Settling Value := do
  let path := block.address ++ keySuffix key
  let inputs := childInputs env path block.body
  let children ← get
  let kept := (Entries.get? children.runs path).filter fun child => sameInputs child.inputs inputs
  let child ← match kept with
    | some child => pure child
    | none =>
      let call := childCall session stack caller env name path inputs block.body
      ChildRun.mk inputs <$> (runChild session run (caller.lead ++ path) call : Running _)
  set (⟨Entries.insert children.runs path child, children.order ++ [path]⟩ : Children)
  return child.value path name

def settleInstance (session : Session) (run : Runner) (stack : List Path) (caller : ModuleCall)
    (env : Environment) (block : SourceBlock) (inst : Instance) : Settling Value :=
  match block.kind with
  | .module name =>
    settleChild session run stack caller (inst.environment env) block name inst.key
  | _ => pure (resourceValue (inst.environment env) block)

def settleBlock (session : Session) (run : Runner) (stack : List Path) (caller : ModuleCall)
    (env : Environment) (block : SourceBlock) : Settling (String × Value) := do
  let values ← (instancesOrSingle env block.body).mapM fun inst => do
    return (inst.key, ← settleInstance session run stack caller env block inst)
  return (block.address, collectInstances values)

/-- One pass: locals with the values of the pass before, then blocks with the new locals. -/
def settlePass (session : Session) (run : Runner) (stack : List Path) (caller : ModuleCall)
    (blocks : List SourceBlock) (scope : Scope) : Settling Scope := do
  let scope := { scope with locals := settleLocals (session.environment scope) blocks }
  modify fun children => { children with order := [] }
  let values ← (blocks.filter (·.kind.isReplicable)).mapM
    (settleBlock session run stack caller (session.environment scope))
  return { scope with blocks := Entries.ofList values }

/-- Whether a pass changed no local and no block. -/
def Scope.settledFrom (scope before : Scope) : Bool :=
  sameInputs scope.locals before.locals && sameInputs scope.blocks before.blocks

/-- Passes up to one that changes nothing, or as many as are allowed. -/
def settle (session : Session) (run : Runner) (stack : List Path) (caller : ModuleCall)
    (blocks : List SourceBlock) : Nat → Scope → Settling Scope
  | 0, scope => pure scope
  | passes + 1, scope => do
    let next ← settlePass session run stack caller blocks scope
    if next.settledFrom scope then pure next
    else settle session run stack caller blocks passes next

/-- How many passes a module run makes at most. -/
def maxPasses : Nat := 16

end Terradoc
