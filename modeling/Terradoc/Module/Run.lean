import Terradoc.Block.Link
import Terradoc.Document
import Terradoc.Module.Directory
import Terradoc.Module.Settle
import Terradoc.Variable.Override

/-! Runs of modules: variables are resolved, the module settles, and then each instance of each block
is made once and linked to the blocks that it refers to. Blocks of called modules come after those of
the module itself. -/

namespace Terradoc

def typeText? (declarations : List VariableDeclaration) (name : String) (body : Body) :
    Option String :=
  match (declarations.find? (·.name == name)).bind (·.type) with
  | some type => some type.friendly
  | none => (body.attribute? "type").map Expr.render

/-- Whether a part of a body is the attribute of a name. -/
def Structure.isAttribute (name : String) : Structure → Bool
  | .attribute other _ => other == name
  | .block .. => false

/-- Evaluates a variable block, whose type is shown by its name. -/
def evaluateVariable (context : BodyContext) (env : Environment)
    (declarations : List VariableDeclaration) (name : String) (body : Body) (spans : SpanTree) :
    Noted (EvaluatedBody Unit) :=
  let rest : Body := body.filter fun part => !part.isAttribute "type"
  (evaluateBody context env rest spans).map fun evaluated =>
    match typeText? declarations name body with
    | none => evaluated
    | some text =>
      { evaluated with attributes := Entries.insert evaluated.attributes "type" (.string text) }

def evaluateInstance (context : BodyContext) (env : Environment)
    (declarations : List VariableDeclaration) (block : SourceBlock) : Noted (EvaluatedBody Unit) :=
  match block.kind with
  | .variable name => evaluateVariable context env declarations name block.body block.spans
  | _ => evaluateBody context env block.body block.spans

/-- The instances of a block; a single one where they cannot be told. -/
def notedInstances (env : Environment) (address : String) (block : SourceBlock) :
    Noted (List Instance) :=
  if block.kind.isReplicable then
    match instances block.body env with
    | .ok all => .clean all
    | .error cause => .instead [.single] ⟨address, .replication cause⟩
  else .clean [.single]

def makeInstance (session : Session) (call : ModuleCall) (env : Environment)
    (declarations : List VariableDeclaration) (block : SourceBlock) (inst : Instance) :
    Running Block := do
  let path := call.lead ++ block.address ++ keySuffix inst.key
  let id ← Running.draw
  let body ← session.accept
    (evaluateInstance ⟨block.filename, path⟩ (inst.environment env) declarations block)
  let nested ← Running.drawNested body.blocks
  return ⟨block.kind, path, block.address, inst.key, ⟨block.filename, block.lines⟩,
    body.attributes, nested, [], id⟩

/-- Makes the instances of a block, each with the block that it comes from. -/
def makeBlock (session : Session) (call : ModuleCall) (env : Environment)
    (declarations : List VariableDeclaration) (block : SourceBlock) :
    Running (List (SourceBlock × Block)) := do
  let all ← session.accept (notedInstances env (call.lead ++ block.address) block)
  all.mapM fun inst => do return (block, ← makeInstance session call env declarations block inst)

def outputValues (blocks : List Block) : Entries Value :=
  Entries.ofList (blocks.filterMap fun block =>
    match block.kind with
    | .output name => some (name, (Entries.get? block.attributes "value").getD .null)
    | _ => none)

/-- Gives blocks the references that they make to one another. -/
def linkBlocks (made : List (SourceBlock × Block)) : List Block :=
  let blocks := made.map Prod.snd
  made.map fun (source, block) =>
    { block with references := linkTargets (candidates source block) blocks block.id }

/-- The scope of a module before its variables are resolved. -/
def Session.scopeOf (session : Session) (call : ModuleCall) (blocks : List SourceBlock) : Scope :=
  { Scope.empty call.directory session.root session.host.workingDirectory with
    workspace := session.options.workspace
    declared := (blocks.filter (·.kind.isReplicable)).map SourceBlock.address }

/-- The values given to the variables of a module. -/
def Session.inputsOf (session : Session) (call : ModuleCall) (env : Environment) :
    Except LoadError Inputs :=
  match call.inputs with
  | some inputs => .ok inputs
  | none => rootInputs env session.host.files session.root session.options

/-- Evaluates the blocks of a module, given how called modules are run. The stack begins with the
directory of the module. -/
def evaluateModule (session : Session) (run : Runner) (stack : List Path) (call : ModuleCall)
    (blocks : List SourceBlock) : Running ModuleRun := do
  let scope := session.scopeOf call blocks
  let env := session.environment scope
  let declarations := VariableDeclaration.ofBlocks env blocks
  let inputs ← Running.ofExcept (session.inputsOf call env)
  let scope := { scope with vars := resolveVariables declarations inputs }
  let (scope, children) ← (settle session run stack call blocks maxPasses scope).run .empty
  let made ← blocks.mapM (makeBlock session call (session.environment scope) declarations)
  let own := linkBlocks made.flatten
  return ⟨own ++ children.blocks, outputValues own⟩

/-- Runs the module of a call. The fuel bounds how deep calls are nested. -/
def runModule (session : Session) : Nat → List Path → Runner
  | 0, _, _ => throw .tooDeep
  | fuel + 1, stack, call => do
    let blocks ← session.moduleBlocks call.directory
    let stack := call.directory :: stack
    evaluateModule session (runModule session fuel stack) stack call blocks

/-- How deep calls of modules may be nested: no directory is evaluated inside itself, and each is in
the file tree, in the manifest or in the cache of fetched sources. -/
def Session.depthLimit (session : Session) : Nat :=
  session.host.files.directoryCount + session.resolver.manifest.length + 1000

def Session.runRoot (session : Session) : Except LoadError (ModuleRun × RunState) :=
  (runModule session session.depthLimit [] session.rootCall).run .start

def runConfiguration (host : Host) (path : Path) (options : Options)
    (services : Services := .absent) : Except LoadError (ModuleRun × RunState) :=
  let root := Path.absolutize host.workingDirectory path
  match host.files.list root with
  | .error cause => .error (.unreadable root cause)
  | .ok _ => (Session.start host root options services).runRoot

def loadBlocks (host : Host) (path : Path) (options : Options) (services : Services := .absent) :
    Except LoadError (List Block) :=
  (runConfiguration host path options services).map fun (run, _) => run.blocks

/-- The document of the configuration in a directory. -/
def Document.load (host : Host) (path : Path) (options : Options) (services : Services := .absent) :
    Except LoadError Document :=
  (loadBlocks host path options services).map ofBlocks

end Terradoc
