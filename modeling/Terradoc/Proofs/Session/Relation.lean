import Terradoc.Module.Run

namespace Terradoc

/-- Two sessions that evaluate the same files with the same functions and inputs. -/
structure Session.Alike (left right : Session) : Prop where
  host : left.host = right.host
  root : left.root = right.root
  functions : left.functions = right.functions
  manifest : left.resolver.manifest = right.resolver.manifest
  workspace : left.options.workspace = right.options.workspace
  variableFiles : left.options.variableFiles = right.options.variableFiles
  assignments : left.options.assignments = right.options.assignments

namespace Session.Alike

variable {left right : Session} (alike : left.Alike right)
include alike

theorem environment (scope : Scope) : left.environment scope = right.environment scope := by
  rw [Session.environment, Session.environment, alike.functions]

theorem scopeOf (call : ModuleCall) (blocks : List SourceBlock) :
    left.scopeOf call blocks = right.scopeOf call blocks := by
  rw [Session.scopeOf, Session.scopeOf, alike.host, alike.root, alike.workspace]

theorem inputsOf (call : ModuleCall) (env : Environment) :
    left.inputsOf call env = right.inputsOf call env := by
  rw [Session.inputsOf, Session.inputsOf, rootInputs, rootInputs, alike.host, alike.root,
    alike.workspace, alike.variableFiles, alike.assignments]

theorem depthLimit : left.depthLimit = right.depthLimit := by
  rw [Session.depthLimit, Session.depthLimit, alike.host, alike.manifest]

theorem rootCall : left.rootCall = right.rootCall := by
  rw [Session.rootCall, Session.rootCall, alike.root]

end Session.Alike

/-- A relation between computations of two sessions that is kept in sequence, and holds between what both
sessions do in the same way and between reports of errors. It need not hold where calls of modules are
nested too deeply. -/
structure RunRelation (left right : Session) where
  alike : left.Alike right
  rel : {α : Type} → Running α → Running α → Prop
  ofExcept : ∀ {α : Type} (result : Except LoadError α), result ≠ .error .tooDeep →
    rel (Running.ofExcept result) (Running.ofExcept result)
  draw : rel Running.draw Running.draw
  drawNested : ∀ blocks, rel (Running.drawNested blocks) (Running.drawNested blocks)
  bind : ∀ {α β : Type} {first second : Running α} {next after : α → Running β},
    rel first second → (∀ value, rel (next value) (after value)) →
    rel (first >>= next) (second >>= after)
  report : ∀ error, error ≠ .tooDeep → rel (left.report error) (right.report error)

theorem readSource_ne {files : FileTree} {root file : Path} {error : LoadError}
    (failed : readSource files root file = .error error) : error ≠ .tooDeep := by
  unfold readSource at failed
  split at failed
  · cases failed
    exact nofun
  · split at failed
    · cases failed
    · cases failed
      exact nofun

theorem readVariableFiles_ne (env : Environment) (files : FileTree) (inputs : Inputs)
    (paths : List Path) : readVariableFiles env files inputs paths ≠ .error .tooDeep := by
  induction paths generalizing inputs with
  | nil => exact nofun
  | cons path rest ih =>
    rw [readVariableFiles, readVariableFile]
    split
    · exact nofun
    · split
      · exact ih _
      · exact nofun

theorem Session.inputsOf_ne (session : Session) (call : ModuleCall) (env : Environment) :
    session.inputsOf call env ≠ .error .tooDeep := by
  unfold Session.inputsOf rootInputs
  split
  · exact nofun
  · split
    · exact nofun
    · rename_i paths _
      have read := readVariableFiles_ne env session.host.files []
        (standardFiles paths session.options.workspace ++
          session.options.variableFiles.map session.root.join)
      intro failed
      dsimp only [Bind.bind, Except.bind] at failed
      split at failed
      · rename_i error cause
        cases failed
        exact read cause
      · cases failed

namespace RunRelation

variable {left right : Session} (relation : RunRelation left right) {α β : Type}

theorem pure (value : α) : relation.rel (Pure.pure value) (Pure.pure value) :=
  relation.ofExcept (.ok value) nofun

theorem throw {error : LoadError} (shallow : error ≠ .tooDeep) :
    relation.rel (MonadExcept.throw error : Running α) (MonadExcept.throw error) :=
  relation.ofExcept (.error error) fun same => shallow (Except.error.inj same)

theorem mapM {step after : α → Running β} (turn : ∀ item, relation.rel (step item) (after item))
    (items : List α) : relation.rel (items.mapM step) (items.mapM after) := by
  induction items with
  | nil => exact relation.pure []
  | cons item rest ih =>
    simp only [List.mapM_cons]
    exact relation.bind (turn item) fun first => relation.bind ih fun others =>
      relation.pure (first :: others)

theorem forM {step after : α → Running PUnit} (turn : ∀ item, relation.rel (step item) (after item))
    (items : List α) : relation.rel (items.forM step) (items.forM after) := by
  induction items with
  | nil => exact relation.pure ()
  | cons item rest ih => exact relation.bind (turn item) fun _ => ih

theorem accept (noted : Noted α) : relation.rel (left.accept noted) (right.accept noted) :=
  relation.bind (relation.forM (fun fault => relation.report (.evaluation fault) nofun) _) fun _ =>
    relation.pure noted.value

theorem fileBlocks (file : Path) : relation.rel (left.fileBlocks file) (right.fileBlocks file) := by
  rw [Session.fileBlocks, Session.fileBlocks, relation.alike.host, relation.alike.root]
  split
  · rename_i failed
    exact relation.bind (relation.report _ (readSource_ne failed)) fun _ => relation.pure []
  · exact relation.bind (relation.forM (fun _ => relation.report (.incompleteBlock ..) nofun) _)
      fun _ => relation.pure _

theorem moduleBlocks (directory : Path) :
    relation.rel (left.moduleBlocks directory) (right.moduleBlocks directory) := by
  rw [Session.moduleBlocks, Session.moduleBlocks, relation.alike.host]
  split
  · exact relation.throw nofun
  · exact relation.bind (relation.mapM relation.fileBlocks _) fun found => relation.pure found.flatten

section Making

variable (call : ModuleCall) (env : Environment) (declarations : List VariableDeclaration)

theorem makeInstance (block : SourceBlock) (inst : Instance) :
    relation.rel (makeInstance left call env declarations block inst)
      (makeInstance right call env declarations block inst) := by
  refine relation.bind relation.draw fun id => ?_
  refine relation.bind (relation.accept _) fun body => ?_
  exact relation.bind (relation.drawNested body.blocks) fun nested => relation.pure _

theorem makeBlock (block : SourceBlock) :
    relation.rel (makeBlock left call env declarations block)
      (makeBlock right call env declarations block) := by
  refine relation.bind (relation.accept _) fun all => relation.mapM (fun inst => ?_) all
  exact relation.bind (relation.makeInstance call env declarations block inst) fun made =>
    relation.pure (block, made)

end Making

/-- The relation between computations that keep the called modules. -/
def Settles (first second : Settling α) : Prop :=
  ∀ children, relation.rel (first children) (second children)

/-- The same call under both sessions: a module that is run, or an error that is reported. -/
theorem sameCall {run other : Runner} {lead : String} {call : Except ModuleFault ModuleCall}
    (agree : ∀ next, call = .ok next → relation.rel (run next) (other next)) :
    relation.rel (runChild left run lead call) (runChild right other lead call) := by
  cases call with
  | ok next => exact relation.bind (agree next rfl) fun run => relation.pure (some run)
  | error fault =>
    exact relation.bind (relation.report (.module lead fault) nofun) fun _ => relation.pure none

section Settling

variable {relation}

theorem Settles.pure (value : α) : relation.Settles (Pure.pure value) (Pure.pure value) :=
  fun children => relation.pure (value, children)

theorem Settles.bind {first second : Settling α} {next after : α → Settling β}
    (start : relation.Settles first second)
    (rest : ∀ value, relation.Settles (next value) (after value)) :
    relation.Settles (first >>= next) (second >>= after) := by
  intro children
  show relation.rel (first children >>= fun result => next result.1 result.2)
    (second children >>= fun result => after result.1 result.2)
  exact relation.bind (start children) fun result => rest result.1 result.2

theorem Settles.lift {first second : Running α} (start : relation.rel first second) :
    relation.Settles (StateT.lift first) (StateT.lift second) :=
  fun children => relation.bind start fun value => relation.pure (value, children)

theorem Settles.mapM {step after : α → Settling β}
    (turn : ∀ item, relation.Settles (step item) (after item)) (items : List α) :
    relation.Settles (items.mapM step) (items.mapM after) := by
  induction items with
  | nil => exact .pure []
  | cons item rest ih =>
    simp only [List.mapM_cons]
    exact (turn item).bind fun first => ih.bind fun others => .pure (first :: others)

end Settling

section Modules

variable {relation} {run other : Runner} {stack : List Path} {caller : ModuleCall}
  (calls : ∀ lead env name path inputs body,
    relation.rel
      (runChild left run lead (childCall left stack caller env name path inputs body))
      (runChild right other lead (childCall right stack caller env name path inputs body)))
include calls

theorem settleChild (env : Environment) (block : SourceBlock) (name : String)
    (key : Option InstanceKey) :
    relation.Settles (settleChild left run stack caller env block name key)
      (settleChild right other stack caller env block name key) := by
  refine .bind (fun children => relation.pure (children, children)) fun children => ?_
  have keep : ∀ (children : Children) (value : Value), relation.Settles
      (do set children; return value) (do set children; return value) := fun children value =>
    .bind (fun _ => relation.pure ((), children)) fun _ => .pure value
  dsimp only
  split
  · exact .bind (.pure _) fun child => keep _ _
  · refine .bind (.bind (.lift ?_) fun run => .pure _) fun child => keep _ _
    exact calls _ _ _ _ _ _

theorem settleInstance (env : Environment) (block : SourceBlock) (inst : Instance) :
    relation.Settles (settleInstance left run stack caller env block inst)
      (settleInstance right other stack caller env block inst) := by
  unfold Terradoc.settleInstance
  split
  · exact settleChild calls _ block _ inst.key
  · exact .pure _

theorem settleBlock (env : Environment) (block : SourceBlock) :
    relation.Settles (settleBlock left run stack caller env block)
      (settleBlock right other stack caller env block) := by
  refine .bind (.mapM (fun inst => ?_) _) fun values => .pure _
  exact .bind (settleInstance calls env block inst) fun value => .pure _

theorem settlePass (blocks : List SourceBlock) (scope : Scope) :
    relation.Settles (settlePass left run stack caller blocks scope)
      (settlePass right other stack caller blocks scope) := by
  unfold Terradoc.settlePass
  simp only [relation.alike.environment]
  refine .bind (fun children => relation.pure ((), _)) fun _ => ?_
  exact .bind (.mapM (settleBlock calls _) _) fun values => .pure _

theorem settle (blocks : List SourceBlock) (passes : Nat) (scope : Scope) :
    relation.Settles (settle left run stack caller blocks passes scope)
      (settle right other stack caller blocks passes scope) := by
  induction passes generalizing scope with
  | zero => exact .pure scope
  | succ passes ih =>
    refine .bind (settlePass calls blocks scope) fun next => ?_
    split
    · exact .pure next
    · exact ih next

theorem evaluateModule (blocks : List SourceBlock) :
    relation.rel (evaluateModule left run stack caller blocks)
      (evaluateModule right other stack caller blocks) := by
  unfold Terradoc.evaluateModule
  simp only [relation.alike.environment, relation.alike.scopeOf, relation.alike.inputsOf]
  refine relation.bind (relation.ofExcept _ (right.inputsOf_ne _ _)) fun inputs => ?_
  refine relation.bind (settle calls blocks maxPasses _ .empty) fun settled => ?_
  refine relation.bind (relation.mapM (fun block => ?_) blocks) fun made => relation.pure _
  exact relation.makeBlock caller _ _ block

end Modules

/-- What the relation needs to hold between whole runs: that it holds between calls of modules, and where
these are nested too deeply. -/
structure OfRuns : Prop where
  exhausted : relation.rel (MonadExcept.throw .tooDeep : Running ModuleRun)
    (MonadExcept.throw .tooDeep)
  child : ∀ {run other : Runner}, (∀ call, relation.rel (run call) (other call)) →
    ∀ lead stack caller env name path inputs body, relation.rel
      (runChild left run lead (childCall left stack caller env name path inputs body))
      (runChild right other lead (childCall right stack caller env name path inputs body))

section Runs

variable {relation} (holds : relation.OfRuns)
include holds

/-- A run of a module under one session is related to the run under the other. -/
theorem OfRuns.runModule (fuel : Nat) (stack : List Path) (call : ModuleCall) :
    relation.rel (Terradoc.runModule left fuel stack call) (Terradoc.runModule right fuel stack call) := by
  induction fuel generalizing stack call with
  | zero => exact holds.exhausted
  | succ fuel ih =>
    refine relation.bind (relation.moduleBlocks call.directory) fun blocks => ?_
    exact evaluateModule (fun lead env name path inputs body =>
      holds.child (ih _) lead _ call env name path inputs body) blocks

theorem OfRuns.runRoot :
    relation.rel (Terradoc.runModule left left.depthLimit [] left.rootCall)
      (Terradoc.runModule right right.depthLimit [] right.rootCall) := by
  rw [relation.alike.depthLimit, relation.alike.rootCall]
  exact holds.runModule _ _ _

end Runs

end RunRelation

end Terradoc
