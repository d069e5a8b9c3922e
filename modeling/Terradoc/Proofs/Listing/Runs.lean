import Terradoc.Proofs.Listing.Files

namespace Terradoc

def Host.withFiles (host : Host) (files : FileTree) : Host := { host with files := files }

section

variable {host : Host} {others : FileTree} (same : host.files.Reordered others)
include same

/-- The files that a glob matches are shown in order, however directories list them. -/
theorem fileSet_reordered (root : Path) :
    Functions.fileSet host root = Functions.fileSet (host.withFiles others) root := by
  funext directory pattern
  unfold Functions.fileSet Host.withFiles
  dsimp only
  cases Glob.parse? pattern with
  | none => rfl
  | some glob =>
    rcases (same.find (Functions.locate root directory)).cases with
      ⟨cause, here, there⟩ | ⟨node, image, here, there, found⟩
    · rw [here, there]
    · rw [here, there]
      have listed := (found.relisted.filesBelow.map (Text.joinWith "/")).filter glob.isMatch
      dsimp only
      rw [sortedTexts_perm listed]

theorem fileFunctions_reordered (root : Path)
    (render : Template → Entries Value → Except EvalError Value) :
    Functions.fileFunctions host root render =
      Functions.fileFunctions (host.withFiles others) root render := by
  have bytes : Functions.readBytes host root = Functions.readBytes (host.withFiles others) root := by
    funext path
    rw [Functions.readBytes, Functions.readBytes, same.readBytes, Host.withFiles]
  have texts : Functions.readFile host root = Functions.readFile (host.withFiles others) root := by
    funext path
    rw [Functions.readFile, Functions.readFile, bytes]
  have present : Functions.fileExists host root =
      Functions.fileExists (host.withFiles others) root := by
    funext path
    simp only [Functions.fileExists, same.hasDirectory, same.hasFile, Host.withFiles]
    rfl
  have rendered : Functions.renderFile host root render =
      Functions.renderFile (host.withFiles others) root render := by
    funext path values
    rw [Functions.renderFile, Functions.renderFile, texts]
  unfold Functions.fileFunctions
  rw [bytes, texts, present, rendered, fileSet_reordered same]
  rfl

theorem functionTable_reordered (root : Path) (depth : Nat) :
    functionTable host root depth = functionTable (host.withFiles others) root depth := by
  induction depth with
  | zero => rw [functionTable, functionTable, functionsWith, functionsWith, fileFunctions_reordered same]
  | succ depth ih =>
    rw [functionTable, functionTable, functionsWith, functionsWith, fileFunctions_reordered same, ih]
    rfl

/-- Functions do not depend on the order in which directories list their entries. -/
theorem Host.functions_reordered (root : Path) :
    host.functions root = (host.withFiles others).functions root :=
  functionTable_reordered same root templateDepth

end

/-- Two sessions that find and read the same in their files. -/
structure Session.Agree (left right : Session) : Prop where
  options : left.options = right.options
  root : left.root = right.root
  workingDirectory : left.host.workingDirectory = right.host.workingDirectory
  functions : left.functions = right.functions
  configurationFiles : ∀ directory,
    configurationFiles left.host.files directory = configurationFiles right.host.files directory
  readSource : ∀ root file,
    readSource left.host.files root file = readSource right.host.files root file
  rootInputs : ∀ env root options,
    rootInputs env left.host.files root options = rootInputs env right.host.files root options
  resolve : @left.resolver.resolve = @right.resolver.resolve
  depthLimit : left.depthLimit = right.depthLimit

namespace Session.Agree

variable {left right : Session} (agree : left.Agree right)
include agree

theorem report : left.report = right.report := by
  funext error
  rw [Session.report, Session.report, agree.options]

theorem accept {α : Type} (noted : Noted α) : left.accept noted = right.accept noted := by
  rw [Session.accept, Session.accept, agree.report]

theorem environment : left.environment = right.environment := by
  funext scope
  rw [Session.environment, Session.environment, agree.functions]

theorem moduleBlocks (directory : Path) : left.moduleBlocks directory = right.moduleBlocks directory := by
  have blocks : left.fileBlocks = right.fileBlocks := by
    funext file
    simp only [Session.fileBlocks, agree.readSource, agree.root, agree.report]
  rw [Session.moduleBlocks, Session.moduleBlocks, agree.configurationFiles, blocks]

theorem scopeOf (call : ModuleCall) (blocks : List SourceBlock) :
    left.scopeOf call blocks = right.scopeOf call blocks := by
  rw [Session.scopeOf, Session.scopeOf, agree.root, agree.workingDirectory, agree.options]

theorem inputsOf (call : ModuleCall) (env : Environment) :
    left.inputsOf call env = right.inputsOf call env := by
  rw [Session.inputsOf, Session.inputsOf, agree.rootInputs, agree.root, agree.options]

theorem childCall (stack : List Path) (caller : ModuleCall) (env : Environment) (name path : String)
    (inputs : Inputs) (body : Body) :
    childCall left stack caller env name path inputs body =
      childCall right stack caller env name path inputs body := by
  rw [Terradoc.childCall, Terradoc.childCall, agree.resolve]

theorem settleBlock (run : Runner) (stack : List Path) (caller : ModuleCall) (env : Environment)
    (block : SourceBlock) :
    settleBlock left run stack caller env block = settleBlock right run stack caller env block := by
  have child : settleChild left run stack caller = settleChild right run stack caller := by
    funext env block name key
    simp only [settleChild, runChild, agree.childCall, agree.report]
  have instances : settleInstance left run stack caller env block =
      settleInstance right run stack caller env block := by
    funext inst
    rw [settleInstance, settleInstance, child]
  rw [Terradoc.settleBlock, Terradoc.settleBlock, instances]

theorem settle (run : Runner) (stack : List Path) (caller : ModuleCall) (blocks : List SourceBlock)
    (passes : Nat) (scope : Scope) :
    settle left run stack caller blocks passes scope =
      settle right run stack caller blocks passes scope := by
  have pass : settlePass left run stack caller blocks = settlePass right run stack caller blocks := by
    funext scope
    simp only [settlePass, agree.environment, funext (agree.settleBlock run stack caller _)]
  induction passes generalizing scope with
  | zero => rfl
  | succ passes ih => simp only [Terradoc.settle, pass, ih]

theorem makeBlock (call : ModuleCall) (env : Environment) (declarations : List VariableDeclaration)
    (block : SourceBlock) :
    makeBlock left call env declarations block = makeBlock right call env declarations block := by
  have instances : makeInstance left call env declarations block =
      makeInstance right call env declarations block := by
    funext inst
    simp only [makeInstance, agree.accept]
  rw [Terradoc.makeBlock, Terradoc.makeBlock, instances, agree.accept]

theorem evaluateModule (run : Runner) (stack : List Path) (call : ModuleCall)
    (blocks : List SourceBlock) :
    evaluateModule left run stack call blocks = evaluateModule right run stack call blocks := by
  simp only [Terradoc.evaluateModule, agree.scopeOf, agree.environment, agree.inputsOf, agree.settle,
    funext (agree.makeBlock call _ _)]

/-- The same module is run in the same way, and so are all modules that it calls. -/
theorem runModule (fuel : Nat) (stack : List Path) (call : ModuleCall) :
    runModule left fuel stack call = runModule right fuel stack call := by
  induction fuel generalizing stack call with
  | zero => rfl
  | succ fuel ih =>
    have run : Terradoc.runModule left fuel = Terradoc.runModule right fuel :=
      funext fun stack => funext (ih stack)
    rw [Terradoc.runModule, Terradoc.runModule, agree.moduleBlocks, run]
    simp only [agree.evaluateModule]

theorem runRoot : left.runRoot = right.runRoot := by
  rw [Session.runRoot, Session.runRoot, agree.depthLimit, agree.runModule, Session.rootCall,
    Session.rootCall, agree.root]

end Session.Agree

theorem Host.fetcher_reordered (host : Host) {others : FileTree} (same : host.files.Reordered others)
    (services : Services) : host.fetcher services = (host.withFiles others).fetcher services :=
  funext fun source => funext fun version => fetchSource_reordered same _ source version services

theorem Session.start_agree {host : Host} {others : FileTree} (same : host.files.Reordered others)
    (root : Path) (options : Options) (services : Services) :
    (Session.start host root options services).Agree
      (Session.start (host.withFiles others) root options services) where
  options := rfl
  root := rfl
  workingDirectory := rfl
  functions := host.functions_reordered same root
  configurationFiles := configurationFiles_reordered same
  readSource := readSource_reordered same
  rootInputs := rootInputs_reordered same
  resolve := by
    unfold Session.start
    rw [host.fetcher_reordered same services]
    dsimp only [Host.withFiles]
    rw [manifest_reordered same root, Resolver.resolve_reordered same]
  depthLimit := by
    unfold Session.depthLimit Session.start
    dsimp only [Host.withFiles]
    rw [same.relisted.directoryCount, manifest_reordered same root]

theorem runConfiguration_reordered {host : Host} {others : FileTree}
    (same : host.files.Reordered others) (path : Path) (options : Options) (services : Services) :
    runConfiguration host path options services =
      runConfiguration (host.withFiles others) path options services := by
  unfold runConfiguration
  dsimp only
  rw [show (host.withFiles others).files = others from rfl,
    show (host.withFiles others).workingDirectory = host.workingDirectory from rfl]
  rcases (same.list (Path.absolutize host.workingDirectory path)).cases with
    ⟨cause, here, there⟩ | ⟨paths, listed, here, there, _⟩
  · rw [here, there]
  · rw [here, there]
    exact (Session.start_agree same _ options services).runRoot

/-- The document does not depend on the order in which directories list their entries: neither where
modules and variable files are listed, nor where functions walk through directories, whose order may be
another one. -/
theorem load_of_relisted {host : Host} {listed walked : FileTree} (formed : host.files.Formed)
    (listing : host.files.Relisted listed) (walk : host.files.Relisted walked) (path : Path)
    (options : Options) (services : Services) :
    let root := Path.absolutize host.workingDirectory path
    Document.load (host.withFiles listed) path options services =
        Document.load host path options services ∧
      ({ Session.start (host.withFiles listed) root options services with
          functions := (host.withFiles walked).functions root } : Session).runRoot =
        (Session.start host root options services).runRoot := by
  intro root
  have same : host.files.Reordered listed := ⟨formed, listing⟩
  have functions : (host.withFiles walked).functions root =
      (Session.start (host.withFiles listed) root options services).functions :=
    (host.functions_reordered ⟨formed, walk⟩ root).symm.trans (host.functions_reordered same root)
  refine ⟨?_, ?_⟩
  · rw [Document.load, Document.load, loadBlocks, loadBlocks, runConfiguration_reordered same]
  · rw [functions]
    exact (Session.start_agree same root options services).runRoot.symm

/-- A module with a variable file, and a directory that is walked through, all listed the other way round. -/
theorem load_of_relisted_reversed :
    let module := FileTree.file (Text.toBytes
      ("variable \"size\" \x7b\x7d\n" ++
        "resource \"t\" \"r\" \x7b\n  size  = var.size\n  names = fileset(\"d\", \"*.x\")\n\x7d\n"))
    let values := FileTree.file (Text.toBytes "size = 3\n")
    let below := [("a.x", FileTree.file []), ("a.y", FileTree.file [])]
    let host : Host := ⟨.directory [("a.tf", module), ("d", .directory below),
      ("terraform.tfvars", values)], ⟨"/"⟩, "/", ⟨"/tmp"⟩⟩
    let reversed := FileTree.directory [("terraform.tfvars", values), ("d", .directory below.reverse),
      ("a.tf", module)]
    (Document.load host ⟨"/"⟩ Options.standard).toOption.map Document.types = some ["variable", "t"] ∧
      host.files.Formed ∧ host.files.Relisted reversed ∧
      Document.load (host.withFiles reversed) ⟨"/"⟩ Options.standard =
        Document.load host ⟨"/"⟩ Options.standard := by
  intro module values below host reversed
  have formed : host.files.Formed := by
    refine .directory (by decide) ?_ ?_
    · intro entry member
      simp only [List.mem_cons, List.not_mem_nil, or_false] at member
      rcases member with rfl | rfl | rfl <;> exact ⟨by decide, by decide, by decide, by decide⟩
    · intro entry member
      simp only [List.mem_cons, List.not_mem_nil, or_false] at member
      rcases member with rfl | rfl | rfl
      · exact .file _
      · refine .directory (by decide) ?_ ?_
        · intro entry member
          simp only [below, List.mem_cons, List.not_mem_nil, or_false] at member
          rcases member with rfl | rfl <;> exact ⟨by decide, by decide, by decide, by decide⟩
        · intro entry member
          simp only [below, List.mem_cons, List.not_mem_nil, or_false] at member
          rcases member with rfl | rfl <;> exact .file _
      · exact .file _
  have inner : FileTree.Relisted (.directory below) (.directory below.reverse) :=
    .directory (.cons (.entry _ (.file _)) (.cons (.entry _ (.file _)) .nil))
      (List.reverse_perm below).symm
  have relisted : host.files.Relisted reversed :=
    .directory
      (.cons (.entry _ (.file _)) (.cons (.entry _ inner) (.cons (.entry _ (.file _)) .nil)))
      (List.reverse_perm _).symm
  exact ⟨by decide +kernel, formed, relisted,
    (load_of_relisted formed relisted relisted ⟨"/"⟩ Options.standard .absent).1⟩

end Terradoc
