import Mathlib.Data.List.Nodup
import Terradoc.Proofs.Nesting.Directories
import Terradoc.Proofs.Session.Reach
import Terradoc.Proofs.Session.Tolerance
import Terradoc.Proofs.Source.Resolution

/-! How deep calls of modules are nested. The directories that are being evaluated are distinct, and each
is in the file tree or in the manifest, so calls end before the fuel of a run does. -/

namespace Terradoc

namespace Path

theorem ne_of_not_same {left right : Path} (differ : left.same right = false) : left ≠ right := by
  rintro rfl
  simp [same] at differ

end Path

namespace Session

variable {session : Session}

/-- A directory that a module can be in when nothing is fetched: an existing one that is in absolute
form, or that the manifest lists. -/
structure Locates (session : Session) (directory : Path) : Prop where
  present : session.resolver.files.hasDirectory directory = true
  listed : (∃ path, directory = Path.absolutize session.resolver.workingDirectory path) ∨
    directory ∈ session.resolver.manifest.map Prod.snd

/-- What is known of the directories that are being evaluated, the innermost first. -/
structure Nests (session : Session) (directories : List Path) : Prop where
  distinct : directories.Pairwise fun inner outer => inner.same outer = false
  located : ∀ directory ∈ directories, session.Locates directory

/-- How many directories modules can be in at most. -/
def nestingBound (session : Session) : Nat :=
  session.resolver.files.directoryCount + session.resolver.manifest.length

theorem Nests.length_le {directories : List Path} (nested : session.Nests directories) :
    directories.length ≤ session.nestingBound := by
  have nodup : directories.Nodup := nested.distinct.imp Path.ne_of_not_same
  have subset : directories ⊆ session.resolver.files.directoriesBelow.map Path.ofNames ++
      session.resolver.manifest.map Prod.snd := by
    intro directory member
    obtain ⟨present, ⟨path, rfl⟩ | listed⟩ := nested.located directory member
    · exact List.mem_append_left _ (FileTree.absolutize_mem_directories present)
    · exact List.mem_append_right _ listed
  calc directories.length
    _ ≤ _ := nodup.length_le_of_subset subset
    _ = session.nestingBound := by
      rw [List.length_append, List.length_map, List.length_map,
        FileTree.length_directoriesBelow, nestingBound]

end Session

theorem Resolver.resolve_located {session : Session} (closed : session.resolver.fetcher = none)
    {caller directory : Path} {key source : String} {version : Option String}
    (found : session.resolver.resolve caller key source version = .ok directory) :
    session.Locates directory := by
  cases resolve_eq_ok.mp found with
  | written _ present => exact ⟨present, .inl ⟨_, rfl⟩⟩
  | installed _ known =>
    obtain ⟨listed, present⟩ := installed?_eq_some.mp known
    exact ⟨present, .inr (List.mem_map_of_mem (Entries.mem_of_get? listed))⟩
  | fetched _ _ fetch => cases closed.symm.trans fetch

section Reaching

variable {session : Session} (closed : session.resolver.fetcher = none)
  (rooted : session.Locates session.root)
include closed rooted

/-- A call adds a directory that exists and is not being evaluated. -/
theorem Session.Reaches.nests {stack : List Path} {call : ModuleCall}
    (reached : session.Reaches stack call) : session.Nests (call.directory :: stack) := by
  induction reached with
  | root => exact ⟨List.pairwise_singleton .., List.forall_mem_singleton.mpr rooted⟩
  | child _ made ih =>
    obtain ⟨source, directory, -, found, outside, rfl⟩ := childCall_eq_ok.mp made
    refine ⟨List.pairwise_cons.mpr ⟨fun other member => ?_, ih.distinct⟩, ?_⟩
    · simpa using List.any_eq_false.mp outside other member
    · exact List.forall_mem_cons.mpr ⟨Resolver.resolve_located closed found, ih.located⟩

end Reaching

/-- Equal computations, as a relation between runs. -/
def equalRuns (session : Session) : RunRelation session session where
  alike := ⟨rfl, rfl, rfl, rfl, rfl, rfl, rfl⟩
  rel := Eq
  ofExcept := fun _ _ => rfl
  draw := rfl
  drawNested := fun _ => rfl
  bind := by
    intro α β first second next after start rest
    rw [start, funext rest]
  report := fun _ _ => rfl

/-- Equal computations that do not run out of fuel. -/
def endingRuns (session : Session) : RunRelation session session where
  alike := ⟨rfl, rfl, rfl, rfl, rfl, rfl, rfl⟩
  rel first second := first = second ∧ ∀ state, first state ≠ .error .tooDeep
  ofExcept := by
    refine fun result shallow => ⟨rfl, fun state => ?_⟩
    cases result with
    | ok => exact nofun
    | error => exact fun deep => shallow (congrArg Except.error (Except.error.inj deep))
  draw := ⟨rfl, nofun⟩
  drawNested := fun blocks => ⟨rfl, nofun⟩
  bind := by
    intro α β first second next after start rest
    refine ⟨by rw [start.1, funext fun value => (rest value).1], fun state => ?_⟩
    show (first state >>= fun result => next result.1 result.2) ≠ _
    cases begun : first state with
    | ok result => exact (rest result.1).2 result.2
    | error cause =>
      intro deep
      obtain rfl := Except.error.inj deep
      exact start.2 state begun
  report := by
    refine fun error shallow => ⟨rfl, fun state => ?_⟩
    unfold Session.report
    split
    · exact nofun
    · exact fun deep => shallow (Except.error.inj deep)

/-- A module runs other modules by calls that the session comes to, and in no other way. -/
theorem evaluateModule_eq_of_reached {session : Session} {stack : List Path} {caller : ModuleCall}
    (reached : session.Reaches stack caller) {run other : Runner}
    (agree : ∀ call, session.Reaches (caller.directory :: stack) call → run call = other call)
    (blocks : List SourceBlock) :
    evaluateModule session run (caller.directory :: stack) caller blocks =
      evaluateModule session other (caller.directory :: stack) caller blocks := by
  show (equalRuns session).rel _ _
  refine RunRelation.evaluateModule ?_ blocks
  exact fun lead env name path inputs body =>
    (equalRuns session).sameCall fun next made => agree next (.child reached made)

section Ending

variable {session : Session} (closed : session.resolver.fetcher = none)
  (rooted : session.Locates session.root)
include closed rooted

/-- Where the fuel and the stack together reach the bound, the run does not run out of fuel, and more fuel
changes nothing. -/
theorem runModule_ends {fuel other : Nat} {stack : List Path} {call : ModuleCall}
    (reached : session.Reaches stack call) (enough : session.nestingBound ≤ stack.length + fuel)
    (more : session.nestingBound ≤ stack.length + other) :
    (endingRuns session).rel (runModule session fuel stack call)
      (runModule session other stack call) := by
  -- The directory of the call is one more on the stack, so that the bound leaves fuel for it.
  have room : stack.length + 1 ≤ session.nestingBound := (reached.nests closed rooted).length_le
  induction fuel generalizing other stack call with
  | zero => omega
  | succ fuel ih =>
    cases other with
    | zero => omega
    | succ other =>
      refine (endingRuns session).bind ((endingRuns session).moduleBlocks call.directory)
        fun blocks => ?_
      refine RunRelation.evaluateModule ?_ blocks
      refine fun lead env name path inputs body => (endingRuns session).sameCall fun next made => ?_
      have deeper := reached.child made
      refine ih deeper ?_ ?_ ?_
      · simp only [List.length_cons]
        omega
      · simp only [List.length_cons]
        omega
      · exact (deeper.nests closed rooted).length_le

end Ending

/-- Runs of configurations end when nothing is fetched: no run is too deep, a run with as much fuel as
there are directories and installed modules is the run with any more fuel, and whenever a module is
evaluated the directories on the stack are distinct ones that exist, each in absolute form or from the
manifest, so that there are no more of them. -/
theorem runConfiguration_ends (host : Host) (path : Path) (options : Options) (services : Services)
    (offline : options.allowDownloads = false) :
    let session := Session.start host (Path.absolutize host.workingDirectory path) options services
    let bound := host.files.directoryCount + (Manifest.load host.files session.root).length
    runConfiguration host path options services ≠ .error .tooDeep ∧
      ((host.files.list session.root).isOk →
        (∀ fuel ≥ bound, (runModule session fuel [] session.rootCall).run .start =
          runConfiguration host path options services) ∧
        ∀ stack call, session.Reaches stack call →
          session.Nests (call.directory :: stack) ∧ (call.directory :: stack).length ≤ bound ∧
          ∀ run other blocks,
            (∀ next, session.Reaches (call.directory :: stack) next → run next = other next) →
            evaluateModule session run (call.directory :: stack) call blocks =
              evaluateModule session other (call.directory :: stack) call blocks) := by
  intro session bound
  have closed : session.resolver.fetcher = none := by simp [session, Session.start, offline]
  cases listed : host.files.list session.root with
  | error cause =>
    rw [runConfiguration_of_unreadable options services listed]
    exact ⟨fun same => LoadError.noConfusion (Except.error.inj same), Bool.noConfusion⟩
  | ok paths =>
    rw [runConfiguration_of_list options services listed]
    have rooted : session.Locates session.root :=
      ⟨FileTree.hasDirectory_of_list listed, .inl ⟨path, rfl⟩⟩
    have ends : ∀ fuel ≥ bound, (endingRuns session).rel (runModule session fuel [] session.rootCall)
        (runModule session session.depthLimit [] session.rootCall) := by
      refine fun fuel enough => runModule_ends closed rooted .root ?_ ?_
      · exact Nat.le_trans enough (Nat.le_add_left ..)
      · exact Nat.le_trans (Nat.le_add_right ..) (Nat.le_add_left ..)
    refine ⟨?_, fun _ => ⟨fun fuel enough => ?_, fun stack call reached => ?_⟩⟩
    · exact (ends session.depthLimit (Nat.le_add_right ..)).2 .start
    · rw [(ends fuel enough).1]
      rfl
    · have nested := reached.nests closed rooted
      exact ⟨nested, nested.length_le, fun run other blocks agree =>
        evaluateModule_eq_of_reached reached agree blocks⟩

/-- Two modules that call each other. The fuel for both is enough, and that for one of them is not. -/
theorem runConfiguration_ends_in_cycle :
    let host := Host.withModule "module \"m\" \x7b\n  source = \"./inner\"\n\x7d\n"
      "module \"up\" \x7b\n  source = \"../\"\n\x7d\n"
    let session := Session.start host (Path.absolutize host.workingDirectory ⟨"/"⟩) Options.standard
    host.files.directoryCount + (Manifest.load host.files session.root).length = 2 ∧
    ((runModule session 2 [] session.rootCall).run .start =
        runConfiguration host ⟨"/"⟩ Options.standard ∧
      ((runConfiguration host ⟨"/"⟩ Options.standard).map fun (run, state) =>
          (run.blocks.map Block.path, state.tolerated.map LoadError.message)).toOption =
        some (["module.m", "module.m.module.up"],
          ["module module.m.module.up: / is already being evaluated"])) ∧
    ((runModule session 1 [] session.rootCall).run .start).isOk = false := by
  intro host session
  have bound : host.files.directoryCount + (Manifest.load host.files session.root).length = 2 := by
    decide +kernel
  have ends := (runConfiguration_ends host ⟨"/"⟩ Options.standard .absent rfl).2 (by decide +kernel)
  refine ⟨bound, ⟨ends.1 2 (Nat.le_of_eq bound), ?_⟩, ?_⟩
  · decide +kernel
  · decide +kernel

end Terradoc
