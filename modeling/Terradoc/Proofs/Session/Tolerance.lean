import Terradoc.Proofs.Session.Relation

/-! Stricter options. A run succeeds under stricter options exactly where it succeeds under weaker ones
and all the errors that it tolerates there would be tolerated by the stricter ones too. -/

namespace Terradoc

/-- Every error that is tolerated so far is one that the options tolerate. -/
def RunState.Within (state : RunState) (options : Options) : Prop :=
  ∀ error ∈ state.tolerated, options.tolerates error = true

private theorem reports_eq (session : Session) (faults : List EvaluationFault) (state : RunState) :
    (faults.forM fun fault => session.report (.evaluation fault)) state =
      match session.options.stopOnError, faults with
      | true, fault :: _ => .error (.evaluation fault)
      | _, _ => .ok ((), { state with
          tolerated := state.tolerated ++ faults.map LoadError.evaluation }) := by
  induction faults generalizing state with
  | nil =>
    have same : state = { state with tolerated := state.tolerated ++ [] } := by rw [List.append_nil]
    cases session.options.stopOnError <;> exact congrArg (fun after => Except.ok ((), after)) same
  | cons fault rest ih =>
    show (session.report (.evaluation fault) >>= _) state = _
    cases stop : session.options.stopOnError with
    | true =>
      have ended : session.report (.evaluation fault) = throw (.evaluation fault) := by
        simp [Session.report, Options.tolerates, stop]
      rw [ended]
      rfl
    | false =>
      have noted : session.report (.evaluation fault) = Running.note (.evaluation fault) := by
        simp [Session.report, Options.tolerates, stop]
      rw [noted]
      refine (ih _).trans ?_
      simp [stop]

/-- Where evaluation stops at errors the first fault of a result ends the run; otherwise the run goes on
with the result and notes all its faults. -/
theorem Session.accept_eq (session : Session) {α : Type} (noted : Noted α) (state : RunState) :
    session.accept noted state =
      match noted.result session.options.stopOnError with
      | .ok value => .ok (value, { state with
          tolerated := state.tolerated ++ noted.faults.map LoadError.evaluation })
      | .error fault => .error (.evaluation fault) := by
  obtain ⟨value, faults⟩ := noted
  simp only [Session.accept, Bind.bind, StateT.bind, reports_eq session faults state]
  cases session.options.stopOnError with
  | false => rfl
  | true =>
    cases faults with
    | nil => rfl
    | cons => rfl

/-- The first computation succeeds where the second does and tolerates only what the options do. No
error that the second one has tolerated is forgotten. -/
structure Stricter (options : Options) {α : Type} (first second : Running α) : Prop where
  keeps : ∀ {state value after}, second state = .ok (value, after) →
    state.tolerated ⊆ after.tolerated
  succeeds : ∀ {state value after}, state.Within options →
    (first state = .ok (value, after) ↔ second state = .ok (value, after) ∧ after.Within options)

theorem Running.bind_eq_ok {α β : Type} {first : Running α} {next : α → Running β} {state after : RunState}
    {value : β} : (first >>= next) state = .ok (value, after) ↔
      ∃ middle between, first state = .ok (middle, between) ∧
        next middle between = .ok (value, after) := by
  show (first state >>= fun result => next result.1 result.2) = _ ↔ _
  cases first state with
  | error cause => simp [Bind.bind, Except.bind]
  | ok result =>
    obtain ⟨middle, between⟩ := result
    constructor
    · exact fun done => ⟨middle, between, rfl, done⟩
    · rintro ⟨_, _, same, done⟩
      cases same
      exact done

namespace Stricter

variable {options : Options} {α β : Type}

/-- What does not touch the tolerated errors is the same under all options. -/
theorem of_same {first : Running α}
    (same : ∀ {state value after}, first state = .ok (value, after) →
      after.tolerated = state.tolerated) :
    Stricter options first first where
  keeps := fun done => (same done).symm ▸ List.Subset.refl _
  succeeds := by
    intro state value after within
    refine ⟨fun done => ⟨done, ?_⟩, And.left⟩
    rw [RunState.Within, same done]
    exact within

theorem bind {first second : Running α} {next after : α → Running β}
    (start : Stricter options first second) (rest : ∀ value, Stricter options (next value) (after value)) :
    Stricter options (first >>= next) (second >>= after) where
  keeps := by
    intro state value final done
    obtain ⟨middle, between, here, there⟩ := Running.bind_eq_ok.mp done
    exact List.Subset.trans (start.keeps here) ((rest middle).keeps there)
  succeeds := by
    intro state value final within
    rw [Running.bind_eq_ok, Running.bind_eq_ok]
    constructor
    · rintro ⟨middle, between, here, there⟩
      obtain ⟨begun, calm⟩ := (start.succeeds within).mp here
      obtain ⟨ended, quiet⟩ := ((rest middle).succeeds calm).mp there
      exact ⟨⟨middle, between, begun, ended⟩, quiet⟩
    · rintro ⟨⟨middle, between, here, there⟩, quiet⟩
      -- What is tolerated between is tolerated in the end, so it is within the options as well.
      have calm : between.Within options := fun error member =>
        quiet error ((rest middle).keeps there member)
      exact ⟨middle, between, (start.succeeds within).mpr ⟨here, calm⟩,
        ((rest middle).succeeds calm).mpr ⟨there, quiet⟩⟩

end Stricter

section Sessions

variable {left right : Session} (alike : left.Alike right)
  (weaker : ∀ error, left.options.tolerates error = true → right.options.tolerates error = true)
include weaker

theorem report_stricter (error : LoadError) :
    Stricter left.options (left.report error) (right.report error) := by
  have noted : ∀ {state value after}, Running.note error state = .ok (value, after) →
      after.tolerated = state.tolerated ++ [error] := by
    intro state value after done
    cases done
    rfl
  unfold Session.report
  by_cases lenient : left.options.tolerates error = true
  · rw [if_pos lenient, if_pos (weaker error lenient)]
    refine ⟨fun done => ?_, fun {state value after} within => ⟨fun done => ⟨done, ?_⟩, And.left⟩⟩
    · rw [noted done]
      exact List.subset_append_left ..
    · intro other member
      rw [noted done] at member
      rcases List.mem_append.mp member with before | same
      · exact within other before
      · obtain rfl := List.mem_singleton.mp same
        exact lenient
  · rw [if_neg lenient]
    split
    · refine ⟨fun done => ?_, fun {state value after} within => ⟨?_, ?_⟩⟩
      · rw [noted done]
        exact List.subset_append_left ..
      · intro ended
        cases ended
      · rintro ⟨done, quiet⟩
        refine absurd (quiet error ?_) lenient
        rw [noted done]
        exact List.mem_append_right _ (List.mem_singleton_self error)
    · exact .of_same fun done => by cases done

/-- Sessions that differ only in how much they tolerate. -/
def stricterRuns : RunRelation left right where
  alike := alike
  rel := Stricter left.options
  ofExcept := by
    intro α result _
    refine .of_same fun {state value after} done => ?_
    cases result with
    | error => cases done
    | ok => cases done; rfl
  draw := .of_same fun done => by cases done; rfl
  drawNested := fun blocks => .of_same fun done => by cases done; rfl
  bind := Stricter.bind
  report := fun error _ => report_stricter weaker error

theorem stricterRuns_ofRuns (resolver : left.resolver = right.resolver) :
    (stricterRuns alike weaker).OfRuns where
  exhausted := .of_same fun done => by cases done
  child := by
    intro run other runs lead stack caller env name path inputs body
    rw [childCall, childCall, resolver]
    exact (stricterRuns alike weaker).sameCall fun next _ => runs next

end Sessions

/-- A configuration runs under stricter options exactly where it runs under weaker ones and they
tolerate nothing else. -/
theorem runConfiguration_iff_within (host : Host) (path : Path) (options : Options)
    (services : Services) (stop strict : Bool)
    (stops : stop = true → options.stopOnError = true)
    (resolves : strict = true → options.strict = true) (result : ModuleRun × RunState) :
    runConfiguration host path options services = .ok result ↔
      runConfiguration host path { options with stopOnError := stop, strict := strict } services =
          .ok result ∧
        result.2.Within options := by
  unfold runConfiguration
  dsimp only
  split
  · simp
  · have weaker : ∀ error, options.tolerates error = true →
        { options with stopOnError := stop, strict := strict }.tolerates error = true := by
      intro error
      unfold Options.tolerates
      cases error <;> cases stop <;> cases strict <;> simp_all
    let root := Path.absolutize host.workingDirectory path
    let left := Session.start host root options services
    let right := Session.start host root { options with stopOnError := stop, strict := strict } services
    have alike : left.Alike right := ⟨rfl, rfl, rfl, rfl, rfl, rfl, rfl⟩
    exact ((stricterRuns_ofRuns alike weaker rfl).runRoot).succeeds fun _ member => nomatch member

def LoadError.ofCall : LoadError → Bool
  | .module .. => true
  | _ => false

theorem Options.tolerates_stopping (options : Options) (error : LoadError) :
    { options with stopOnError := true }.tolerates error = true ↔
      error.ofCall = true ∧ { options with stopOnError := false }.tolerates error = true := by
  cases error <;> simp [tolerates, LoadError.ofCall]

/-- A run that stops at errors gives a document exactly where the run that goes on gives it and meets
no error but in calls of modules that cannot be made. All errors count that are met on the way, those in
runs of called modules with inputs that were not settled yet included. -/
theorem load_stopped_iff (host : Host) (path : Path) (options : Options) (services : Services)
    (document : Document) :
    Document.load host path { options with stopOnError := true } services = .ok document ↔
      ∃ run state,
        runConfiguration host path { options with stopOnError := false } services = .ok (run, state) ∧
          Document.ofBlocks run.blocks = document ∧
            ∀ error ∈ state.tolerated, error.ofCall = true := by
  have stopped := runConfiguration_iff_within host path { options with stopOnError := true } services
    false options.strict (fun ended => nomatch ended) (fun strict => strict)
  have tolerant := runConfiguration_iff_within host path { options with stopOnError := false } services
    false options.strict (fun ended => nomatch ended) (fun strict => strict)
  constructor
  · intro loaded
    unfold Document.load loadBlocks at loaded
    cases begun : runConfiguration host path { options with stopOnError := true } services with
    | error => rw [begun] at loaded; cases loaded
    | ok result =>
      obtain ⟨run, state⟩ := result
      obtain ⟨done, within⟩ := (stopped _).mp begun
      rw [begun] at loaded
      cases loaded
      exact ⟨run, state, done, rfl, fun error member =>
        ((options.tolerates_stopping error).mp (within error member)).1⟩
  · rintro ⟨run, state, done, rfl, calls⟩
    have within := ((tolerant _).mp done).2
    have begun := (stopped (run, state)).mpr ⟨done, fun error member =>
      (options.tolerates_stopping error).mpr ⟨calls error member, within error member⟩⟩
    rw [Document.load, loadBlocks, begun]
    rfl

/-- A machine with a configuration file in its root directory, and a module in a directory beside it. -/
def Host.withModule (configuration module : String) : Host :=
  ⟨.directory [("main.tf", .file (Text.toBytes configuration)),
      ("inner", .directory [("main.tf", .file (Text.toBytes module))])],
    ⟨"/"⟩, "/", ⟨"/tmp"⟩⟩

/-- A module that is called with a list in which an item is not known in the first pass. A run that goes
on meets an error in that pass only: the run of the module with the settled list, which makes the blocks
of the document, meets none. A run that stops at errors stops at the first pass. -/
theorem load_stopped_by_unsettled_input :
    let host := Host.withModule
      ("locals \x7b\n  names = [local.base]\n  base  = \"x\"\n\x7d\n" ++
        "module \"m\" \x7b\n  source = \"./inner\"\n  names  = local.names\n\x7d\n")
      "variable \"names\" \x7b\x7d\nresource \"t\" \"r\" \x7b\n  for_each = var.names\n\x7d\n"
    let session := Session.start host ⟨"/"⟩ Options.standard
    let call : ModuleCall := ⟨⟨"/inner"⟩, "module.m.", "m", some [("names", .list [.string "x"])]⟩
    ((runConfiguration host ⟨"/"⟩ Options.standard).map fun (run, state) =>
        (run.blocks.map Block.path, state.tolerated.map LoadError.message)).toOption =
      some (["locals", "module.m", "module.m.variable.names", "module.m.t.r[\"x\"]"],
        ["evaluation error at module.m.t.r: for_each over a list requires strings, got unknown"]) ∧
    (((runModule session 1 [session.root] call).run .start).map fun (run, state) =>
        (run.blocks.map Block.path, state.tolerated.map LoadError.message)).toOption =
      some (["module.m.variable.names", "module.m.t.r[\"x\"]"], []) ∧
    (Document.load host ⟨"/"⟩ { Options.standard with stopOnError := true }).isOk = false := by
  decide +kernel

end Terradoc
