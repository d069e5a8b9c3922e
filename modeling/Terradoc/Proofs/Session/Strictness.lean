import Terradoc.Proofs.Session.Tolerance
import Terradoc.Proofs.Source.Resolution

/-! What succeeds under strict options succeeds in the same way under lenient ones: where evaluation
does not stop at errors, where modules may be missing, and where sources may be fetched. -/

namespace Terradoc

/-- A module that resolves where nothing may be fetched resolves to the same directory where it may. -/
theorem Resolver.resolve_opened {resolver : Resolver} (closed : resolver.fetcher = none)
    (fetcher : Option Fetcher) {caller directory : Path} {key source : String} {version : Option String}
    (found : resolver.resolve caller key source version = .ok directory) :
    { resolver with fetcher := fetcher }.resolve caller key source version = .ok directory := by
  cases resolve_eq_ok.mp found with
  | written directory present => exact resolve_eq_ok.mpr (.written directory present)
  | installed elsewhere known => exact resolve_eq_ok.mpr (.installed elsewhere known)
  | fetched _ _ fetch => cases closed.symm.trans fetch

/-- The second computation succeeds in the same way wherever the first one does. -/
def Follows {α : Type} (first second : Running α) : Prop :=
  ∀ state result, first state = .ok result → second state = .ok result

namespace Follows

variable {α β : Type}

theorem refl (first : Running α) : Follows first first := fun _ _ done => done

theorem bind {first second : Running α} {next after : α → Running β} (start : Follows first second)
    (rest : ∀ value, Follows (next value) (after value)) :
    Follows (first >>= next) (second >>= after) := by
  rintro state ⟨value, final⟩ done
  obtain ⟨middle, between, here, there⟩ := Running.bind_eq_ok.mp done
  exact Running.bind_eq_ok.mpr ⟨middle, between, start _ _ here, rest middle _ _ there⟩

end Follows

section Sessions

variable {left right : Session} {fetcher : Option Fetcher} (closed : left.resolver.fetcher = none)
  (opened : right.resolver = { left.resolver with fetcher := fetcher })
include closed opened

theorem childCall_opened {stack : List Path} {caller call : ModuleCall} {env : Environment}
    {name path : String} {inputs : Inputs} {body : Body}
    (made : childCall left stack caller env name path inputs body = .ok call) :
    childCall right stack caller env name path inputs body = .ok call := by
  unfold childCall at made ⊢
  cases written : sourceOf env body with
  | error => rw [written] at made; cases made
  | ok source =>
    rw [written] at made
    simp only [Bind.bind, Except.bind] at made ⊢
    split at made
    · cases made
    · rename_i directory found
      rw [opened, Resolver.resolve_opened closed fetcher found]
      exact made

/-- In a strict session a module that cannot be resolved ends the run, so that fetching changes nothing
about a run that succeeds. -/
def openedRuns (alike : left.Alike right) (stop : left.options.stopOnError = right.options.stopOnError)
    (strict : left.options.strict = true) (same : right.options.strict = true) :
    RunRelation left right where
  alike := alike
  rel := Follows
  ofExcept := fun result _ => .refl _
  draw := .refl _
  drawNested := fun blocks => .refl _
  bind := Follows.bind
  report := by
    intro error _
    have tolerates : left.options.tolerates error = right.options.tolerates error := by
      cases error <;> simp [Options.tolerates, stop, strict, same]
    rw [Session.report, Session.report, tolerates]
    exact .refl _

include closed opened in
theorem openedRuns_ofRuns (alike : left.Alike right)
    (stop : left.options.stopOnError = right.options.stopOnError)
    (strict : left.options.strict = true) (same : right.options.strict = true) :
    (openedRuns alike stop strict same).OfRuns where
  exhausted := .refl _
  child := by
    intro run other runs lead stack caller env name path inputs body
    cases made : childCall left stack caller env name path inputs body with
    | ok call =>
      rw [childCall_opened closed opened made]
      exact .bind (runs call) fun run => .refl (pure (some run))
    | error fault =>
      intro state result done
      have ended : left.report (.module lead fault) state = .error (.module lead fault) := by
        simp only [Session.report, Options.tolerates, strict]
        rfl
      obtain ⟨value, final⟩ := result
      obtain ⟨_, _, here, _⟩ := Running.bind_eq_ok.mp done
      rw [ended] at here
      cases here

end Sessions

theorem runConfiguration_opened {host : Host} {path : Path} {options : Options} {services : Services}
    (strict : options.strict = true) (offline : options.allowDownloads = false)
    {result : ModuleRun × RunState} (done : runConfiguration host path options services = .ok result) :
    runConfiguration host path { options with allowDownloads := true } services = .ok result := by
  unfold runConfiguration at done ⊢
  dsimp only at done ⊢
  split at done
  · cases done
  · let root := Path.absolutize host.workingDirectory path
    let left := Session.start host root options services
    let right := Session.start host root { options with allowDownloads := true } services
    have closed : left.resolver.fetcher = none := by simp [left, Session.start, offline]
    have opened : right.resolver = { left.resolver with fetcher := some (host.fetcher services) } := rfl
    have alike : left.Alike right := ⟨rfl, rfl, rfl, rfl, rfl, rfl, rfl⟩
    exact (openedRuns_ofRuns closed opened alike rfl strict strict).runRoot _ _ done

/-- What a run gives under its options it gives under more lenient ones too: where errors do not stop
it, where modules may be missing, and, when none may, where sources may be fetched. -/
theorem load_lenient {host : Host} {path : Path} {options : Options} {services : Services}
    {document : Document} (loaded : Document.load host path options services = .ok document) :
    Document.load host path { options with stopOnError := false } services = .ok document ∧
      Document.load host path { options with strict := false } services = .ok document ∧
      (options.strict = true → options.allowDownloads = false →
        Document.load host path { options with allowDownloads := true } services = .ok document) := by
  cases done : runConfiguration host path options services with
  | error cause =>
    rw [Document.load, loadBlocks, done] at loaded
    cases loaded
  | ok result =>
    have transfer : ∀ {other : Options}, runConfiguration host path other services = .ok result →
        Document.load host path other services = .ok document := by
      intro other same
      rw [Document.load, loadBlocks, done] at loaded
      rw [Document.load, loadBlocks, same]
      exact loaded
    have weaker := runConfiguration_iff_within host path options services
    refine ⟨transfer ?_, transfer ?_, fun strict offline => transfer ?_⟩
    · exact ((weaker false options.strict Bool.noConfusion id result).mp done).1
    · exact ((weaker options.stopOnError false id Bool.noConfusion result).mp done).1
    · exact runConfiguration_opened strict offline done

/-- A module that is called by a path: all the ways to be lenient give the document of the strict run. -/
theorem load_lenient_with_module :
    let host := Host.withModule "module \"m\" \x7b\n  source = \"./inner\"\n\x7d\n"
      "output \"size\" \x7b\n  value = \"small\"\n\x7d\n"
    let options := { Options.standard with stopOnError := true, strict := true }
    ∃ document, Document.load host ⟨"/"⟩ options = .ok document ∧
      document.types = ["module", "output"] ∧
      Document.load host ⟨"/"⟩ { options with stopOnError := false } = .ok document ∧
      Document.load host ⟨"/"⟩ { options with strict := false } = .ok document ∧
      Document.load host ⟨"/"⟩ { options with allowDownloads := true } = .ok document := by
  intro host options
  have types : ((Document.load
      (Host.withModule "module \"m\" \x7b\n  source = \"./inner\"\n\x7d\n"
        "output \"size\" \x7b\n  value = \"small\"\n\x7d\n") ⟨"/"⟩
      { Options.standard with stopOnError := true, strict := true }).map Document.types).toOption =
        some ["module", "output"] := by
    decide +kernel
  cases loaded : Document.load host ⟨"/"⟩ options with
  | error cause =>
    have failed := types.symm.trans (congrArg (fun result => (Except.map _ result).toOption) loaded)
    cases failed
  | ok document =>
    have named := types.symm.trans (congrArg (fun result => (Except.map _ result).toOption) loaded)
    obtain ⟨first, second, third⟩ := load_lenient loaded
    exact ⟨document, rfl, (Option.some.inj named).symm, first, second, third rfl rfl⟩

end Terradoc
