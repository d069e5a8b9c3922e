import Terradoc.Module.Run

namespace Terradoc

def callKey (caller : ModuleCall) (name : String) : String :=
  if caller.key == "" then name else caller.key ++ "." ++ name

/-- A call can be made if its source, in the version it asks for, leads to a directory that is not
being evaluated. -/
theorem childCall_eq_ok {session : Session} {stack : List Path} {caller call : ModuleCall}
    {env : Environment} {name path : String} {inputs : Inputs} {body : Body} :
    childCall session stack caller env name path inputs body = .ok call ↔
      ∃ source directory, sourceOf env body = .ok source ∧
        session.resolver.resolve caller.directory (callKey caller name) source (versionOf env body) =
          .ok directory ∧
        stack.any directory.same = false ∧
        call = ⟨directory, caller.lead ++ path ++ ".", callKey caller name, some inputs⟩ := by
  constructor
  · intro made
    cases named : sourceOf env body with
    | error => rw [childCall, named] at made; cases made
    | ok source =>
      rw [childCall, named] at made
      dsimp only [Bind.bind, Except.bind] at made
      split at made
      · cases made
      · rename_i directory found
        split at made
        · cases made
        · rename_i outside
          cases made
          exact ⟨source, directory, rfl, found, Bool.eq_false_iff.mpr outside, rfl⟩
  · rintro ⟨source, directory, named, found, outside, rfl⟩
    rw [callKey] at found
    rw [childCall, named]
    dsimp only [Bind.bind, Except.bind]
    rw [found]
    dsimp only
    rw [outside, callKey]
    rfl

/-- The calls of modules that a session can come to, each with the directories that are being evaluated
when it is made, the innermost first. -/
inductive Session.Reaches (session : Session) : List Path → ModuleCall → Prop where
  | root : session.Reaches [] session.rootCall
  | child {stack : List Path} {caller call : ModuleCall} {env : Environment} {name path : String}
      {inputs : Inputs} {body : Body} (reached : session.Reaches stack caller)
      (made : childCall session (caller.directory :: stack) caller env name path inputs body =
        .ok call) : session.Reaches (caller.directory :: stack) call

section Configuration

variable {host : Host} {path : Path} (options : Options) (services : Services)

theorem runConfiguration_of_list {entries : List Path}
    (listed : host.files.list (Path.absolutize host.workingDirectory path) = .ok entries) :
    runConfiguration host path options services =
      (Session.start host (Path.absolutize host.workingDirectory path) options services).runRoot := by
  unfold runConfiguration
  dsimp only
  rw [listed]

theorem runConfiguration_of_unreadable {cause : FileFault}
    (listed : host.files.list (Path.absolutize host.workingDirectory path) = .error cause) :
    runConfiguration host path options services =
      .error (.unreadable (Path.absolutize host.workingDirectory path) cause) := by
  unfold runConfiguration
  dsimp only
  rw [listed]

end Configuration

end Terradoc
