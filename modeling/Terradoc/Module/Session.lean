import Terradoc.Function.Library
import Terradoc.Module.Error
import Terradoc.Options
import Terradoc.Block.Basic

namespace Terradoc

/-- What all runs share: options, the host, the root directory, and how functions are called and
module sources are resolved. -/
structure Session where
  options : Options
  host : Host
  root : Path
  functions : FunctionTable
  resolver : Resolver

def Host.fetcher (host : Host) (services : Services) : Fetcher := fun source version =>
  fetchSource host.files (host.temporaryDirectory.join "tfparse-modules") source version services

def Session.start (host : Host) (root : Path) (options : Options) (services : Services := .absent) :
    Session :=
  ⟨options, host, root, host.functions root,
    ⟨host.files, host.workingDirectory, Manifest.load host.files root,
      if options.allowDownloads then some (host.fetcher services) else none⟩⟩

structure ModuleCall where
  directory : Path
  /-- What stands before the paths of its blocks, such as `module.net.`. -/
  lead : String
  /-- The names of the calls that lead to it, between dots. -/
  key : String
  /-- Values for its variables; the root module looks for its own. -/
  inputs : Option Inputs

def Session.rootCall (session : Session) : ModuleCall := ⟨session.root, "", "", none⟩

/-- The blocks of a module, those of the modules that it calls included, and its outputs. -/
structure ModuleRun where
  blocks : List Block
  outputs : Entries Value

/-- What all runs of a session have done so far. -/
structure RunState where
  /-- How many ids are drawn. -/
  drawn : Nat
  /-- The errors after which evaluation went on, in order. -/
  tolerated : List LoadError

def RunState.start : RunState := ⟨0, []⟩

/-- A computation that may fail, draws ids and notes the errors that it tolerates. -/
abbrev Running (α : Type) := StateT RunState (Except LoadError) α

namespace Running

/-- A computation that does not look at the state. -/
def ofExcept {α : Type} (result : Except LoadError α) : Running α := StateT.lift result

def draw : Running BlockId :=
  modifyGet fun state => (⟨state.drawn + 1⟩, { state with drawn := state.drawn + 1 })

def drawNested (blocks : List (NestedBlock Unit)) : Running (List (NestedBlock BlockId)) :=
  modifyGet fun state =>
    let (blocks, drawn) := drawAll state.drawn blocks
    (blocks, { state with drawn := drawn })

/-- Notes an error after which evaluation goes on. -/
def note (error : LoadError) : Running Unit :=
  modify fun state => { state with tolerated := state.tolerated ++ [error] }

end Running

/-- Whether evaluation may go on after an error: after one of a module call unless the options are
strict, after any other unless they ask for a stop. -/
def Options.tolerates (options : Options) : LoadError → Bool
  | .module .. => !options.strict
  | _ => !options.stopOnError

/-- Goes on after an error, or ends the run with it. -/
def Session.report (session : Session) (error : LoadError) : Running Unit :=
  if session.options.tolerates error then Running.note error else throw error

/-- A result, after its faults are reported in order. -/
def Session.accept {α : Type} (session : Session) (noted : Noted α) : Running α := do
  noted.faults.forM fun fault => session.report (.evaluation fault)
  return noted.value

abbrev Runner := ModuleCall → Running ModuleRun

end Terradoc
