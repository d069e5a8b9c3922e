import Terradoc.Module.Directory
import Terradoc.Options

namespace Terradoc

/-- Whether a variable file is taken without being named. -/
def isAutomatic (name : String) : Bool :=
  name.endsWith ".auto.tfvars" || name.endsWith ".auto.tfvars.json"

/-- Paths whose file name is one of several, in the order of the names. -/
def pathsNamed (paths : List Path) (names : List String) : List Path :=
  names.filterMap fun name => paths.find? fun path => path.fileName? == some name

/-- The variable files of a directory, later ones over earlier ones: the standard files, the
automatic ones by name, and those of the workspace. -/
def standardFiles (paths : List Path) (workspace : String) : List Path :=
  pathsNamed paths ["terraform.tfvars", "terraform.tfvars.json"] ++
    sortByName (paths.filter fun path => (path.fileName?.map isAutomatic).getD false) ++
    pathsNamed paths [workspace ++ ".tfvars", workspace ++ ".tfvars.json"]

def readVariableFile (env : Environment) (files : FileTree) (path : Path) :
    Except LoadError Inputs :=
  match files.readText path with
  | .error cause => .error (.unreadable path cause)
  | .ok text =>
    match parseVariableFile env path text with
    | .ok inputs => .ok inputs
    | .error fault => .error (.variableFile path fault)

/-- Puts the values of variable files over others, file by file. -/
def readVariableFiles (env : Environment) (files : FileTree) :
    Inputs → List Path → Except LoadError Inputs
  | inputs, [] => .ok inputs
  | inputs, path :: rest => do
    let more ← readVariableFile env files path
    readVariableFiles env files (Entries.insertAll inputs more) rest

/-- The values given to the root module: those of its variable files, of the files that the options
name, and of the options themselves, the last over all. -/
def rootInputs (env : Environment) (files : FileTree) (root : Path) (options : Options) :
    Except LoadError Inputs :=
  match files.list root with
  | .error cause => .error (.unreadable root cause)
  | .ok paths => do
    let named := options.variableFiles.map root.join
    let inputs ← readVariableFiles env files [] (standardFiles paths options.workspace ++ named)
    return Entries.insertAll inputs (options.assignments.map fun (name, value) =>
      (name, Value.ofJson value))

end Terradoc
