import Terradoc.Files.Tree
import Terradoc.Options
import Terradoc.Toml.Parser

namespace Terradoc

/-- Settings that targets share. -/
structure Settings where
  input : Option String
  variableFiles : List String
  workspace : Option String
  allowDownloads : Bool
  stopOnError : Bool
  strict : Bool
deriving Inhabited

def Settings.standard : Settings := ⟨none, [], none, false, false, false⟩

structure Target where
  name : String
  format : String
  input : Option String
  output : Option String
  workspace : Option String
  /-- Types that belong in the document; all, when none are named. -/
  wanted : List String
  /-- Types that do not belong in the document. -/
  unwanted : List String
  assignments : List (String × Json)
  variableFiles : List String
deriving Inhabited

structure Configuration where
  settings : Settings
  targets : List Target

namespace Target

def inputPath (target : Target) (settings : Settings) : String :=
  (target.input.or settings.input).getD "."

def options (target : Target) (settings : Settings) : Options := {
  stopOnError := settings.stopOnError
  debug := false
  allowDownloads := settings.allowDownloads
  workspace := (target.workspace.or settings.workspace).getD "default"
  variableFiles := settings.variableFiles ++ target.variableFiles
  assignments := target.assignments
  strict := settings.strict }

/-- Whether blocks of a type belong in the document of a target. -/
def includes (target : Target) (type : String) : Bool :=
  (target.wanted.isEmpty || target.wanted.contains type) && !target.unwanted.contains type

end Target

namespace Configuration

/-- The fields of a record by name. An array holds them in order; it has at least those that have no
default. -/
def fields? (names : List String) (least : Nat) (record : Toml) : Option (Entries Toml) :=
  match record with
  | .array items => if items.length < least then none else some (names.zip items)
  | record => record.entries?

def required {α : Type} (fields : Entries Toml) (name : String) (read : Toml → Option α) :
    Option α :=
  (Entries.get? fields name).bind read

def optional {α : Type} (fields : Entries Toml) (name : String) (default : α)
    (read : Toml → Option α) : Option α :=
  match Entries.get? fields name with
  | none => some default
  | some value => read value

def readStrings (value : Toml) : Option (List String) := do
  (← value.items?).mapM Toml.string?

def readSome (value : Toml) : Option (Option String) := value.string?.map some

def readVariables (value : Toml) : Option (List (String × Json)) := do
  Toml.entriesToJson? (← value.entries?)

def settingNames : List String :=
  ["input", "vars_paths", "workspace", "allow_downloads", "stop_on_hcl_error", "strict"]

def readSettings (value : Toml) : Option Settings := do
  let fields ← fields? settingNames 3 value
  let input ← optional fields "input" none readSome
  let variableFiles ← optional fields "vars_paths" [] readStrings
  let workspace ← optional fields "workspace" none readSome
  let allowDownloads ← optional fields "allow_downloads" false Toml.boolean?
  let stopOnError ← optional fields "stop_on_hcl_error" false Toml.boolean?
  let strict ← optional fields "strict" false Toml.boolean?
  some ⟨input, variableFiles, workspace, allowDownloads, stopOnError, strict⟩

/-- Names of the fields of targets in order. -/
def targetNames : List String :=
  ["name", "backend", "input", "output", "workspace", "include", "exclude", "vars", "vars_paths"]

def readTarget (value : Toml) : Option Target := do
  let fields ← fields? targetNames 5 value
  let name ← required fields "name" Toml.string?
  let format ← optional fields "backend" "json" Toml.string?
  let input ← optional fields "input" none readSome
  let output ← optional fields "output" none readSome
  let workspace ← optional fields "workspace" none readSome
  let wanted ← optional fields "include" [] readStrings
  let unwanted ← optional fields "exclude" [] readStrings
  let assignments ← optional fields "vars" [] readVariables
  let variableFiles ← optional fields "vars_paths" [] readStrings
  some ⟨name, format, input, output, workspace, wanted, unwanted, assignments, variableFiles⟩

def readTargets (value : Toml) : Option (List Target) := do
  (← value.items?).mapM readTarget

def parse? (text : String) : Option Configuration := do
  let fields ← Toml.parse? text
  let settings ← optional fields "settings" Settings.standard readSettings
  let targets ← optional fields "targets" [] readTargets
  some ⟨settings, targets⟩

/-- Why a configuration file cannot be used. -/
inductive Fault where
  | unreadable (path : String) (cause : FileFault)
  | malformed (path : String)
deriving DecidableEq, Repr

def Fault.causes : Fault → List String
  | .unreadable path cause => ["reading " ++ path, cause.message]
  | .malformed path => ["parsing " ++ path, "TOML parse error: malformed text"]

def load (files : FileTree) (directory : Path) (path : String) :
    Except Fault (Option Configuration) :=
  let place := directory.join path
  if path == "" || !files.has place then .ok none
  else
    match files.readText place with
    | .error cause => .error (.unreadable path cause)
    | .ok text =>
      match parse? text with
      | some configuration => .ok (some configuration)
      | none => .error (.malformed path)

end Configuration

end Terradoc
