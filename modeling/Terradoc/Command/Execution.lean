import Terradoc.Command.Line
import Terradoc.Configuration
import Terradoc.Module.Run
import Terradoc.OutputFormat

namespace Terradoc

def LoadError.causes : LoadError → List String
  | .unreadable path cause => [(LoadError.unreadable path cause).message, cause.message]
  | error => [error.message]

namespace Command

/-- Why a command fails. -/
inductive Failure where
  | noConfiguration (path : String)
  | configuration (path : String) (cause : Configuration.Fault)
  | noTarget (name path : String)
  | load (path : String) (cause : LoadError)
  | unknownFormat (name : String)
  | directory (cause : FileFault)
  | write (path : String) (cause : FileFault)

def Failure.causes : Failure → List String
  | noConfiguration path => [path ++ " not found"]
  | configuration path cause => ("failed to load " ++ path) :: cause.causes
  | noTarget name path => ["target '" ++ name ++ "' not found in " ++ path]
  | load path cause => ("parsing " ++ path) :: cause.causes
  | unknownFormat name => ["unknown backend '" ++ name ++ "'"]
  | directory cause => [cause.message]
  | write path cause => ["writing " ++ path, cause.message]

def indentLines (width : Nat) (text : String) : String :=
  String.ofList (Text.replace ['\n'] ('\n' :: List.replicate width ' ') text.toList)

def numberedCauses : Nat → List String → String
  | _, [] => ""
  | number, cause :: rest =>
    let digits := toString number
    String.ofList (List.replicate (5 - digits.length) ' ') ++ digits ++ ": " ++
      indentLines 7 cause ++ "\n" ++ numberedCauses (number + 1) rest

def complaint : List String → String
  | [] => ""
  | [single] => "Error: " ++ single ++ "\n"
  | [first, cause] => "Error: " ++ first ++ "\n\nCaused by:\n    " ++ indentLines 4 cause ++ "\n"
  | first :: causes => "Error: " ++ first ++ "\n\nCaused by:\n" ++ numberedCauses 0 causes

/-- The files as they are now, which of them are written, and what is printed so far. -/
structure Progress where
  files : FileTree
  written : List Path
  printed : String

/-- Writes a text to a file whose directories are made, or prints it. -/
def emit (directory : Path) (output : Option String) (text : String) (progress : Progress) :
    Except Failure Progress :=
  match output with
  | none => .ok { progress with printed := progress.printed ++ text }
  | some path =>
    let place := Path.absolutize directory ⟨path⟩
    let made : Except FileFault FileTree := match (Path.mk path).components.dropLast with
      | [] => .ok progress.files
      | _ => progress.files.makeDirectories (Path.ofNames place.names.dropLast)
    match made with
    | .error cause => .error (.directory cause)
    | .ok files =>
      if path == "" then .error (.write path .notFound)
      else
        let file : Path := if path.endsWith "/" then ⟨place.text ++ "/"⟩ else place
        match files.write file (Text.toBytes text) with
        | .ok files => .ok { progress with files := files, written := progress.written ++ [file] }
        | .error cause => .error (.write path cause)

/-- The document of an input directory. -/
def loadDocument (host : Host) (services : Services) (options : Options) (path : String)
    (progress : Progress) : Except Failure Document :=
  match Document.load { host with files := progress.files } ⟨path⟩ options services with
  | .ok document => .ok document
  | .error cause => .error (.load path cause)

def writeIn (format : String) (document : Document) : Except Failure String :=
  match OutputFormat.ofName? format with
  | some format => .ok (format.write document)
  | none => .error (.unknownFormat format)

def runTarget (host : Host) (services : Services) (settings : Settings) (target : Target)
    (progress : Progress) : Except Failure Progress := do
  let document ←
    loadDocument host services (target.options settings) (target.inputPath settings) progress
  let text ← writeIn target.format (document.keep target.includes)
  emit host.workingDirectory target.output text progress

/-- Writes the documents of targets up to the first that fails. -/
def runTargets (host : Host) (services : Services) (settings : Settings) :
    List Target → Progress → Progress × Option Failure
  | [], progress => (progress, none)
  | target :: rest, progress =>
    match runTarget host services settings target progress with
    | .ok progress => runTargets host services settings rest progress
    | .error failure => (progress, some failure)

/-- The targets of a configuration that a command line asks for. -/
def chosenTargets (configuration : Configuration) (path : String) (name : Option String) :
    Except Failure (List Target) :=
  match name with
  | none => .ok configuration.targets
  | some name =>
    match configuration.targets.find? (·.name == name) with
    | some target => .ok [target]
    | none => .error (.noTarget name path)

def runConfiguration (host : Host) (services : Services) (line : Line) (path : String)
    (progress : Progress) : Progress × Option Failure :=
  match Configuration.load host.files host.workingDirectory path with
  | .error cause => (progress, some (.configuration path cause))
  | .ok none => (progress, some (.noConfiguration path))
  | .ok (some configuration) =>
    match chosenTargets configuration path (line.value? .target) with
    | .error failure => (progress, some failure)
    | .ok targets => runTargets host services configuration.settings targets progress

/-- The value of a variable on a command line: a JSON list or object, or else the text itself. -/
def assignedValue (text : String) : Json :=
  match Text.trimChars text.toList with
  | '[' :: _ | '\x7b' :: _ => (Json.parse? text).getD (.string text)
  | _ => .string text

/-- A variable that is set on a command line. -/
def assignment? (text : String) : Option (String × Json) :=
  (Text.splitOnce? "=" text).map fun (name, value) => (name, assignedValue value)

def Line.options (line : Line) : Options := {
  stopOnError := line.has .stopOnError
  debug := line.has .debug
  allowDownloads := line.has .allowDownloads
  workspace := (line.value? .workspace).getD "default"
  variableFiles := line.values .variableFile
  assignments := Entries.ofList ((line.values .assignment).filterMap assignment?)
  strict := line.has .strict }

/-- Writes the document of the directory on a command line, or a summary of it. -/
def runDirectory (host : Host) (services : Services) (line : Line) (progress : Progress) :
    Except Failure Progress := do
  let document ← loadDocument host services line.options (line.path.getD ".") progress
  if line.validate then
    emit host.workingDirectory none (OutputFormat.summary.write document) progress
  else
    let text ← writeIn ((line.value? .format).getD "json") document
    emit host.workingDirectory (line.value? .output) text progress

/-- Does what a command line asks for. -/
def runLine (host : Host) (services : Services) (line : Line) : Progress × Option Failure :=
  let progress : Progress := ⟨host.files, [], ""⟩
  match line.value? .configuration with
  | some path => runConfiguration host services line path progress
  | none =>
    match runDirectory host services line progress with
    | .ok progress => (progress, none)
    | .error failure => (progress, some failure)

structure Outcome where
  code : UInt32
  complaint : String
  progress : Progress

/-- What is shown for a command line that makes no sense. -/
def misuseText : String :=
  "error: the arguments make no sense\n\nFor more information, try '--help'.\n"

def execute (host : Host) (request : Request) (services : Services := .absent) : Outcome :=
  match request with
  | .explain topic => ⟨0, "", ⟨host.files, [], topic.text⟩⟩
  | .misuse => ⟨2, misuseText, ⟨host.files, [], ""⟩⟩
  | .run line =>
    match runLine host services line with
    | (progress, none) => ⟨0, "", progress⟩
    | (progress, some failure) => ⟨1, complaint failure.causes, progress⟩

end Command

end Terradoc
