import Terradoc.Text.Pieces

namespace Terradoc.Command

/-- Options without a value. -/
inductive Switch where
  | stopOnError
  | debug
  | allowDownloads
  | strict
deriving DecidableEq, Repr

inductive Setting where
  | workspace
  | variableFile
  | assignment
  | format
  | output
  | configuration
  | target
deriving DecidableEq, Repr

def switchNames : List (String × Switch) := [
  ("stop-on-hcl-error", .stopOnError), ("debug", .debug), ("allow-downloads", .allowDownloads),
  ("strict", .strict)]

def settingNames : List (String × Setting) := [
  ("workspace", .workspace), ("var-file", .variableFile), ("var", .assignment),
  ("backend", .format), ("output", .output), ("config", .configuration), ("target", .target)]

namespace Setting

/-- Whether a setting may be given several times. -/
def isRepeatable : Setting → Bool
  | variableFile | assignment => true
  | _ => false

def isPath : Setting → Bool
  | variableFile | output | configuration => true
  | _ => false

def missingValue? : Setting → Option String
  | configuration => some "tfparse.toml"
  | _ => none

/-- Whether a setting may have a value. Paths are not empty, and variables are set with an equals
sign. -/
def admits (setting : Setting) (value : String) : Bool :=
  (!setting.isPath || value != "") && (setting != .assignment || value.toList.contains '=')

end Setting

/-- What a command line says. -/
structure Line where
  path : Option String
  switches : List Switch
  settings : List (Setting × String)
  /-- Whether only the numbers of blocks are asked for. -/
  validate : Bool
deriving Repr

namespace Line

/-- A command line that says nothing. -/
def empty : Line := ⟨none, [], [], false⟩

def has (line : Line) (switch : Switch) : Bool := line.switches.contains switch

def values (line : Line) (setting : Setting) : List String :=
  (line.settings.filter (·.1 = setting)).map Prod.snd

def value? (line : Line) (setting : Setting) : Option String := (line.values setting).head?

def addSwitch (line : Line) (switch : Switch) : Option Line :=
  if line.has switch then none else some { line with switches := line.switches ++ [switch] }

def addSetting (line : Line) (setting : Setting) (value : String) : Option Line :=
  if !setting.admits value then none
  else if !setting.isRepeatable && (line.value? setting).isSome then none
  else some { line with settings := line.settings ++ [(setting, value)] }

def addPath (line : Line) (path : String) : Option Line :=
  if path == "" || line.path.isSome then none else some { line with path := some path }

end Line

/-- What there is to know about a part of the command line. -/
inductive Topic where
  | program
  | validate
  | help
deriving DecidableEq, Repr

/-- What a command line asks for. -/
inductive Request where
  | run (line : Line)
  | explain (topic : Topic)
  /-- The command line makes no sense. -/
  | misuse
deriving Repr

inductive Argument where
  /-- Two hyphens: what follows are no options. -/
  | separator
  | long (name : String) (value : Option String)
  | short (letters : List Char)
  | plain (text : String)
deriving Repr

def Argument.ofText (text : String) : Argument :=
  match text.toList with
  | ['-', '-'] => .separator
  | '-' :: '-' :: rest =>
    match Text.breakAt? ['='] rest with
    | some (name, value) => .long (String.ofList name) (some (String.ofList value))
    | none => .long (String.ofList rest) none
  | '-' :: first :: rest => .short (first :: rest)
  | _ => .plain text

/-- Whether an argument can be the value of the setting before it. -/
def Argument.isPlain : Argument → Bool
  | plain _ => true
  | _ => false

/-- Goes on with a line, unless it makes no sense. -/
def continueWith (line : Option Line) (next : Line → Request) : Request :=
  match line with
  | some line => next line
  | none => .misuse

/-- Reads the arguments after the word that asks for validation. -/
def readValidate (line : Line) : List String → Request
  | [] => .run { line with validate := true }
  | first :: rest =>
    match Argument.ofText first with
    | .separator => if rest.isEmpty then .run { line with validate := true } else .misuse
    | .long "help" none => .explain .validate
    | .short ('h' :: _) => .explain .validate
    | _ => .misuse

/-- Reads the topics after the word that asks for help. -/
def readHelp : List String → Request
  | [] => .explain .program
  | ["validate"] => .explain .validate
  | ["help"] => .explain .help
  | _ => .misuse

/-- Reads arguments that are no options. -/
def readPaths (line : Line) : List String → Request
  | [] => .run line
  | path :: rest => continueWith (line.addPath path) fun line => readPaths line rest

def readArguments : List String → Line → Request
  | [], line => .run line
  | first :: rest, line =>
    if first == "validate" then readValidate line rest
    else if first == "help" then readHelp rest
    else
      match Argument.ofText first with
      | .separator => readPaths line rest
      | .plain path => continueWith (line.addPath path) (readArguments rest)
      | .short ('h' :: _) => .explain .program
      | .short _ => .misuse
      | .long name value =>
        match switchNames.lookup name, settingNames.lookup name, value with
        | some switch, _, none => continueWith (line.addSwitch switch) (readArguments rest)
        | none, some setting, some value =>
          continueWith (line.addSetting setting value) (readArguments rest)
        | none, some setting, none =>
          match rest with
          | next :: others =>
            if (Argument.ofText next).isPlain then
              continueWith (line.addSetting setting next) (readArguments others)
            else
              continueWith (setting.missingValue?.bind (line.addSetting setting))
                (readArguments (next :: others))
          | [] => continueWith (setting.missingValue?.bind (line.addSetting setting)) Request.run
        | _, _, _ => if name == "help" && value.isNone then .explain .program else .misuse

def Request.ofArguments (arguments : List String) : Request := readArguments arguments .empty

/-- What there is to know about a topic. -/
def Topic.text : Topic → String
  | program => "Parse and evaluate Terraform configuration into JSON

Usage: tfparse [OPTIONS] [PATH] [COMMAND]

Commands:
  validate  Parse the configuration and report block counts per type
  help      Print this message or the help of the given subcommand(s)

Arguments:
  [PATH]  Root module directory [default: .]

Options:
      --stop-on-hcl-error      Abort on the first syntax or evaluation error
      --debug                  Log per-block evaluation details
      --allow-downloads        Fetch remote and registry module sources
      --workspace <WORKSPACE>  Value of terraform.workspace [default: default]
      --var-file <VAR_FILE>    Load variables from a .tfvars or .tfvars.json file. Can repeat
      --var <VAR>              Set a variable: --var key=value (repeatable)
      --strict                 Fail when a module cannot be resolved
      --backend <BACKEND>      Backend to use: json|summary (ignored if using config file) [default: json]
      --output <OUTPUT>        Write the output to a file instead of stdout
      --config [<CONFIG>]      Use a tfparse.toml configuration file
      --target <TARGET>        Target name to run (when using config file)
  -h, --help                   Print help
"
  | validate => "Parse the configuration and report block counts per type

Usage: tfparse validate

Options:
  -h, --help  Print help
"
  | help => "Print this message or the help of the given subcommand(s)

Usage: tfparse help [COMMAND]...

Arguments:
  [COMMAND]...  Print help for the subcommand(s)
"

end Terradoc.Command
