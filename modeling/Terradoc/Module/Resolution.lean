import Terradoc.Json.Parser
import Terradoc.Module.Fetch

namespace Terradoc

/-- Directories of installed modules by the names of the calls that lead to them. -/
abbrev Manifest := Entries Path

namespace Manifest

/-- Where the manifest stands below a root directory. -/
def place (root : Path) : Path := ((root.join ".terraform").join "modules").join "modules.json"

/-- Key and directory of an entry: two members, or two items. -/
def readEntry (entry : Json) : Option (String × String) :=
  match entry with
  | .object _ => do
    let key ← (← entry.member? "Key").text?
    let directory ← (← entry.member? "Dir").text?
    return (key, directory)
  | .array [.string key, .string directory] => some (key, directory)
  | _ => none

/-- The list of entries in a manifest; it may be left out. -/
def listOf? (manifest : Json) : Option (List Json) :=
  match manifest with
  | .object _ =>
    match manifest.member? "Modules" with
    | some entries => entries.items?
    | none => some []
  | .array [] => some []
  | .array [entries] => entries.items?
  | _ => none

/-- Keys and directories of a manifest. -/
def readEntries (text : String) : Option (List (String × String)) := do
  (← listOf? (← Json.parse? text)).mapM readEntry

/-- The installed modules of a root directory. A manifest that cannot be read lists none, and an
entry without a key does not count. -/
def load (files : FileTree) (root : Path) : Manifest :=
  match files.readText (place root) with
  | .error _ => []
  | .ok text =>
    Entries.ofList ((((readEntries text).getD []).filter (·.1 != "")).map fun entry =>
      (entry.1, root.join entry.2))

end Manifest

/-- Why the directory of a module is not known. -/
inductive ResolutionFault where
  | noDirectory (directory : Path)
  | unavailable (source : String)
  | fetch (cause : FetchFault)
deriving DecidableEq, Repr

def ResolutionFault.message : ResolutionFault → String
  | noDirectory directory => "module directory " ++ directory.text ++ " does not exist"
  | unavailable source =>
    "source " ++ source ++ " is not available locally and downloads are disabled"
  | fetch cause => cause.message

/-- What module sources are resolved with. -/
structure Resolver where
  files : FileTree
  workingDirectory : Path
  manifest : Manifest
  /-- How sources are fetched, where they may be. -/
  fetcher : Option Fetcher

namespace Resolver

def installed? (resolver : Resolver) (key : String) : Option Path :=
  (Entries.get? resolver.manifest key).bind fun directory =>
    if resolver.files.hasDirectory directory then some directory else none

/-- The directory of a source that is called from a directory. The key holds the names of the calls
that lead to it. A version counts only where the source is fetched. -/
def resolve (resolver : Resolver) (caller : Path) (key source : String)
    (version : Option String := none) : Except ResolutionFault Path :=
  if SourceKind.ofSource source = .directory then
    let directory := Path.absolutize resolver.workingDirectory (caller.join source)
    if resolver.files.hasDirectory directory then .ok directory else .error (.noDirectory directory)
  else
    match resolver.installed? key, resolver.fetcher with
    | some directory, _ => .ok directory
    | none, none => .error (.unavailable source)
    | none, some fetch =>
      match fetch source version with
      | .ok directory => .ok directory
      | .error cause => .error (.fetch cause)

end Resolver

end Terradoc
