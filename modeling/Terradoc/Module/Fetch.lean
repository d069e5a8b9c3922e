import Terradoc.Digest.Sha256
import Terradoc.Files.Tree
import Terradoc.Module.Source
import Terradoc.Text.Letter

namespace Terradoc

/-- Why a repository is not cloned. -/
inductive CloneFault where
  | notStarted (cause : FileFault)
  /-- The program that clones fails with a message. -/
  | failed (message : String)
deriving DecidableEq, Repr

/-- Why a source cannot be fetched. -/
inductive FetchFault where
  | directory (source : String)
  | address (source : String)
  | noRegistry (package : String)
  | request (message : String)
  | noLocation (package : String)
  | unsupported (source : String)
  | cache (place : Path) (cause : FileFault)
  | clone (url : String) (cause : CloneFault)
deriving DecidableEq, Repr

def FetchFault.message : FetchFault → String
  | directory source => source ++ " is a local path"
  | address source => "invalid registry source " ++ source
  | noRegistry package =>
    "cannot resolve registry module " ++ package ++ ": built without the downloads feature"
  | request message => message
  | noLocation package => "registry response for " ++ package ++ " has no X-Terraform-Get header"
  | unsupported source => "unsupported module source " ++ source
  | cache place cause => "creating " ++ place.text ++ ": " ++ cause.message
  | clone _ (.notStarted cause) => "running git: " ++ cause.message
  | clone url (.failed message) => "git clone " ++ url ++ " failed: " ++ message

/-- What a fetch needs from outside: a program that clones repositories, and registries that answer
requests. What is cloned in the course of a run is among the files that the run finds. -/
structure Services where
  /-- Clones the repository at a URL, as of a revision, into a directory. -/
  clone : String → Option String → Path → Except CloneFault Unit
  /-- Requests a URL, and gives the location that the answer names. There are no registries for a
  program that is built without downloads. -/
  request : Option (String → Except String (Option String))

/-- No program that clones, and no registries. -/
def Services.absent : Services := ⟨fun _ _ _ => .error (.notStarted .notFound), none⟩

/-- Fetches a source, in a version where one is asked for, and tells the directory. -/
abbrev Fetcher := String → Option String → Except FetchFault Path

/-- The name of the directory of a fetched repository: the start of the digest of its URL and
revision. -/
def GitSource.cacheName (source : GitSource) : String :=
  String.ofList ((Digest.hex (Digest.Sha256.digest
    (Text.toBytes (source.url ++ "@" ++ source.revision.getD "")))).toList.take 16)

def Path.inside (place : Path) (subdirectory : Option String) : Path :=
  match subdirectory with
  | some inner => place.join inner
  | none => place

/-- The directory of a repository in a cache, into which it is cloned unless it is there. -/
def fetchRepository (services : Services) (files : FileTree) (cache : Path) (source : String) :
    Except FetchFault Path :=
  let source := GitSource.parse source
  let place := cache.join source.cacheName
  if files.hasDirectory place then .ok (place.inside source.subdirectory)
  else
    match files.makeDirectories cache with
    | .error cause => .error (.cache cache cause)
    | .ok _ =>
      match services.clone source.url source.revision place with
      | .ok () => .ok (place.inside source.subdirectory)
      | .error cause => .error (.clone source.url cause)

/-- A version of digits and dots, behind equals signs or not. Other constraints name no version. -/
def exactVersion? (version : String) : Option String :=
  let exact := Text.trim (String.ofList ((Text.trim version).toList.dropWhile (· == '=')))
  if exact.toList.all fun char => char.isDigit || char == '.' then some exact else none

/-- The URL at which a registry tells where a module is. -/
def RegistryAddress.request (address : RegistryAddress) (version : Option String) : String :=
  let start := "https://" ++ address.host ++ "/v1/modules/" ++ address.path
  match version.bind exactVersion? with
  | some exact => start ++ "/" ++ exact ++ "/download"
  | none => start ++ "/download"

/-- Where the registry of a package says that it is. -/
def Services.locate (services : Services) (package : String) (version : Option String) :
    Except FetchFault String :=
  match services.request with
  | none => .error (.noRegistry package)
  | some ask =>
    match RegistryAddress.parse? package with
    | none => .error (.address package)
    | some address =>
      match ask (address.request version) with
      | .ok (some location) => .ok location
      | .ok none => .error (.noLocation package)
      | .error message => .error (.request message)

def fetchSource (files : FileTree) (cache : Path) (source : String) (version : Option String := none)
    (services : Services := .absent) : Except FetchFault Path :=
  match SourceKind.ofSource source with
  | .directory => .error (.directory source)
  | .registry =>
    match RegistryAddress.parse? source with
    | none => .error (.address source)
    | some address => do
      let location ← services.locate (packageOf source) version
      let directory ← fetchRepository services files cache location
      return directory.inside address.subdirectory
  | .remote =>
    if source.startsWith "s3::" || source.startsWith "gcs::" then .error (.unsupported source)
    else fetchRepository services files cache source

end Terradoc
