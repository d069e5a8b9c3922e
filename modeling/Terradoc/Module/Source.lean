import Terradoc.Text.Pieces

namespace Terradoc

/-- How the source of a module is written. -/
inductive SourceKind where
  /-- A relative path that says so, or an absolute one. -/
  | directory
  /-- The address of a module in a registry. -/
  | registry
  | remote
deriving DecidableEq, Repr

/-- Whether a source is written as a path. -/
def isDirectorySource (source : String) : Bool :=
  source == "." || source == ".." ||
    ["./", "../", ".\\", "..\\", "/"].any fun start => source.startsWith start

/-- Whether a source says how it is fetched. -/
def namesProtocol (source : String) : Bool :=
  Text.occursIn "::".toList source.toList || Text.occursIn "://".toList source.toList ||
    source.startsWith "git@"

/-- Whether a text is a segment of a registry address. -/
def isSegment (text : String) : Bool :=
  text != "" && text.toList.all fun char => char.isAlphanum || char == '-' || char == '_'

/-- Whether a text is the host of a registry, and not one that serves repositories. -/
def isRegistryHost (text : String) : Bool :=
  text.toList.contains '.' && text != "github.com" && text != "bitbucket.org"

/-- The part of a source before the directory inside the package. -/
def packageOf (source : String) : String :=
  ((Text.splitOnce? "//" source).map Prod.fst).getD source

def SourceKind.ofSource (source : String) : SourceKind :=
  if isDirectorySource source then .directory
  else if namesProtocol source then .remote
  else
    match Text.splitChar '/' (packageOf source) with
    | [space, name, provider] =>
      if [space, name, provider].all isSegment then .registry else .remote
    | [host, space, name, provider] =>
      if isRegistryHost host && [space, name, provider].all isSegment then .registry else .remote
    | _ => .remote

structure RegistryAddress where
  host : String
  /-- Namespace, name and provider between slashes. -/
  path : String
  subdirectory : Option String
deriving DecidableEq, Repr

/-- The registry of addresses that name no host. -/
def defaultRegistry : String := "registry.terraform.io"

/-- The directory inside a package, without slashes at its ends. -/
def subdirectoryOf? (source : String) : Option String :=
  (Text.splitOnce? "//" source).bind fun (_, rest) =>
    let inner := String.ofList (Text.trimOf ['/'] rest.toList)
    if inner == "" then none else some inner

def RegistryAddress.parse? (source : String) : Option RegistryAddress :=
  match Text.splitChar '/' (packageOf source) with
  | [space, name, provider] =>
    some ⟨defaultRegistry, Text.joinWith "/" [space, name, provider], subdirectoryOf? source⟩
  | [host, space, name, provider] =>
    some ⟨host, Text.joinWith "/" [space, name, provider], subdirectoryOf? source⟩
  | _ => none

/-- A repository, a directory in it and a revision of it. -/
structure GitSource where
  url : String
  subdirectory : Option String
  revision : Option String
deriving DecidableEq, Repr

namespace GitSource

def without (start source : List Char) : List Char := (Text.after? start source).getD source

/-- A text and what follows the first place where a mark occurs. -/
def cutAt (mark source : List Char) : List Char × Option (List Char) :=
  match Text.breakAt? mark source with
  | some (before, rest) => (before, some rest)
  | none => (source, none)

/-- The scheme of a URL with the slashes that follow it, and the rest. -/
def splitScheme (source : List Char) : List Char × List Char :=
  match Text.breakAt? "://".toList source with
  | some (scheme, rest) => (scheme ++ "://".toList, rest)
  | none => ([], source)

/-- Writes out the scheme of well-known hosts. -/
def completeUrl (url : List Char) : List Char :=
  if (Text.after? "github.com/".toList url).isSome ||
      (Text.after? "bitbucket.org/".toList url).isSome then "https://".toList ++ url
  else url

/-- Reads a source such as `git::https://host/repository//directory?ref=revision`. -/
def parse (source : String) : GitSource :=
  let (source, revision) := cutAt "?ref=".toList (without "git::".toList source.toList)
  let (scheme, rest) := splitScheme source
  let (place, subdirectory) := cutAt "//".toList rest
  ⟨String.ofList (completeUrl (scheme ++ place)), subdirectory.map String.ofList,
    revision.map String.ofList⟩

end GitSource

end Terradoc
