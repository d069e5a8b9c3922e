import Terradoc.Json.Basic

namespace Terradoc

structure Options where
  /-- Stop at the first syntax or evaluation error instead of leaving it out. -/
  stopOnError : Bool
  debug : Bool
  /-- Modules may be taken from the cache of fetched sources. -/
  allowDownloads : Bool
  workspace : String
  /-- Variable files, later ones over earlier ones, as seen from the root directory. -/
  variableFiles : List String
  /-- Variables that are set over those of all files. -/
  assignments : List (String × Json)
  /-- A module that cannot be resolved is an error. -/
  strict : Bool
deriving Inhabited

/-- The options of a run that is asked for nothing special. -/
def Options.standard : Options := ⟨false, false, false, "default", [], [], false⟩

end Terradoc
