import Terradoc.Module.Session

namespace Terradoc

def sortByName (paths : List Path) : List Path :=
  paths.mergeSort fun left right => !((right.fileName?.getD "") < (left.fileName?.getD ""))

def configurationFiles (files : FileTree) (directory : Path) : Except FileFault (List Path) :=
  (files.list directory).map fun paths =>
    sortByName (paths.filter fun path => path.extension? == some "tf")

/-- Reads a configuration file, whose name is as seen from the root directory. -/
def readSource (files : FileTree) (root file : Path) : Except LoadError SourceFile :=
  match files.readText file with
  | .error cause => .error (.unreadable file cause)
  | .ok text =>
    match SourceFile.parse? text (Path.relativeTo root file) with
    | some source => .ok source
    | none => .error (.malformed (Path.relativeTo root file))

/-- The blocks of a configuration file. A file that cannot be read has none, and a block that makes
no sense is left out. -/
def Session.fileBlocks (session : Session) (file : Path) : Running (List SourceBlock) :=
  match readSource session.host.files session.root file with
  | .error error => do
    session.report error
    return []
  | .ok source => do
    source.problems.forM fun problem =>
      session.report (.incompleteBlock (Path.relativeTo session.root file) problem)
    return source.blocks

def Session.moduleBlocks (session : Session) (directory : Path) : Running (List SourceBlock) :=
  match configurationFiles session.host.files directory with
  | .error cause => throw (.unreadable directory cause)
  | .ok paths => do return (← paths.mapM session.fileBlocks).flatten

end Terradoc
