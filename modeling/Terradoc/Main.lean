import Terradoc.Command.Execution

namespace Terradoc

/-- Reads a file, or a directory so many levels deep. What cannot be read counts as missing. -/
partial def readTree (levels : Nat) (place : String) : IO (Option FileTree) := do
  let listed ← (do (← IO.FS.realPath place).readDir : IO _).toBaseIO
  match listed with
  | .ok found =>
    if levels == 0 then return some (.directory [])
    let mut entries : List (String × FileTree) := []
    for entry in found do
      match ← readTree (levels - 1) (place ++ "/" ++ entry.fileName) with
      | some node => entries := (entry.fileName, node) :: entries
      | none => pure ()
    return some (.directory entries.reverse)
  | .error _ =>
    let content ← (IO.FS.readBinFile place).toBaseIO
    match content with
    | .ok bytes => return some (.file bytes.toList)
    | .error _ => return none

/-- Puts what stands at a place into a file tree. -/
def addPlace (tree : FileTree) (place : Path) : IO FileTree := do
  match ← readTree 64 place.text with
  | none => return tree
  | some node =>
    match tree.change (fun _ => .ok node) place.names with
    | .ok changed => return changed
    | .error _ => return tree

def placesOf (directory temporary : Path) (request : Command.Request) : List Path :=
  match request with
  | .run line => [temporary.join "tfparse-modules", directory,
      Path.absolutize directory ⟨line.path.getD "."⟩]
  | _ => []

def writeBack (files : FileTree) (place : Path) : IO Unit := do
  match files.readBytes place with
  | .ok bytes =>
    IO.FS.createDirAll (Path.ofNames place.names.dropLast).text
    IO.FS.writeBinFile place.text bytes.toByteArray
  | .error _ => pure ()

/-- Carries out a command line. -/
def perform (arguments : List String) : IO UInt32 := do
  let directory : Path := ⟨(← IO.getEnv "PWD").getD "/"⟩
  let home := (← IO.getEnv "HOME").getD ""
  let temporary : Path := ⟨(← IO.getEnv "TMPDIR").getD "/tmp"⟩
  let request := Command.Request.ofArguments arguments
  let files ← (placesOf directory temporary request).foldlM addPlace (.directory [])
  let outcome := Command.execute ⟨files, directory, home, temporary⟩ request
  for place in outcome.progress.written do
    writeBack outcome.progress.files place
  IO.print outcome.progress.printed
  IO.eprint outcome.complaint
  return outcome.code

end Terradoc

def main (arguments : List String) : IO UInt32 := Terradoc.perform arguments
