import Terradoc.Entries
import Terradoc.Files.Path
import Terradoc.Text.Utf8

namespace Terradoc

inductive FileTree where
  | file (bytes : List UInt8)
  | directory (entries : List (String × FileTree))
deriving Inhabited

/-- Why a path cannot be used. -/
inductive FileFault where
  | notFound
  | isDirectory
  | notDirectory
  | fileExists
  | nulByte
  | notText
deriving DecidableEq, Repr

/-- Wording of a fault, with the number the system gives it. -/
def FileFault.message : FileFault → String
  | notFound => "No such file or directory (os error 2)"
  | isDirectory => "Is a directory (os error 21)"
  | notDirectory => "Not a directory (os error 20)"
  | fileExists => "File exists (os error 17)"
  | nulByte => "file name contained an unexpected NUL byte"
  | notText => "stream did not contain valid UTF-8"

namespace FileTree

def isDirectory : FileTree → Bool
  | directory _ => true
  | file _ => false

/-- Follows steps from a node whose ancestors are known, nearest first. -/
def follow (ancestors : List FileTree) (node : FileTree) : List String → Except FileFault FileTree
  | [] => .ok node
  | step :: rest =>
    match node with
    | file _ => .error .notDirectory
    | directory entries =>
      if step == "." then follow ancestors node rest
      else if step == ".." then
        match ancestors with
        | [] => follow [] node rest
        | parent :: others => follow others parent rest
      else
        match Entries.get? entries step with
        | some child => follow (node :: ancestors) child rest
        | none => .error .notFound

def find (tree : FileTree) (path : Path) : Except FileFault FileTree :=
  if path.text.toList.contains '\x00' then .error .nulByte else follow [] tree path.steps

def hasDirectory (tree : FileTree) (path : Path) : Bool :=
  match tree.find path with
  | .ok node => node.isDirectory
  | .error _ => false

def hasFile (tree : FileTree) (path : Path) : Bool :=
  match tree.find path with
  | .ok node => !node.isDirectory
  | .error _ => false

def has (tree : FileTree) (path : Path) : Bool := (tree.find path).isOk

def readBytes (tree : FileTree) (path : Path) : Except FileFault (List UInt8) :=
  match tree.find path with
  | .ok (file bytes) => .ok bytes
  | .ok (directory _) => .error .isDirectory
  | .error fault => .error fault

def readText (tree : FileTree) (path : Path) : Except FileFault String := do
  let bytes ← tree.readBytes path
  match Text.decode bytes with
  | .ok text => .ok text
  | .error _ => .error .notText

def list (tree : FileTree) (path : Path) : Except FileFault (List Path) :=
  match tree.find path with
  | .ok (directory entries) => .ok (entries.map fun entry => path.join entry.1)
  | .ok (file _) => .error .notDirectory
  | .error fault => .error fault

mutual
/-- Names that lead to the files below a node. -/
def filesBelow : FileTree → List (List String)
  | file _ => [[]]
  | directory entries => filesBelowEntries entries

/-- Names that lead to the files below the entries of a directory. -/
def filesBelowEntries : List (String × FileTree) → List (List String)
  | [] => []
  | (name, node) :: rest => (filesBelow node).map (name :: ·) ++ filesBelowEntries rest
end

mutual
/-- Number of directories below a node, the node included. -/
def directoryCount : FileTree → Nat
  | file _ => 0
  | directory entries => directoryCountEntries entries + 1

/-- Number of directories below the entries of a directory. -/
def directoryCountEntries : List (String × FileTree) → Nat
  | [] => 0
  | (_, node) :: rest => directoryCount node + directoryCountEntries rest
end

/-- Makes the directories that lead to a place and changes what is there. Names are free of dots. -/
def change (tree : FileTree) (edit : Option FileTree → Except FileFault FileTree) :
    List String → Except FileFault FileTree
  | [] => edit (some tree)
  | name :: rest =>
    match tree with
    | file _ => .error .notDirectory
    | directory entries =>
      match Entries.get? entries name, rest with
      | some child, rest => do
        let changed ← change child edit rest
        .ok (directory (Entries.insert entries name changed))
      | none, [] => do
        let made ← edit none
        .ok (directory (Entries.insert entries name made))
      | none, rest => do
        let made ← change (directory []) edit rest
        .ok (directory (Entries.insert entries name made))

/-- Makes a directory and those above it. -/
def makeDirectories (tree : FileTree) (path : Path) : Except FileFault FileTree :=
  tree.change
    (fun
      | some (directory entries) => .ok (directory entries)
      | some (file _) => .error .fileExists
      | none => .ok (directory []))
    path.names

def write (tree : FileTree) (path : Path) (bytes : List UInt8) : Except FileFault FileTree :=
  if path.text.endsWith "/" then .error .isDirectory
  else if !tree.hasDirectory (Path.ofNames path.names.dropLast) then
    match tree.find (Path.ofNames path.names.dropLast) with
    | .ok _ => .error .notDirectory
    | .error fault => .error fault
  else
    tree.change
      (fun
        | some (directory _) => .error .isDirectory
        | _ => .ok (file bytes))
      path.names

end FileTree

end Terradoc
