import Terradoc.Text.Pieces

namespace Terradoc

inductive Component where
  | root
  | current
  | parent
  | name (text : String)
deriving DecidableEq, Repr, Inhabited

def Component.text : Component → String
  | root => "/"
  | current => "."
  | parent => ".."
  | name text => text

structure Path where
  text : String
deriving DecidableEq, Repr, Inhabited

namespace Path

def isAbsolute (path : Path) : Bool := path.text.startsWith "/"

/-- The component a piece between slashes stands for; empty pieces and inner dots stand for none. -/
def componentOf? (piece : String) : Option Component :=
  if piece == "" || piece == "." then none
  else if piece == ".." then some .parent
  else some (.name piece)

/-- Components of a path. Empty pieces vanish, and so does every dot that does not start a relative
path. -/
def components (path : Path) : List Component :=
  let pieces := Text.splitChar '/' path.text
  let inner := pieces.filterMap componentOf?
  if path.isAbsolute then .root :: inner
  else if pieces.head? == some "." then .current :: inner
  else inner

def same (left right : Path) : Bool := left.components == right.components

/-- A path below another; an absolute one replaces it. -/
def join (base : Path) (path : String) : Path :=
  if path.startsWith "/" then ⟨path⟩
  else if base.text == "" || base.text.endsWith "/" then ⟨base.text ++ path⟩
  else ⟨base.text ++ "/" ++ path⟩

/-- Applies the dots of components to the names before them. Above the root is the root. -/
def resolveDots (names : List String) : List Component → List String
  | [] => names
  | .root :: rest => resolveDots [] rest
  | .current :: rest => resolveDots names rest
  | .parent :: rest => resolveDots names.dropLast rest
  | .name text :: rest => resolveDots (names ++ [text]) rest

def ofNames (names : List String) : Path := ⟨"/" ++ Text.joinWith "/" names⟩

def names (path : Path) : List String := resolveDots [] path.components

/-- The absolute path without dots that a path stands for, seen from a directory. -/
def absolutize (directory path : Path) : Path :=
  ofNames (if path.isAbsolute then path.names else resolveDots directory.names path.components)

/-- Components of two paths without those they start with in common. -/
def afterCommon : List Component → List Component → List Component × List Component
  | left :: lefts, right :: rights =>
    if left = right then afterCommon lefts rights else (left :: lefts, right :: rights)
  | lefts, rights => (lefts, rights)

/-- A path as seen from a base directory, climbing with `..` where needed. -/
def relativeTo (base path : Path) : String :=
  let (up, down) := afterCommon base.components path.components
  let parts := up.map (fun _ => "..") ++ down.map Component.text
  if parts.isEmpty then "." else Text.joinWith "/" parts

def fileName? (path : Path) : Option String :=
  match path.components.getLast? with
  | some (.name text) => some text
  | _ => none

/-- What follows the last dot of the file name, unless the dot starts it. -/
def extension? (path : Path) : Option String :=
  path.fileName?.bind fun name =>
    let pieces := Text.splitChar '.' name
    let stem := Text.joinWith "." pieces.dropLast
    if pieces.length < 2 || stem == "" then none else pieces.getLast?

/-- Names and dots as the file system follows them. A slash at the end asks for a directory. -/
def steps (path : Path) : List String :=
  let pieces := Text.splitChar '/' path.text
  let inner := pieces.filter (· != "")
  if path.text.endsWith "/" then inner ++ ["."] else inner

end Path

end Terradoc
