import Terradoc.Digest.Md5
import Terradoc.Digest.Sha256
import Terradoc.Files.Glob
import Terradoc.Function.Text
import Terradoc.Syntax.Parser

namespace Terradoc

/-- What surrounds a run of the program. -/
structure Host where
  files : FileTree
  workingDirectory : Path
  home : String
  temporaryDirectory : Path

namespace Functions

/-- Where a path written in the configuration leads. -/
def locate (root : Path) (path : String) : Path := root.join path

def readBytes (host : Host) (root : Path) (path : String) : Except CallFault (List UInt8) :=
  match host.files.readBytes (locate root path) with
  | .ok bytes => .ok bytes
  | .error cause => .error (.unreadable path cause)

def readFile (host : Host) (root : Path) (path : String) : Except CallFault String := do
  match Text.decode (← readBytes host root path) with
  | .ok text => .ok text
  | .error _ => .error (.notUtf8 path)

/-- Whether a path leads to a file; a directory is a mistake. -/
def fileExists (host : Host) (root : Path) (path : String) : Except CallFault Value :=
  let place := locate root path
  if host.files.hasDirectory place then .error (.isDirectory place.text)
  else .ok (.bool (host.files.hasFile place))

/-- Paths below a directory that a glob matches, in order. -/
def fileSet (host : Host) (root : Path) (directory pattern : String) : Except CallFault Value :=
  match Glob.parse? pattern with
  | none => .error .badGlob
  | some glob =>
    let paths := match host.files.find (locate root directory) with
      | .ok node => node.filesBelow.map (Text.joinWith "/")
      | .error _ => []
    .ok (.list (((paths.filter glob.isMatch).mergeSort fun left right => !(right < left)).map
      Value.string))

/-- Renders the template in a file; the values are known to it by their keys. -/
def renderFile (host : Host) (root : Path)
    (render : Template → Entries Value → Except EvalError Value)
    (path : String) (values : Entries Value) : Except CallFault Value := do
  let text ← readFile host root path
  match Template.parse? text with
  | none => .error (.badTemplate path)
  | some template =>
    match render template values with
    | .ok value => .ok value
    | .error cause => .error (.template cause)

/-- What stands before the last slash. -/
def directoryName (path : List Char) : List Char :=
  let reversed := path.reverse
  match reversed.dropWhile (· != '/') with
  | [] => ['.']
  | ['/'] => ['/']
  | _ :: before => before.reverse

/-- What stands after the last slash; slashes at the end do not count. -/
def baseName (path : List Char) : List Char :=
  match path.reverse.dropWhile (· == '/') with
  | [] => ['/']
  | reversed => (reversed.takeWhile (· != '/')).reverse

/-- Puts the home directory in the place of a tilde that stands for it. -/
def expandHome (home : String) (path : List Char) : List Char :=
  match path with
  | ['~'] => home.toList
  | '~' :: '/' :: rest => home.toList ++ '/' :: rest
  | path => path

def fileFunctions (host : Host) (root : Path)
    (render : Template → Entries Value → Except EvalError Value) : Entries Function := [
  ("file", onText fun path => (readFile host root path).map Value.string),
  ("fileexists", onText (fileExists host root)),
  ("fileset", onTexts (fileSet host root)),
  ("filebase64", onText fun path =>
    (readBytes host root path).map fun bytes => .string (Text.Base64.encode bytes)),
  ("filemd5", onText fun path =>
    (readBytes host root path).map fun bytes => .string (Digest.hex (Digest.Md5.digest bytes))),
  ("filesha256", onText fun path =>
    (readBytes host root path).map fun bytes =>
      .string (Digest.hex (Digest.Sha256.digest bytes))),
  ("templatefile", ⟨[.text, .map], none, true, fun (path, values, ()) =>
    renderFile host root render path values⟩),
  ("dirname", onText fun path => ofChars (directoryName path.toList)),
  ("basename", onText fun path => ofChars (baseName path.toList)),
  ("abspath", onText fun path =>
    ofChars (Text.replace ['\\'] ['/']
      (Path.absolutize host.workingDirectory (locate root path)).text.toList)),
  ("pathexpand", onText fun path => ofChars (expandHome host.home path.toList))]

end Functions

end Terradoc
