import Terradoc.Toml.Scalar
import Terradoc.Toml.Table

namespace Terradoc.Toml

/-- A text with plain line ends. Other control characters are refused. -/
def plainText? : List Char → Option (List Char)
  | [] => some []
  | '\r' :: '\n' :: rest => (plainText? rest).map ('\n' :: ·)
  | char :: rest =>
    if char == '\n' || char == '\t' || (32 ≤ char.toNat && char.toNat != 127) then
      (plainText? rest).map (char :: ·)
    else none

def skipBlanks (text : List Char) : List Char := text.dropWhile isBlank

/-- A text without a comment at its start. -/
def skipComment : List Char → List Char
  | '#' :: rest => rest.dropWhile (· != '\n')
  | text => text

/-- Skips blanks, comments and line ends. -/
def skipLayout : Nat → List Char → List Char
  | 0, text => text
  | budget + 1, text =>
    match skipComment (skipBlanks text) with
    | '\n' :: rest => skipLayout budget rest
    | rest => rest

/-- Skips all blanks, comments and line ends. -/
def skipAll (text : List Char) : List Char := skipLayout text.length text

/-- What follows the end of a line. -/
def afterLine? (text : List Char) : Option (List Char) :=
  match skipComment (skipBlanks text) with
  | [] => some []
  | '\n' :: rest => some rest
  | _ => none

/-- Whether a character may stand in a key without quotes. -/
def isKeyPart (char : Char) : Bool := char.isAlphanum || char == '_' || char == '-'

def readKey (text : List Char) : Option (String × List Char) :=
  match text with
  | '"' :: rest => readBasic (rest.length + 1) [] rest
  | '\'' :: rest => readLiteral rest
  | text =>
    let key := text.takeWhile isKeyPart
    if key.isEmpty then none else some (String.ofList key, text.drop key.length)

/-- Reads keys with dots between them: those before the last, and the last. -/
def readPath : Nat → List Char → Option ((List String × String) × List Char)
  | 0, _ => none
  | budget + 1, text => do
    let (key, rest) ← readKey (skipBlanks text)
    match skipBlanks rest with
    | '.' :: rest => do
      let ((path, last), rest) ← readPath budget rest
      some ((key :: path, last), rest)
    | rest => some (([], key), rest)

mutual
def readValue : Nat → List Char → Option (Toml × List Char)
  | 0, _ => none
  | budget + 1, text =>
    match text with
    | '[' :: rest => readItems [] budget rest
    | '\x7b' :: rest => readPairs [] budget rest
    | '"' :: _ | '\'' :: _ => (readString text).map fun (value, rest) => (.string value, rest)
    | text => readScalar text

/-- Reads the items of an array up to its bracket, given those before. -/
def readItems (before : List Toml) : Nat → List Char → Option (Toml × List Char)
  | 0, _ => none
  | budget + 1, text =>
    match skipAll text with
    | ']' :: rest => some (.array before.reverse, rest)
    | text => do
      let (value, rest) ← readValue budget text
      match skipAll rest with
      | ',' :: rest => readItems (value :: before) budget rest
      | ']' :: rest => some (.array (value :: before).reverse, rest)
      | _ => none

/-- Reads the entries of a table in braces, given those before. -/
def readPairs (before : Entries Node) : Nat → List Char → Option (Toml × List Char)
  | 0, _ => none
  | budget + 1, text =>
    match skipAll text with
    | '\x7d' :: rest => some (tableOf before, rest)
    | text => do
      let (after, rest) ← readPair before budget text
      match skipAll rest with
      | ',' :: rest => readPairs after budget rest
      | '\x7d' :: rest => some (tableOf after, rest)
      | _ => none

/-- Reads a key with its value into entries. -/
def readPair (before : Entries Node) : Nat → List Char → Option (Entries Node × List Char)
  | 0, _ => none
  | budget + 1, text => do
    let ((path, key), rest) ← readPath budget text
    match rest with
    | '=' :: rest => do
      let (value, rest) ← readValue budget (skipBlanks rest)
      let after ← assign key value path before
      some (after, rest)
    | _ => none
end

/-- What follows a header's end. -/
def afterHeader? : Bool → List Char → Option (List Char)
  | true, ']' :: ']' :: rest => afterLine? rest
  | false, ']' :: rest => afterLine? rest
  | _, _ => none

/-- Reads the lines of a text into tables. The path leads to the table of the last header. -/
def readLines : Nat → Entries Node → List String → List Char → Option (Entries Node)
  | 0, _, _, _ => none
  | budget + 1, tables, path, text =>
    match skipAll text with
    | [] => some tables
    | '[' :: '[' :: rest => do
      let ((parents, key), rest) ← readPath rest.length rest
      let rest ← afterHeader? true rest
      let tables ← within (openNext key) parents tables
      readLines budget tables (parents ++ [key]) rest
    | '[' :: rest => do
      let ((parents, key), rest) ← readPath rest.length rest
      let rest ← afterHeader? false rest
      let tables ← within (openTable key) parents tables
      readLines budget tables (parents ++ [key]) rest
    | text => do
      let ((keys, key), rest) ← readPath text.length text
      match rest with
      | '=' :: rest => do
        let (value, rest) ← readValue (2 * rest.length + 2) (skipBlanks rest)
        let rest ← afterLine? rest
        let tables ← within (assign key value keys) path tables
        readLines budget tables path rest
      | _ => none

/-- Reads a text; a byte order mark may stand at its start. -/
def parse? (text : String) : Option (Entries Toml) := do
  let chars := match text.toList with
    | '\uFEFF' :: rest => rest
    | chars => chars
  let chars ← plainText? chars
  (readLines (chars.length + 1) [] [] chars).map fun tables => sortEntries (nodesToToml tables)

end Terradoc.Toml
