import Terradoc.Document
import Terradoc.Text.Case
import Terradoc.Text.Utf8

namespace Terradoc

inductive OutputFormat where
  | json
  /-- The number of blocks of each type. -/
  | summary
deriving DecidableEq, Repr

namespace OutputFormat

def name : OutputFormat → String
  | json => "json"
  | summary => "summary"

def extension : OutputFormat → String
  | json => "json"
  | summary => "txt"

/-- The format of a name in whatever case. -/
def ofName? (name : String) : Option OutputFormat :=
  let lower := Text.lower name
  if lower == "json" then some json
  else if lower == "summary" || lower == "text" then some summary
  else none

/-- A line of a summary: a type, filled up to a width, and how many blocks it has. -/
def summaryLine (width : Nat) (type : String) (count : Nat) : String :=
  type ++ String.ofList (List.replicate (width - type.length) ' ') ++ "  " ++ toString count ++ "\n"

/-- Types with the number of their blocks, and the number of all. The column of types is as wide as
the longest has bytes. -/
def summarize (document : Document) : String :=
  let width := (document.types.map String.utf8ByteSize).foldl max 0
  String.join (document.map fun (type, blocks) => summaryLine width type blocks.length) ++
    toString document.size ++ " block(s)\n"

def write (format : OutputFormat) (document : Document) : String :=
  match format with
  | json => document.toJson.pretty ++ "\n"
  | summary => summarize document

end OutputFormat

end Terradoc
