import Terradoc.Syntax.Lines
import Terradoc.Syntax.Parser

namespace Terradoc.Syntax

open Lexeme

/-- The text whose lines are counted: where its lines start and how many bytes it has. -/
structure SourceText where
  index : LineIndex
  size : Nat

/-- Lines of the part between two places, each given by the characters that are left there. -/
def SourceText.lines (source : SourceText) (start stop : List Char) : LineRange :=
  source.index.range (source.size - byteLength start) (source.size - byteLength stop)

def hasAttribute (name : String) (structures : Body) : Bool :=
  structures.any fun
    | .attribute other _ => other == name
    | .block .. => false

/-- What follows the equals sign of an attribute. -/
def afterEquals? (text : List Char) : Option (List Char) :=
  match skipInline text with
  | '=' :: '=' :: _ => none
  | '=' :: rest => some (skipInline rest)
  | _ => none

/-- Reads block labels up to the opening brace: names or quoted texts. -/
def readLabels : Nat → List Char → Option (List String × List Char)
  | 0, _ => none
  | budget + 1, text =>
    match skipInline text with
    | '\x7b' :: rest => some ([], rest)
    | '"' :: rest => do
      let (label, rest) ← readQuoted ('"' :: rest)
      let (labels, rest) ← readLabels budget rest
      some (label :: labels, rest)
    | rest => do
      let (label, rest) ← readName rest
      let (labels, rest) ← readLabels budget rest
      some (label :: labels, rest)

mutual
/-- Reads an attribute or a block, without the end of its line. -/
def readStructure (source : SourceText) : Nat → List Char → Option (Structure × List Char)
  | 0, _ => none
  | budget + 1, text => do
    let (name, rest) ← readName text
    match afterEquals? rest with
    | some rest =>
      let (value, rest) ← readExpr false budget rest
      some (.attribute name value, rest)
    | none =>
      let (labels, rest) ← readLabels budget rest
      let (body, after) ← readBlockBody source budget rest
      some (.block name labels (source.lines text after) body, after)

/-- Reads what follows the opening brace of a block: lines, or at most one attribute. -/
def readBlockBody (source : SourceText) : Nat → List Char → Option (Body × List Char)
  | 0, _ => none
  | budget + 1, text =>
    match afterLine? text with
    | some rest => if rest.isEmpty then none else readStructures source [] budget rest
    | none =>
      match skipInline text with
      | '\x7d' :: rest => some ([], rest)
      | rest => do
        let (name, rest) ← readName rest
        let rest ← afterEquals? rest
        let (value, rest) ← readExpr false budget rest
        let rest ← expect '\x7d' (skipInline rest)
        some ([.attribute name value], rest)

/-- Reads the lines of a block up to its closing brace, given the structures before. An attribute
stands once. -/
def readStructures (source : SourceText) (before : Body) :
    Nat → List Char → Option (Body × List Char)
  | 0, _ => none
  | budget + 1, text =>
    match skipLines text with
    | '\x7d' :: rest => some (before.reverse, rest)
    | text => do
      let (part, rest) ← readStructure source budget text
      let rest ← afterLine? rest
      match part with
      | .attribute name _ =>
        if hasAttribute name before then none
        else readStructures source (part :: before) budget rest
      | .block .. => readStructures source (part :: before) budget rest
end

/-- Reads the lines of a whole text, given the structures before. -/
def readText (source : SourceText) (before : Body) : Nat → List Char → Option Body
  | 0, _ => none
  | budget + 1, text =>
    match skipLines text with
    | [] => some before.reverse
    | text => do
      let (part, rest) ← readStructure source (budgetFor text) text
      let rest ← afterLine? rest
      match part with
      | .attribute name _ =>
        if hasAttribute name before then none
        else readText source (part :: before) budget rest
      | .block .. => readText source (part :: before) budget rest

end Terradoc.Syntax

namespace Terradoc

def Body.parse? (text : String) : Option Body :=
  let chars := text.toList
  let source : Syntax.SourceText := ⟨LineIndex.ofText chars, byteLength chars⟩
  Syntax.readText source [] (chars.length + 2) chars

/-- Reads an expression that stands alone on the right of an attribute. -/
def Expr.parse? (text : String) : Option Expr :=
  (Body.parse? ("value = " ++ text)).bind fun
    | [.attribute _ value] => some value
    | _ => none

end Terradoc
