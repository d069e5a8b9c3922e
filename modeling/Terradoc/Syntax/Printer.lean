import Terradoc.Syntax.Expr
import Terradoc.Text.Pieces

/-! Source text of expressions. Collections stand over several lines, each level indented by two
blanks; operators have single blanks around them. -/

namespace Terradoc

/-- A character inside a quoted text of the language. -/
def sourceChar (char : Char) : List Char :=
  if char == '"' then ['\\', '"']
  else if char == '\\' then ['\\', '\\']
  else if char == '\n' then ['\\', 'n']
  else if char == '\r' then ['\\', 'r']
  else if char == '\t' then ['\\', 't']
  else [char]

/-- Doubles the marker that would start an interpolation or a directive. -/
def guardMarkers : List Char → List Char
  | '$' :: '\x7b' :: rest => '$' :: '$' :: '\x7b' :: guardMarkers rest
  | '%' :: '\x7b' :: rest => '%' :: '%' :: '\x7b' :: guardMarkers rest
  | char :: rest => char :: guardMarkers rest
  | [] => []

def sourceQuoted (text : String) : String :=
  "\"" ++ String.ofList ((guardMarkers text.toList).flatMap sourceChar) ++ "\""

/-- A line break with the indentation of a level. -/
def sourceBreak (depth : Nat) : String := "\n" ++ String.ofList (List.replicate (2 * depth) ' ')

namespace Expr

def templateSource : TemplateForm → String → String
  | .quoted, source => "\"" ++ source ++ "\""
  | .heredoc delimiter indented, source =>
    (if indented then "<<-" else "<<") ++ delimiter ++ "\n" ++ source ++ delimiter

def loopNames : Option String → String → String
  | none, value => value
  | some key, value => key ++ ", " ++ value

mutual
/-- Source text at a level of indentation. -/
def renderAt (depth : Nat) : Expr → String
  | null => "null"
  | bool value => if value then "true" else "false"
  | number value => value.toText
  | string value => sourceQuoted value
  | array [] => "[]"
  | array (item :: rest) =>
    "[" ++ sourceBreak (depth + 1) ++ renderAt (depth + 1) item ++ renderItems (depth + 1) rest ++
      sourceBreak depth ++ "]"
  | object [] => "\x7b\x7d"
  | object (item :: rest) =>
    "\x7b" ++ renderEntries (depth + 1) (item :: rest) ++ sourceBreak depth ++ "\x7d"
  | template form source _ => templateSource form source
  | .variable name => name
  | traversal root steps => renderAt depth root ++ renderSteps depth steps
  | call name arguments expand =>
    name ++ "(" ++ renderArguments depth arguments ++ (if expand then "...)" else ")")
  | parens inner => "(" ++ renderAt depth inner ++ ")"
  | conditional condition yes no =>
    renderAt depth condition ++ " ? " ++ renderAt depth yes ++ " : " ++ renderAt depth no
  | unary operator operand => operator.symbol ++ renderAt depth operand
  | binary operator left right =>
    renderAt depth left ++ " " ++ operator.symbol ++ " " ++ renderAt depth right
  | listFor key value collection item condition =>
    "[for " ++ loopNames key value ++ " in " ++ renderAt depth collection ++ " : " ++
      renderAt depth item ++ renderCondition depth condition ++ "]"
  | mapFor key value collection entryKey entryValue grouping condition =>
    "\x7bfor " ++ loopNames key value ++ " in " ++ renderAt depth collection ++ " : " ++
      renderAt depth entryKey ++ " => " ++ renderAt depth entryValue ++
      (if grouping then "..." else "") ++ renderCondition depth condition ++ "\x7d"

/-- The items of an array after the first. -/
def renderItems (depth : Nat) : List Expr → String
  | [] => ""
  | item :: rest => "," ++ sourceBreak depth ++ renderAt depth item ++ renderItems depth rest

/-- The items of an object, each on a line of its own. -/
def renderEntries (depth : Nat) : List (ObjectKey × Expr) → String
  | [] => ""
  | (key, value) :: rest =>
    sourceBreak depth ++ renderKey depth key ++ " = " ++ renderAt depth value ++
      renderEntries depth rest

def renderKey (depth : Nat) : ObjectKey → String
  | .name text => text
  | .expr key => renderAt depth key

def renderArguments (depth : Nat) : List Expr → String
  | [] => ""
  | [argument] => renderAt depth argument
  | argument :: rest => renderAt depth argument ++ ", " ++ renderArguments depth rest

def renderCondition (depth : Nat) : Option Expr → String
  | none => ""
  | some condition => " if " ++ renderAt depth condition

def renderSteps (depth : Nat) : List Step → String
  | [] => ""
  | step :: rest => renderStep depth step ++ renderSteps depth rest

def renderStep (depth : Nat) : Step → String
  | .attribute name => "." ++ name
  | .index key => "[" ++ renderAt depth key ++ "]"
  | .position index => "." ++ toString index
  | .eachAttribute names => ".*" ++ String.join (names.map ("." ++ ·))
  | .each => "[*]"
end

/-- Source text of an expression. -/
def render (expr : Expr) : String := renderAt 0 expr

end Expr

/-- Text of an object key on its own: a plain text stands without quotes. -/
def ObjectKey.render : ObjectKey → String
  | name text => text
  | expr (.string value) => value
  | expr key => key.render

/-- Whether two keys of an object are written alike. -/
def ObjectKey.alike : ObjectKey → ObjectKey → Bool
  | name left, name right => left == right
  | expr left, expr right => left.render == right.render
  | _, _ => false

/-- The address that a traversal spells out; keys are written on one level. -/
def traversalAddress (root : String) (steps : List Step) : String :=
  root ++ Expr.renderSteps 0 steps

end Terradoc
