import Terradoc.Number.Basic

namespace Terradoc

inductive UnaryOperator where
  | not
  | negate
deriving DecidableEq, Repr

def UnaryOperator.symbol : UnaryOperator → String
  | not => "!"
  | negate => "-"

/-- An operator between its operands. -/
inductive BinaryOperator where
  | equal
  | notEqual
  | less
  | lessOrEqual
  | greater
  | greaterOrEqual
  | and
  | or
  | plus
  | minus
  | times
  | divide
  | modulo
deriving DecidableEq, Repr

namespace BinaryOperator

def symbol : BinaryOperator → String
  | equal => "=="
  | notEqual => "!="
  | less => "<"
  | lessOrEqual => "<="
  | greater => ">"
  | greaterOrEqual => ">="
  | and => "&&"
  | or => "||"
  | plus => "+"
  | minus => "-"
  | times => "*"
  | divide => "/"
  | modulo => "%"

def word : BinaryOperator → String
  | equal => "Eq"
  | notEqual => "NotEq"
  | less => "Less"
  | lessOrEqual => "LessEq"
  | greater => "Greater"
  | greaterOrEqual => "GreaterEq"
  | and => "And"
  | or => "Or"
  | plus => "Plus"
  | minus => "Minus"
  | times => "Mul"
  | divide => "Div"
  | modulo => "Mod"

/-- How tightly an operator binds; the higher, the tighter. -/
def precedence : BinaryOperator → Nat
  | times | divide | modulo => 6
  | plus | minus => 5
  | less | lessOrEqual | greater | greaterOrEqual => 4
  | equal | notEqual => 3
  | and => 2
  | or => 1

end BinaryOperator

/-- How a template is written: in quotes, or over lines that end with a delimiter. The lines of an
indented one lose the indentation that they share. -/
inductive TemplateForm where
  | quoted
  | heredoc (delimiter : String) (indented : Bool)
deriving DecidableEq, Repr, Inhabited

mutual
inductive Expr where
  | null
  | bool (value : Bool)
  | number (value : Number)
  | string (value : String)
  | array (items : List Expr)
  | object (items : List (ObjectKey × Expr))
  /-- A text with interpolations or directives, and how it stands in the source. -/
  | template (form : TemplateForm) (source : String) (elements : List TemplateElement)
  | variable (name : String)
  | traversal (root : Expr) (steps : List Step)
  /-- A function call; `expand` spreads the last argument. -/
  | call (name : String) (arguments : List Expr) (expand : Bool)
  | parens (inner : Expr)
  | conditional (condition yes no : Expr)
  | unary (operator : UnaryOperator) (operand : Expr)
  | binary (operator : BinaryOperator) (left right : Expr)
  /-- A list built from the entries of a collection. -/
  | listFor (key : Option String) (value : String) (collection item : Expr)
      (condition : Option Expr)
  /-- A map built from the entries of a collection; `grouping` gathers the values of a key. -/
  | mapFor (key : Option String) (value : String) (collection entryKey entryValue : Expr)
      (grouping : Bool) (condition : Option Expr)

/-- A key of an object: a bare name, or an expression. -/
inductive ObjectKey where
  | name (text : String)
  | expr (key : Expr)

/-- One step from a value into its parts. -/
inductive Step where
  | attribute (name : String)
  | index (key : Expr)
  /-- A position after a dot. -/
  | position (index : Nat)
  /-- The attribute splat with the attribute names that follow it. -/
  | eachAttribute (names : List String)
  /-- The full splat: all later steps go into every item. -/
  | each

inductive TemplateElement where
  | literal (text : String)
  | interpolation (value : Expr)
  | branch (condition : Expr) (yes : List TemplateElement) (no : Option (List TemplateElement))
  | loop (key : Option String) (value : String) (collection : Expr) (body : List TemplateElement)
end

instance : Inhabited Expr := ⟨.null⟩

instance : Inhabited Step := ⟨.each⟩

/-- A template outside a quoted text: its source and its parts. -/
structure Template where
  source : String
  elements : List TemplateElement

/-- Lines that a block takes up in its file, both counted from one. -/
structure LineRange where
  start : Nat
  stop : Nat
deriving DecidableEq, Repr, Inhabited

/-- A part of a body: an attribute or a nested block. -/
inductive Structure where
  | attribute (name : String) (value : Expr)
  | block (identifier : String) (labels : List String) (lines : LineRange) (body : List Structure)

/-- Attributes and blocks in the order in which they are written. -/
abbrev Body := List Structure

structure Attribute where
  name : String
  value : Expr

/-- A block nested in a body. -/
structure NestedSource where
  identifier : String
  labels : List String
  lines : LineRange
  body : Body

namespace Body

def attributes (body : Body) : List Attribute :=
  body.filterMap fun
    | .attribute name value => some ⟨name, value⟩
    | .block .. => none

def blocks (body : Body) : List NestedSource :=
  body.filterMap fun
    | .attribute .. => none
    | .block identifier labels lines body => some ⟨identifier, labels, lines, body⟩

def attribute? (body : Body) (name : String) : Option Expr :=
  (body.attributes.find? (·.name == name)).map (·.value)

end Body

end Terradoc
