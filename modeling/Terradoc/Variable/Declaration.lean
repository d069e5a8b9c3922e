import Terradoc.Block.Source
import Terradoc.VarType.Parser

namespace Terradoc

/-- A declared variable. A type or default that makes no sense counts as none. -/
structure VariableDeclaration where
  name : String
  type : Option VarType
  default : Option Value

/-- Values by name that are given to the variables of a module. -/
abbrev Inputs := Entries Value

namespace VariableDeclaration

def ofBlock? (env : Environment) (block : SourceBlock) : Option VariableDeclaration :=
  match block.kind with
  | .variable name =>
    some ⟨name,
      (block.body.attribute? "type").bind fun expr => (VarType.parse env expr).toOption,
      (block.body.attribute? "default").bind fun expr => (expr.eval env).toOption⟩
  | _ => none

/-- The declarations of a module in order. -/
def ofBlocks (env : Environment) (blocks : List SourceBlock) : List VariableDeclaration :=
  blocks.filterMap (ofBlock? env)

/-- A value that is given to a variable, converted to its type where that can be done. -/
def accept (declaration : VariableDeclaration) (value : Value) : Value :=
  match declaration.type with
  | none => value
  | some type => (type.coerce value).toOption.getD value

/-- The value of a variable: what is given, else the default as written, else unknown. -/
def resolve (declaration : VariableDeclaration) (inputs : Inputs) : Value :=
  match Entries.get? inputs declaration.name, declaration.default with
  | some value, _ => declaration.accept value
  | none, some value => value
  | none, none => .unresolved ("var." ++ declaration.name) declaration.name

end VariableDeclaration

/-- The values of variables by name; the last declaration of a name counts. -/
def resolveVariables (declarations : List VariableDeclaration) (inputs : Inputs) : Entries Value :=
  Entries.ofList (declarations.map fun declaration =>
    (declaration.name, declaration.resolve inputs))

end Terradoc
