import Terradoc.Syntax.Expr

/-! Names that occur in an expression: as variables, as roots of traversals, and as variables of loops. Names
of attributes and functions, and keys of objects that are bare names, are no such names. -/

namespace Terradoc

mutual
/-- Names that occur in an expression. -/
def Expr.names : Expr → List String
  | .variable name => [name]
  | .traversal root steps => root.names ++ stepNames steps
  | .array items => itemNames items
  | .object items => objectNames items
  | .template _ _ elements => templateNames elements
  | .call _ arguments _ => itemNames arguments
  | .parens inner => inner.names
  | .conditional condition yes no => condition.names ++ yes.names ++ no.names
  | .unary _ operand => operand.names
  | .binary _ left right => left.names ++ right.names
  | .listFor key value collection item condition =>
    value :: key.toList ++ (collection.names ++ item.names ++ conditionNames condition)
  | .mapFor key value collection entryKey entryValue _ condition =>
    value :: key.toList ++
      (collection.names ++ entryKey.names ++ entryValue.names ++ conditionNames condition)
  | .null | .bool _ | .number _ | .string _ => []

def conditionNames : Option Expr → List String
  | none => []
  | some condition => condition.names

def itemNames : List Expr → List String
  | [] => []
  | item :: rest => item.names ++ itemNames rest

def objectNames : List (ObjectKey × Expr) → List String
  | [] => []
  | (key, value) :: rest => keyNames key ++ value.names ++ objectNames rest

def keyNames : ObjectKey → List String
  | .name _ => []
  | .expr key => key.names

def stepNames : List Step → List String
  | [] => []
  | .index key :: rest => key.names ++ stepNames rest
  | _ :: rest => stepNames rest

def templateNames : List TemplateElement → List String
  | [] => []
  | element :: rest => elementNames element ++ templateNames rest

def elementNames : TemplateElement → List String
  | .literal _ => []
  | .interpolation value => value.names
  | .branch condition yes no => condition.names ++ templateNames yes ++ otherwiseNames no
  | .loop key value collection body =>
    value :: key.toList ++ (collection.names ++ templateNames body)

/-- Names in the second branch of a directive. -/
def otherwiseNames : Option (List TemplateElement) → List String
  | none => []
  | some elements => templateNames elements
end

theorem stepNames_cons (step : Step) (rest : List Step) :
    stepNames (step :: rest) = stepNames [step] ++ stepNames rest := by
  cases step <;> simp [stepNames]

end Terradoc
