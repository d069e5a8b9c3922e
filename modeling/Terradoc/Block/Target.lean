import Terradoc.Eval.Reference

namespace Terradoc

def reservedRoots : List String := ["var", "local", "each", "count", "path", "terraform", "self"]

def traversalTarget? (root : String) (steps : List Step) : Option BlockTarget :=
  if root == "data" then
    match steps with
    | .attribute type :: .attribute name :: rest =>
      some { BlockTarget.data type name with key := literalKey? rest }
    | _ => none
  else
    match steps with
    | .attribute name :: rest =>
      if root == "module" then some { BlockTarget.module name with key := literalKey? rest }
      else if reservedRoots.contains root then none
      else some { BlockTarget.resource root name with key := literalKey? rest }
    | _ => none

/-- Names that a loop binds, put before those bound around it. -/
def bindNames (key : Option String) (value : String) (bound : List String) : List String :=
  value :: key.toList ++ bound

mutual
/-- Blocks that an expression addresses, in the order in which they are written. -/
def Expr.targets (bound : List String) : Expr → List BlockTarget
  | .traversal (.variable name) steps =>
    (if bound.contains name then [] else (traversalTarget? name steps).toList) ++
      stepTargets bound steps
  | .traversal root steps => root.targets bound ++ stepTargets bound steps
  | .array items => itemTargets bound items
  | .object items => objectTargets bound items
  | .template _ _ elements => templateTargets bound elements
  | .call _ arguments _ => itemTargets bound arguments
  | .parens inner => inner.targets bound
  | .conditional condition yes no =>
    condition.targets bound ++ yes.targets bound ++ no.targets bound
  | .unary _ operand => operand.targets bound
  | .binary _ left right => left.targets bound ++ right.targets bound
  | .listFor key value collection item condition =>
    let inner := bindNames key value bound
    collection.targets bound ++ item.targets inner ++ conditionTargets inner condition
  | .mapFor key value collection entryKey entryValue _ condition =>
    let inner := bindNames key value bound
    collection.targets bound ++ entryKey.targets inner ++ entryValue.targets inner ++
      conditionTargets inner condition
  | .null | .bool _ | .number _ | .string _ | .variable _ => []

/-- Blocks that the condition of a loop addresses. -/
def conditionTargets (bound : List String) : Option Expr → List BlockTarget
  | none => []
  | some condition => condition.targets bound

/-- Blocks that expressions address. -/
def itemTargets (bound : List String) : List Expr → List BlockTarget
  | [] => []
  | item :: rest => item.targets bound ++ itemTargets bound rest

def objectTargets (bound : List String) : List (ObjectKey × Expr) → List BlockTarget
  | [] => []
  | (key, value) :: rest =>
    keyTargets bound key ++ value.targets bound ++ objectTargets bound rest

def keyTargets (bound : List String) : ObjectKey → List BlockTarget
  | .name _ => []
  | .expr key => key.targets bound

/-- Blocks that the index keys among steps address. -/
def stepTargets (bound : List String) : List Step → List BlockTarget
  | [] => []
  | .index key :: rest => key.targets bound ++ stepTargets bound rest
  | _ :: rest => stepTargets bound rest

def templateTargets (bound : List String) : List TemplateElement → List BlockTarget
  | [] => []
  | element :: rest => elementTargets bound element ++ templateTargets bound rest

/-- Blocks that a part of a template addresses. -/
def elementTargets (bound : List String) : TemplateElement → List BlockTarget
  | .literal _ => []
  | .interpolation value => value.targets bound
  | .branch condition yes no =>
    condition.targets bound ++ templateTargets bound yes ++ otherwiseTargets bound no
  | .loop key value collection body =>
    collection.targets bound ++ templateTargets (bindNames key value bound) body

/-- Blocks that the second branch of a directive addresses. -/
def otherwiseTargets (bound : List String) : Option (List TemplateElement) → List BlockTarget
  | none => []
  | some elements => templateTargets bound elements
end

def attributeTargets (bound : List String) (attributes : List Attribute) : List BlockTarget :=
  attributes.flatMap fun attr => attr.value.targets bound

/-- The names bound inside a dynamic block. -/
def iteratorNames (labels : List String) (body : Body) : List String :=
  match body.attribute? "iterator" with
  | some (.variable name) => [name]
  | some _ => []
  | none => labels.take 1

/-- Blocks that the arguments of a dynamic block address: the collection outside of its iterator,
all else inside. -/
def dynamicTargets (bound inner : List String) (body : Body) : List BlockTarget :=
  ((body.attribute? "for_each").map (Expr.targets bound)).getD [] ++
    attributeTargets inner (body.attributes.filter (·.name != "for_each"))

mutual
/-- Blocks that the nested blocks of a body address. -/
def blockTargets (bound : List String) : Body → List BlockTarget
  | [] => []
  | .attribute .. :: rest => blockTargets bound rest
  | .block identifier labels _ body :: rest =>
    (if identifier == "dynamic" then
      let inner := iteratorNames labels body ++ bound
      dynamicTargets bound inner body ++ contentTargets inner body
    else attributeTargets bound (Body.attributes body) ++ blockTargets bound body) ++
      blockTargets bound rest

/-- Blocks that the blocks directly inside a dynamic block address. -/
def contentTargets (bound : List String) : Body → List BlockTarget
  | [] => []
  | .attribute .. :: rest => contentTargets bound rest
  | .block _ _ _ body :: rest =>
    attributeTargets bound (Body.attributes body) ++ blockTargets bound body ++
      contentTargets bound rest
end

/-- Blocks that a body addresses: in its attributes, then in its nested blocks. -/
def Body.targets (body : Body) : List BlockTarget :=
  attributeTargets [] body.attributes ++ blockTargets [] body

end Terradoc
