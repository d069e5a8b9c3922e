import Terradoc.Block.Target

/-! References as they are written: the roots and steps of all traversals whose root is no variable of a
loop or dynamic block. The blocks that are addressed are among them. -/

namespace Terradoc

/-- A reference from a root by steps. -/
structure Mention where
  root : String
  steps : List Step

/-- The block that a reference addresses. -/
def Mention.target? (mention : Mention) : Option BlockTarget :=
  traversalTarget? mention.root mention.steps

mutual
/-- References in an expression, in the order in which they are written. -/
def Expr.mentions (bound : List String) : Expr → List Mention
  | .traversal (.variable name) steps =>
    (if bound.contains name then [] else [⟨name, steps⟩]) ++ stepMentions bound steps
  | .traversal root steps => root.mentions bound ++ stepMentions bound steps
  | .array items => itemMentions bound items
  | .object items => objectMentions bound items
  | .template _ _ elements => templateMentions bound elements
  | .call _ arguments _ => itemMentions bound arguments
  | .parens inner => inner.mentions bound
  | .conditional condition yes no =>
    condition.mentions bound ++ yes.mentions bound ++ no.mentions bound
  | .unary _ operand => operand.mentions bound
  | .binary _ left right => left.mentions bound ++ right.mentions bound
  | .listFor key value collection item condition =>
    let inner := bindNames key value bound
    collection.mentions bound ++ item.mentions inner ++ conditionMentions inner condition
  | .mapFor key value collection entryKey entryValue _ condition =>
    let inner := bindNames key value bound
    collection.mentions bound ++ entryKey.mentions inner ++ entryValue.mentions inner ++
      conditionMentions inner condition
  | .null | .bool _ | .number _ | .string _ | .variable _ => []

/-- References in the condition of a loop. -/
def conditionMentions (bound : List String) : Option Expr → List Mention
  | none => []
  | some condition => condition.mentions bound

/-- References in expressions. -/
def itemMentions (bound : List String) : List Expr → List Mention
  | [] => []
  | item :: rest => item.mentions bound ++ itemMentions bound rest

def objectMentions (bound : List String) : List (ObjectKey × Expr) → List Mention
  | [] => []
  | (key, value) :: rest =>
    keyMentions bound key ++ value.mentions bound ++ objectMentions bound rest

def keyMentions (bound : List String) : ObjectKey → List Mention
  | .name _ => []
  | .expr key => key.mentions bound

/-- References in the index keys among steps. -/
def stepMentions (bound : List String) : List Step → List Mention
  | [] => []
  | .index key :: rest => key.mentions bound ++ stepMentions bound rest
  | _ :: rest => stepMentions bound rest

def templateMentions (bound : List String) : List TemplateElement → List Mention
  | [] => []
  | element :: rest => elementMentions bound element ++ templateMentions bound rest

/-- References in a part of a template. -/
def elementMentions (bound : List String) : TemplateElement → List Mention
  | .literal _ => []
  | .interpolation value => value.mentions bound
  | .branch condition yes no =>
    condition.mentions bound ++ templateMentions bound yes ++ otherwiseMentions bound no
  | .loop key value collection body =>
    collection.mentions bound ++ templateMentions (bindNames key value bound) body

/-- References in the second branch of a directive. -/
def otherwiseMentions (bound : List String) : Option (List TemplateElement) → List Mention
  | none => []
  | some elements => templateMentions bound elements
end

def attributeMentions (bound : List String) (attributes : List Attribute) : List Mention :=
  attributes.flatMap fun attr => attr.value.mentions bound

/-- References in the arguments of a dynamic block: those of the collection outside of its iterator, all
others inside. -/
def dynamicMentions (bound inner : List String) (body : Body) : List Mention :=
  ((body.attribute? "for_each").map (Expr.mentions bound)).getD [] ++
    attributeMentions inner (body.attributes.filter (·.name != "for_each"))

mutual
/-- References in the nested blocks of a body. -/
def blockMentions (bound : List String) : Body → List Mention
  | [] => []
  | .attribute .. :: rest => blockMentions bound rest
  | .block identifier labels _ body :: rest =>
    (if identifier == "dynamic" then
      let inner := iteratorNames labels body ++ bound
      dynamicMentions bound inner body ++ contentMentions inner body
    else attributeMentions bound (Body.attributes body) ++ blockMentions bound body) ++
      blockMentions bound rest

/-- References in the blocks directly inside a dynamic block. -/
def contentMentions (bound : List String) : Body → List Mention
  | [] => []
  | .attribute .. :: rest => contentMentions bound rest
  | .block _ _ _ body :: rest =>
    attributeMentions bound (Body.attributes body) ++ blockMentions bound body ++
      contentMentions bound rest
end

/-- References in a body: in its attributes, then in its nested blocks. -/
def Body.mentions (body : Body) : List Mention :=
  attributeMentions [] body.attributes ++ blockMentions [] body

section Targets

mutual
theorem Expr.targets_eq : ∀ (expr : Expr) (bound : List String),
    expr.targets bound = (expr.mentions bound).filterMap Mention.target?
  | .null, _ | .bool _, _ | .number _, _ | .string _, _ | .variable _, _ => by
    simp only [Expr.targets, Expr.mentions, List.filterMap_nil]
  | .parens inner, bound => by rw [Expr.targets, Expr.mentions, inner.targets_eq]
  | .array items, bound => by rw [Expr.targets, Expr.mentions, itemTargets_eq items]
  | .object items, bound => by rw [Expr.targets, Expr.mentions, objectTargets_eq items]
  | .template _ _ elements, bound => by rw [Expr.targets, Expr.mentions, templateTargets_eq elements]
  | .call _ arguments _, bound => by rw [Expr.targets, Expr.mentions, itemTargets_eq arguments]
  | .traversal root steps, bound => by
    by_cases named : ∃ name, root = .variable name
    · obtain ⟨name, rfl⟩ := named
      rw [Expr.targets, Expr.mentions, List.filterMap_append, stepTargets_eq steps]
      refine congrArg (· ++ _) ?_
      split
      · rfl
      · cases found : traversalTarget? name steps <;> simp [Mention.target?, found]
    · have unnamed : ∀ name, root ≠ .variable name := not_exists.mp named
      rw [Expr.targets, Expr.mentions, List.filterMap_append, root.targets_eq, stepTargets_eq steps]
      · exact unnamed
      · exact unnamed
  | .conditional condition yes no, bound => by
    rw [Expr.targets, Expr.mentions, List.filterMap_append, List.filterMap_append, condition.targets_eq,
      yes.targets_eq, no.targets_eq]
  | .unary _ operand, bound => by rw [Expr.targets, Expr.mentions, operand.targets_eq]
  | .binary _ left right, bound => by
    rw [Expr.targets, Expr.mentions, List.filterMap_append, left.targets_eq, right.targets_eq]
  | .listFor key value collection item condition, bound => by
    simp only [Expr.targets, Expr.mentions, List.filterMap_append, collection.targets_eq,
      item.targets_eq, conditionTargets_eq condition]
  | .mapFor key value collection entryKey entryValue _ condition, bound => by
    simp only [Expr.targets, Expr.mentions, List.filterMap_append, collection.targets_eq,
      entryKey.targets_eq, entryValue.targets_eq, conditionTargets_eq condition]

theorem conditionTargets_eq : ∀ (condition : Option Expr) (bound : List String),
    conditionTargets bound condition = (conditionMentions bound condition).filterMap Mention.target?
  | none, _ => by rw [conditionTargets, conditionMentions, List.filterMap_nil]
  | some condition, bound => by rw [conditionTargets, conditionMentions, condition.targets_eq]

theorem itemTargets_eq : ∀ (items : List Expr) (bound : List String),
    itemTargets bound items = (itemMentions bound items).filterMap Mention.target?
  | [], _ => by rw [itemTargets, itemMentions, List.filterMap_nil]
  | item :: rest, bound => by
    rw [itemTargets, itemMentions, List.filterMap_append, item.targets_eq, itemTargets_eq rest]

theorem objectTargets_eq : ∀ (items : List (ObjectKey × Expr)) (bound : List String),
    objectTargets bound items = (objectMentions bound items).filterMap Mention.target?
  | [], _ => by rw [objectTargets, objectMentions, List.filterMap_nil]
  | (key, value) :: rest, bound => by
    rw [objectTargets, objectMentions, List.filterMap_append, List.filterMap_append,
      keyTargets_eq key, value.targets_eq, objectTargets_eq rest]

theorem keyTargets_eq : ∀ (key : ObjectKey) (bound : List String),
    keyTargets bound key = (keyMentions bound key).filterMap Mention.target?
  | .name _, _ => by rw [keyTargets, keyMentions, List.filterMap_nil]
  | .expr key, bound => by rw [keyTargets, keyMentions, key.targets_eq]

theorem stepTargets_eq : ∀ (steps : List Step) (bound : List String),
    stepTargets bound steps = (stepMentions bound steps).filterMap Mention.target?
  | [], _ => by rw [stepTargets, stepMentions, List.filterMap_nil]
  | .index key :: rest, bound => by
    rw [stepTargets, stepMentions, List.filterMap_append, key.targets_eq, stepTargets_eq rest]
  | .attribute _ :: rest, bound | .position _ :: rest, bound | .eachAttribute _ :: rest, bound
  | .each :: rest, bound => by
    simp only [stepTargets, stepMentions, stepTargets_eq rest]

theorem templateTargets_eq : ∀ (elements : List TemplateElement) (bound : List String),
    templateTargets bound elements = (templateMentions bound elements).filterMap Mention.target?
  | [], _ => by rw [templateTargets, templateMentions, List.filterMap_nil]
  | element :: rest, bound => by
    rw [templateTargets, templateMentions, List.filterMap_append, elementTargets_eq element,
      templateTargets_eq rest]

theorem elementTargets_eq : ∀ (element : TemplateElement) (bound : List String),
    elementTargets bound element = (elementMentions bound element).filterMap Mention.target?
  | .literal _, _ => by rw [elementTargets, elementMentions, List.filterMap_nil]
  | .interpolation value, bound => by rw [elementTargets, elementMentions, value.targets_eq]
  | .branch condition yes no, bound => by
    rw [elementTargets, elementMentions, List.filterMap_append, List.filterMap_append,
      condition.targets_eq, templateTargets_eq yes, otherwiseTargets_eq no]
  | .loop _ _ collection body, bound => by
    rw [elementTargets, elementMentions, List.filterMap_append, collection.targets_eq,
      templateTargets_eq body]

theorem otherwiseTargets_eq : ∀ (branch : Option (List TemplateElement)) (bound : List String),
    otherwiseTargets bound branch = (otherwiseMentions bound branch).filterMap Mention.target?
  | none, _ => by rw [otherwiseTargets, otherwiseMentions, List.filterMap_nil]
  | some elements, bound => by rw [otherwiseTargets, otherwiseMentions, templateTargets_eq elements]
end

theorem attributeTargets_eq (bound : List String) (attributes : List Attribute) :
    attributeTargets bound attributes =
      (attributeMentions bound attributes).filterMap Mention.target? := by
  rw [attributeTargets, attributeMentions, List.filterMap_flatMap]
  exact congrArg (List.flatMap · attributes) (funext fun attr => attr.value.targets_eq bound)

theorem dynamicTargets_eq (bound inner : List String) (body : Body) :
    dynamicTargets bound inner body =
      (dynamicMentions bound inner body).filterMap Mention.target? := by
  rw [dynamicTargets, dynamicMentions, List.filterMap_append, attributeTargets_eq]
  refine congrArg (· ++ _) ?_
  cases body.attribute? "for_each" with
  | none => rfl
  | some source => exact source.targets_eq bound

mutual
theorem blockTargets_eq : ∀ (body : Body) (bound : List String),
    blockTargets bound body = (blockMentions bound body).filterMap Mention.target?
  | [], _ => by rw [blockTargets, blockMentions, List.filterMap_nil]
  | .attribute .. :: rest, bound => by rw [blockTargets, blockMentions, blockTargets_eq rest]
  | .block identifier labels _ body :: rest, bound => by
    rw [blockTargets, blockMentions, List.filterMap_append, blockTargets_eq rest]
    refine congrArg (· ++ _) ?_
    split
    · simp only [List.filterMap_append, dynamicTargets_eq, contentTargets_eq body]
    · rw [List.filterMap_append, attributeTargets_eq, blockTargets_eq body]

theorem contentTargets_eq : ∀ (body : Body) (bound : List String),
    contentTargets bound body = (contentMentions bound body).filterMap Mention.target?
  | [], _ => by rw [contentTargets, contentMentions, List.filterMap_nil]
  | .attribute .. :: rest, bound => by
    rw [contentTargets, contentMentions, contentTargets_eq rest]
  | .block _ _ _ body :: rest, bound => by
    rw [contentTargets, contentMentions, List.filterMap_append, List.filterMap_append,
      attributeTargets_eq, blockTargets_eq body, contentTargets_eq rest]
end

/-- The blocks that a body addresses are those of its references. -/
theorem Body.targets_eq (body : Body) :
    body.targets = body.mentions.filterMap Mention.target? := by
  rw [Body.targets, Body.mentions, List.filterMap_append, attributeTargets_eq, blockTargets_eq]

end Targets

end Terradoc
