import Terradoc.Block.Basic
import Terradoc.Block.Fault
import Terradoc.Syntax.Spans

/-! Evaluation of bodies: attributes in order, then nested blocks in order. A dynamic block makes a
block for each entry of a collection. -/

namespace Terradoc

/-- Arguments that hold addresses. They are not evaluated. -/
def addressArguments : List String :=
  ["depends_on", "provider", "providers", "ignore_changes", "replace_triggered_by"]

mutual
/-- Addresses as they are written, in the lists and objects that hold them. -/
def Expr.addresses : Expr → Value
  | .array items => .list (addressItems items)
  | .object items => .map (addressEntries [] items)
  | .string text => .string text
  | other => .string other.render

def addressItems : List Expr → List Value
  | [] => []
  | item :: rest => item.addresses :: addressItems rest

/-- Addresses of the entries of an object, put after those taken so far. -/
def addressEntries (taken : Entries Value) : List (ObjectKey × Expr) → Entries Value
  | [] => taken
  | (key, value) :: rest =>
    addressEntries (Entries.insert taken key.render value.addresses) rest
end

structure BodyContext where
  filename : String
  /-- The address that faults are reported under. -/
  address : String

/-- The value of an attribute; one that fails is unknown at its own address. -/
def evaluateAttribute (context : BodyContext) (env : Environment) (attr : Attribute) :
    Noted Value :=
  if addressArguments.contains attr.name then .clean attr.value.addresses
  else
    match attr.value.eval env with
    | .ok value => .clean value
    | .error cause =>
      let address := context.address ++ "." ++ attr.name
      .instead (.unresolved address attr.name) ⟨address, .expression cause⟩

def evaluateAttributes (context : BodyContext) (env : Environment) (attributes : List Attribute) :
    Noted (Entries Value) :=
  let results := attributes.map fun attr => (attr.name, evaluateAttribute context env attr)
  ⟨Entries.ofList (results.map fun (name, noted) => (name, noted.value)),
    results.flatMap fun (_, noted) => noted.faults⟩

/-- The name under which a dynamic block knows its current entry. -/
def iteratorName (label : String) (body : Body) : String :=
  match body.attribute? "iterator" with
  | some (.variable name) => name
  | some other => other.render
  | none => label

/-- The entries that a dynamic block goes over: those of a map in the order of their keys. -/
def dynamicEntries (value : Value) : Except EvalError (List (Value × Value)) :=
  match value with
  | .unknown _ | .null => .ok []
  | .map entries =>
    .ok ((entries.mergeSort fun left right => !(right.1 < left.1)).map fun (key, item) =>
      (.string key, item))
  | other => other.entries?

/-- The text of a block label; an unknown shows the expression that it stands for. -/
def labelText? (value : Value) : Option String :=
  match value with
  | .unknown marker => some (marker.template.getD marker.address)
  | value => value.toText.toOption

/-- One turn of a dynamic block: what the content is evaluated in, and the labels it gets. -/
structure Turn where
  env : Environment
  labels : Noted (List String)

/-- The labels that a dynamic block gives in one turn. -/
def turnLabels (context : BodyContext) (env : Environment) (label : String) (body : Body) :
    Noted (List String) :=
  match body.attribute? "labels" with
  | none => .clean []
  | some expr =>
    match expr.eval env with
    | .ok (.list items) => .clean (items.filterMap labelText?)
    | .ok _ => .clean []
    | .error cause => .instead [] ⟨context.address, .labels label cause⟩

def Turn.ofEntry (context : BodyContext) (env : Environment) (label : String) (body : Body)
    (entry : Value × Value) : Turn :=
  let inner := env.bind (iteratorName label body) (.map [("key", entry.1), ("value", entry.2)])
  ⟨inner, turnLabels context inner label body⟩

def Body.hasBlock (body : Body) (identifier : String) : Bool :=
  body.blocks.any (·.identifier == identifier)

def dynamicTurns (context : BodyContext) (env : Environment) (label : String) (body : Body) :
    Except FaultCause (List Turn) :=
  match body.attribute? "for_each", body.hasBlock "content" with
  | some source, true =>
    match source.eval env >>= dynamicEntries with
    | .ok entries => .ok (entries.map (Turn.ofEntry context env label body))
    | .error cause => .error (.source label cause)
  | _, _ => .error (.incomplete label)

def nestedBlock (identifier : String) (labels : Noted (List String)) (source : SourceRange)
    (attributes : Noted (Entries Value)) (blocks : Noted (List (NestedBlock Unit))) :
    Noted (List (NestedBlock Unit)) :=
  ⟨[.mk identifier labels.value source attributes.value blocks.value ()],
    labels.faults ++ attributes.faults ++ blocks.faults⟩

mutual
/-- The nested blocks of a body, given the lines of its blocks and the position of the next one among
them. A dynamic block that fails makes none. -/
def evaluateBlocks (context : BodyContext) (env : Environment) (spans : SpanTree) (position : Nat) :
    Body → Noted (List (NestedBlock Unit))
  | [] => .clean []
  | .attribute .. :: rest => evaluateBlocks context env spans position rest
  | .block identifier labels _ body :: rest =>
    let span := spans.child position
    let first :=
      if identifier == "dynamic" then
        match labels with
        | [] => .instead [] ⟨context.address, .noLabel⟩
        | label :: _ =>
          match dynamicTurns context env label body with
          | .error cause => .instead [] ⟨context.address, cause⟩
          | .ok turns => evaluateContent context label turns span 0 body
      else
        nestedBlock identifier (.clean labels) ⟨context.filename, span.lines⟩
          (evaluateAttributes context env (Body.attributes body)) (evaluateBlocks context env span 0 body)
    .concat [first, evaluateBlocks context env spans (position + 1) rest]

/-- The blocks that a dynamic block makes out of the first content block of its body, whose lines it
takes. -/
def evaluateContent (context : BodyContext) (label : String) (turns : List Turn) (spans : SpanTree)
    (position : Nat) : Body → Noted (List (NestedBlock Unit))
  | [] => .clean []
  | .attribute .. :: rest => evaluateContent context label turns spans position rest
  | .block identifier _ _ content :: rest =>
    if identifier == "content" then
      .concat (turns.map fun turn =>
        nestedBlock label turn.labels ⟨context.filename, (spans.child position).lines⟩
          (evaluateAttributes context turn.env (Body.attributes content))
          (evaluateBlocks context turn.env (spans.child position) 0 content))
    else evaluateContent context label turns spans (position + 1) rest
end

/-- Evaluates a body, given the lines of its blocks: those that are read with it, unless others are
given. -/
def evaluateBody (context : BodyContext) (env : Environment) (body : Body)
    (spans : SpanTree := .ofBody body) : Noted (EvaluatedBody Unit) :=
  let attributes := evaluateAttributes context env body.attributes
  let blocks := evaluateBlocks context env spans 0 body
  ⟨⟨attributes.value, blocks.value⟩, attributes.faults ++ blocks.faults⟩

end Terradoc
