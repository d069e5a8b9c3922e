import Terradoc.Block.Basic

namespace Terradoc

variable {ι : Type}

/-- Appends to the list under a key. What is there and is no list stays as it is. -/
def pushUnder (object : Entries Value) (key : String) (value : Value) : Entries Value :=
  match Entries.get? object key with
  | none => Entries.insert object key (.list [value])
  | some (.list items) => Entries.insert object key (.list (items ++ [value]))
  | some _ => object

mutual
def NestedBlock.value : NestedBlock ι → Value
  | .mk _ _ _ attributes blocks _ => .map (withBlocks attributes blocks)

/-- Attributes followed by nested blocks, those of one identifier in a list. -/
def withBlocks (object : Entries Value) : List (NestedBlock ι) → Entries Value
  | [] => object
  | block :: rest => withBlocks (pushUnder object block.identifier block.value) rest
end

def EvaluatedBody.value (body : EvaluatedBody ι) : Value :=
  .map (withBlocks body.attributes body.blocks)

/-- The value of all instances of a block: a list for indices, a map for keys, and the value itself
for a single instance. -/
def collectInstances (instances : List (Option InstanceKey × Value)) : Value :=
  match instances with
  | [] => .list []
  | (none, value) :: _ => value
  | (some (.index _), _) :: _ => .list (instances.map (·.2))
  | (some (.key _), _) :: _ =>
    .map (Entries.ofList (instances.filterMap fun
      | (some (.key key), value) => some (key, value)
      | _ => none))

end Terradoc
