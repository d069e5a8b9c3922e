import Terradoc.Block.Basic
import Terradoc.Block.Source
import Terradoc.Block.Target

namespace Terradoc

def unknownTargets (attributes : Entries Value) : List BlockTarget :=
  attributes.flatMap fun entry => entry.2.unknowns.filterMap (·.target)

mutual
def NestedBlock.unknownTargets {ι : Type} : NestedBlock ι → List BlockTarget
  | .mk _ _ _ attributes blocks _ => Terradoc.unknownTargets attributes ++ nestedTargets blocks

def nestedTargets {ι : Type} : List (NestedBlock ι) → List BlockTarget
  | [] => []
  | block :: rest => block.unknownTargets ++ nestedTargets rest
end

/-- What a block may refer to: the addresses that it is written with, then the targets of what is
unknown in it. -/
def candidates (source : SourceBlock) (block : Block) : List BlockTarget :=
  source.body.targets ++ unknownTargets block.attributes ++ nestedTargets block.blocks

def BlockTarget.addresses (target : BlockTarget) (kind : BlockKind) : Bool :=
  match kind, target.kind with
  | .resource type name, .resource => type == target.label && name == target.name
  | .data type name, .data => type == target.label && name == target.name
  | .module name, .module => name == target.name
  | _, _ => false

/-- The blocks that a target selects: the instance of its key, or all instances where it has no key
or no instance is of the key. -/
def BlockTarget.select (target : BlockTarget) (blocks : List Block) : List Block :=
  let instances := blocks.filter fun block => target.addresses block.kind
  let keyed := match target.key with
    | some key => instances.filter fun block => block.key == some key
    | none => []
  if keyed.isEmpty then instances else keyed

def BlockTarget.referenceTo (target : BlockTarget) (block : Block) : Reference :=
  ⟨block.id, target.label, target.name⟩

/-- Keeps the first reference to each block. -/
def firstReferences (references : List Reference) : List Reference :=
  (references.foldl
    (fun (kept : List Reference) reference =>
      if kept.any fun other => other.id == reference.id then kept else reference :: kept)
    []).reverse

/-- The references that targets make among blocks. No block refers to itself. -/
def linkTargets (targets : List BlockTarget) (blocks : List Block) (self : BlockId) :
    List Reference :=
  firstReferences ((targets.flatMap fun target =>
    (target.select blocks).map target.referenceTo).filter fun reference => reference.id != self)

end Terradoc
