import Terradoc.Block.Kind
import Terradoc.Entries
import Terradoc.Syntax.Expr
import Terradoc.Value.Basic

namespace Terradoc

structure SourceRange where
  /-- The file as seen from the root directory. -/
  filename : String
  lines : LineRange
deriving DecidableEq, Repr, Inhabited

/-- The number of a block among those made in a run. -/
structure BlockId where
  number : Nat
deriving DecidableEq, Repr, Inhabited

/-- Hexadecimal digits of a number, with zeros in front up to a size. -/
def hexDigits (size number : Nat) : List Char :=
  let digits := Nat.toDigits 16 number
  List.replicate (size - digits.length) '0' ++ digits

/-- The text of an id: thirty-two hexadecimal digits in the groups of a UUID. -/
def BlockId.text (id : BlockId) : String :=
  let digits := hexDigits 32 id.number
  let part (start size : Nat) : String := String.ofList ((digits.drop start).take size)
  Text.joinWith "-" [part 0 8, part 8 4, part 12 4, part 16 4, part 20 12]

/-- An edge from one top-level block to another. -/
structure Reference where
  id : BlockId
  /-- Resource or data type; `module` for module calls. -/
  label : String
  name : String
deriving DecidableEq, Repr

/-- A block inside another one, written out or made by a dynamic block. Before ids are drawn, the
type of ids is trivial. -/
inductive NestedBlock (ι : Type) where
  | mk (identifier : String) (labels : List String) (source : SourceRange)
      (attributes : Entries Value) (blocks : List (NestedBlock ι)) (id : ι)

namespace NestedBlock

variable {ι : Type}

def identifier : NestedBlock ι → String
  | mk identifier .. => identifier

def labels : NestedBlock ι → List String
  | mk _ labels .. => labels

def source : NestedBlock ι → SourceRange
  | mk _ _ source .. => source

def attributes : NestedBlock ι → Entries Value
  | mk _ _ _ attributes .. => attributes

def blocks : NestedBlock ι → List (NestedBlock ι)
  | mk _ _ _ _ blocks _ => blocks

def id : NestedBlock ι → ι
  | mk _ _ _ _ _ id => id

end NestedBlock

structure EvaluatedBody (ι : Type) where
  attributes : Entries Value
  blocks : List (NestedBlock ι)

/-- One evaluated instance of a top-level block. -/
structure Block where
  kind : BlockKind
  /-- Path with the calls of modules that lead to the block and the instance key. -/
  path : String
  /-- Path within the module, without an instance key. -/
  address : String
  key : Option InstanceKey
  source : SourceRange
  attributes : Entries Value
  blocks : List (NestedBlock BlockId)
  references : List Reference
  id : BlockId

mutual
/-- Draws ids for a nested block, after those of the blocks inside it. The number counts the ids
that are drawn already, and comes back with those added. -/
def NestedBlock.draw (drawn : Nat) : NestedBlock Unit → NestedBlock BlockId × Nat
  | .mk identifier labels source attributes blocks _ =>
    let (blocks, drawn) := drawAll drawn blocks
    (.mk identifier labels source attributes blocks ⟨drawn + 1⟩, drawn + 1)

/-- Draws ids for nested blocks in order. -/
def drawAll (drawn : Nat) : List (NestedBlock Unit) → List (NestedBlock BlockId) × Nat
  | [] => ([], drawn)
  | block :: rest =>
    let (block, drawn) := NestedBlock.draw drawn block
    let (rest, drawn) := drawAll drawn rest
    (block :: rest, drawn)
end

def keySuffix (key : Option InstanceKey) : String := (key.map InstanceKey.suffix).getD ""

end Terradoc
