import Terradoc.OutputFormat
import Terradoc.Proofs.Entries

/-! Documents as partitions of blocks: every block stands once, under its type, in the order of the blocks.
Leaving out types leaves out their blocks, and a summary counts what each type has. -/

namespace Terradoc

/-- The types of blocks in the order in which they first come. -/
def typesOf (blocks : List Block) : List String := (blocks.map (·.kind.typeKey)).eraseDups

def blocksOf (blocks : List Block) (type : String) : List Block := blocks.filter (·.kind.typeKey == type)

theorem groupByKey_eq_grouped {α : Type} (items : List (String × α)) :
    groupByKey items = Entries.grouped id items := by
  have pass (before : List (String × α)) :
      items.foldl (fun groups item => Entries.alter groups item.1 [] (· ++ [item.2]))
        (Entries.grouped id before) = Entries.grouped id (before ++ items) := by
    induction items generalizing before with
    | nil => rw [List.append_nil]; rfl
    | cons item rest ih =>
      have joined : Entries.alter (Entries.grouped id before) item.1 [] (· ++ [item.2]) =
          Entries.grouped id (before ++ [item]) := Entries.alter_grouped id rfl (fun _ => rfl) before item.1
      rw [List.foldl_cons, joined, ih, List.append_assoc, List.singleton_append]
  exact pass []

namespace Document

variable (blocks : List Block)

theorem ofBlocks_eq_grouped :
    ofBlocks blocks = Entries.grouped id (blocks.map fun block => (block.kind.typeKey, block.toJson)) :=
  groupByKey_eq_grouped _

theorem ofBlocks_eq_map :
    ofBlocks blocks = (typesOf blocks).map fun type => (type, (blocksOf blocks type).map Block.toJson) := by
  have objects (type : String) :
      Entries.under (blocks.map fun block => (block.kind.typeKey, block.toJson)) type =
        (blocksOf blocks type).map Block.toJson := by
    rw [Entries.under, List.filter_map, List.map_map]
    rfl
  rw [ofBlocks_eq_grouped, Entries.grouped, List.map_map]
  exact List.map_congr_left fun type _ => congrArg (Prod.mk type) (objects type)

end Document

end Terradoc
