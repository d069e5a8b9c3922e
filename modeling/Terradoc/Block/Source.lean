import Terradoc.Block.Kind
import Terradoc.Syntax.Body
import Terradoc.Syntax.Spans

namespace Terradoc

/-- A top-level block of a file. -/
structure SourceBlock where
  kind : BlockKind
  body : Body
  /-- The file as seen from the root directory. -/
  filename : String
  spans : SpanTree

namespace SourceBlock

/-- The path of a block within its module, without an instance key. -/
def address (block : SourceBlock) : String := block.kind.address

def lines (block : SourceBlock) : LineRange := block.spans.lines

end SourceBlock

/-- A block that had to be left out, with the line where it starts. -/
structure BlockProblem where
  line : Nat
  cause : MissingLabels
deriving DecidableEq, Repr

def BlockProblem.message (problem : BlockProblem) : String :=
  "line " ++ toString problem.line ++ ": " ++ problem.cause.message

/-- The blocks of a file, and those that had to be left out. -/
structure SourceFile where
  blocks : List SourceBlock
  problems : List BlockProblem

namespace SourceFile

/-- A top-level block, or why it has to be left out. -/
def classify (filename : String) (block : NestedSource) : Except BlockProblem SourceBlock :=
  match BlockKind.ofHeader block.identifier block.labels with
  | .ok kind => .ok ⟨kind, block.body, filename, ⟨block.lines, block.body.spans⟩⟩
  | .error cause => .error ⟨block.lines.start, cause⟩

/-- The blocks of a body; attributes at the top do not count. -/
def ofBody (filename : String) (body : Body) : SourceFile :=
  let outcomes := body.blocks.map (classify filename)
  ⟨outcomes.filterMap Except.toOption, outcomes.filterMap fun
    | .error problem => some problem
    | .ok _ => none⟩

def parse? (text filename : String) : Option SourceFile :=
  (Body.parse? text).map (ofBody filename)

end SourceFile

end Terradoc
