import Terradoc.Syntax.Expr

namespace Terradoc

/-- The lines of a block and, in the order in which they are written, those of the blocks inside it. -/
structure SpanTree where
  lines : LineRange
  children : List SpanTree

/-- The lines of the blocks of a body, as they are read. -/
def Body.spans : Body → List SpanTree
  | [] => []
  | .attribute .. :: rest => Body.spans rest
  | .block _ _ lines body :: rest => ⟨lines, Body.spans body⟩ :: Body.spans rest

namespace SpanTree

def missing : SpanTree := ⟨⟨0, 0⟩, []⟩

def child (spans : SpanTree) (position : Nat) : SpanTree := spans.children[position]?.getD missing

/-- The lines that are read with a body. -/
def ofBody (body : Body) : SpanTree := ⟨⟨0, 0⟩, body.spans⟩

end SpanTree

end Terradoc
