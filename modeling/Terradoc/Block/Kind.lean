import Terradoc.Text.Pieces

namespace Terradoc

/-- A top-level block by its identifier and labels. -/
inductive BlockKind where
  | resource (type name : String)
  | data (type name : String)
  | variable (name : String)
  | output (name : String)
  | module (name : String)
  | provider (name : String)
  | locals
  | moved
  | terraform
  | other (identifier : String) (labels : List String)
deriving DecidableEq, Repr, Inhabited

/-- A block with fewer labels than its identifier asks for. -/
structure MissingLabels where
  identifier : String
  wanted : Nat
  found : Nat
deriving DecidableEq, Repr

def MissingLabels.message (missing : MissingLabels) : String :=
  missing.identifier ++ " block requires " ++ toString missing.wanted ++ " label(s), found " ++
    toString missing.found

namespace BlockKind

/-- A kind that two labels make; more labels do not count. -/
def ofTwo (identifier : String) (make : String → String → BlockKind) :
    List String → Except MissingLabels BlockKind
  | first :: second :: _ => .ok (make first second)
  | labels => .error ⟨identifier, 2, labels.length⟩

/-- A kind that one label makes; more labels do not count. -/
def ofOne (identifier : String) (make : String → BlockKind) :
    List String → Except MissingLabels BlockKind
  | first :: _ => .ok (make first)
  | [] => .error ⟨identifier, 1, 0⟩

def ofHeader (identifier : String) (labels : List String) : Except MissingLabels BlockKind :=
  if identifier == "resource" then ofTwo identifier resource labels
  else if identifier == "data" then ofTwo identifier data labels
  else if identifier == "variable" then ofOne identifier .variable labels
  else if identifier == "output" then ofOne identifier output labels
  else if identifier == "module" then ofOne identifier module labels
  else if identifier == "provider" then ofOne identifier provider labels
  else if identifier == "locals" then .ok locals
  else if identifier == "moved" then .ok moved
  else if identifier == "terraform" then .ok terraform
  else .ok (other identifier labels)

def identifier : BlockKind → String
  | resource _ _ => "resource"
  | data _ _ => "data"
  | .variable _ => "variable"
  | output _ => "output"
  | module _ => "module"
  | provider _ => "provider"
  | locals => "locals"
  | moved => "moved"
  | terraform => "terraform"
  | other identifier _ => identifier

/-- The key that a block is grouped under: the type of resources and data sources, otherwise the
identifier. -/
def typeKey : BlockKind → String
  | resource type _ | data type _ => type
  | kind => kind.identifier

def label? : BlockKind → Option String
  | resource type _ | data type _ => some type
  | .variable name | output name | module name | provider name => some name
  | other _ [] => none
  | other _ labels => some (Text.joinWith "." labels)
  | _ => none

def typedKind? : BlockKind → Option String
  | resource _ _ => some "resource"
  | data _ _ => some "data"
  | _ => none

def name? : BlockKind → Option String
  | resource _ name | data _ name => some name
  | .variable name | output name | module name | provider name => some name
  | _ => none

/-- Whether a block can be made several times. -/
def isReplicable : BlockKind → Bool
  | resource _ _ | data _ _ | module _ => true
  | _ => false

/-- The path of a block within its module, without an instance key. -/
def address : BlockKind → String
  | resource type name => type ++ "." ++ name
  | data type name => "data." ++ type ++ "." ++ name
  | other identifier labels => Text.joinWith "." (identifier :: labels)
  | kind =>
    match kind.name? with
    | some name => kind.identifier ++ "." ++ name
    | none => kind.identifier

end BlockKind

end Terradoc
