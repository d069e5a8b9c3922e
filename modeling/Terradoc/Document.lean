import Terradoc.Block.Basic
import Terradoc.Value.Projection

namespace Terradoc

/-- JSON objects of blocks by type, in the order in which types first occur. -/
abbrev Document := Entries (List Json)

/-- Where a block is written, as members. -/
def SourceRange.members (source : SourceRange) : Entries Json := [
  ("filename", .string source.filename), ("line_start", .ofNat source.lines.start),
  ("line_end", .ofNat source.lines.stop)]

/-- A text as a member that is left out when there is none. -/
def optionalMember (key : String) (text : Option String) : Entries Json :=
  (text.map fun text => (key, Json.string text)).toList

def attributeMembers (attributes : Entries Value) : Entries Json :=
  attributes.map fun (key, value) => (key, value.toAttributeJson)

/-- Puts objects into lists by their identifiers, in the order in which these first occur. -/
def groupByKey {α : Type} (items : List (String × α)) : Entries (List α) :=
  items.foldl (fun groups item => Entries.alter groups item.1 [] (· ++ [item.2])) []

/-- A single object stands by itself, several stand in an array. -/
def oneOrMany : List Json → Json
  | [single] => single
  | items => .array items

/-- Adds the objects of nested blocks, in the place of attributes of the same name. -/
def addNested (members : Entries Json) (nested : List (String × Json)) : Entries Json :=
  Entries.insertAll members ((groupByKey nested).map fun (key, items) => (key, oneOrMany items))

/-- The member under which a block tells about itself. -/
def metaKey : String := "__tfmeta"

/-- Adds the id and what a block tells about itself. -/
def addIdentity (members : Entries Json) (id : BlockId) (about : Entries Json) : Json :=
  .object (Entries.insertAll members [("id", .string id.text), (metaKey, .object about)])

mutual
def NestedBlock.toJson : NestedBlock BlockId → Json
  | .mk _ labels source attributes blocks id =>
    let label := if labels.isEmpty then none else some (Text.joinWith "." labels)
    addIdentity (addNested (attributeMembers attributes) (nestedToJson blocks)) id
      (source.members ++ optionalMember "label" label)

def nestedToJson : List (NestedBlock BlockId) → List (String × Json)
  | [] => []
  | block :: rest => (block.identifier, block.toJson) :: nestedToJson rest
end

def Reference.toJson (reference : Reference) : Json :=
  .object [("id", .string reference.id.text), ("label", .string reference.label),
    ("name", .string reference.name)]

/-- What a block tells about itself. -/
def Block.metaMembers (block : Block) : Entries Json :=
  block.source.members ++ optionalMember "label" block.kind.label? ++
    [("path", .string block.path)] ++ optionalMember "type" block.kind.typedKind? ++
    if block.references.isEmpty then []
    else [("references", .array (block.references.map Reference.toJson))]

def Block.toJson (block : Block) : Json :=
  addIdentity (addNested (attributeMembers block.attributes) (nestedToJson block.blocks)) block.id
    block.metaMembers

namespace Document

/-- The document of blocks: resources and data sources under their types, other blocks under their
identifiers. -/
def ofBlocks (blocks : List Block) : Document :=
  groupByKey (blocks.map fun block => (block.kind.typeKey, block.toJson))

def types (document : Document) : List String := document.map Prod.fst

/-- A document without the types that are not wanted. -/
def keep (document : Document) (wanted : String → Bool) : Document :=
  List.filter (fun group => wanted group.1) document

def size (document : Document) : Nat := (document.flatMap Prod.snd).length

def toJson (document : Document) : Json :=
  .object (document.map fun (type, blocks) => (type, .array blocks))

end Document

end Terradoc
