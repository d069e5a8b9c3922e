import Terradoc.Block.Evaluation
import Terradoc.Proofs.Document.Grouping

/-! What the objects of a document show of their blocks. An object keeps two names for the id of its block and
for what the block tells about itself. Under all other names it shows the nested blocks, at every depth, and
the attributes. -/

namespace Terradoc

/-- The names under which an object tells the id of its block and what the block tells about itself. -/
def ownNames : List String := ["id", metaKey]

/-- What an object shows of a block: its attributes under their names, and under each identifier of nested
blocks the objects of these in order, one by itself and several in an array. No attribute or nested block is
shown under the names that the object keeps for itself, and nothing comes from elsewhere. -/
structure ShowsBody (attributes : Entries Value) (nested : List (String × Json)) (id : BlockId)
    (about : Entries Json) (object : Json) : Prop where
  ofAttribute : ∀ name value, name ∉ ownNames → name ∉ nested.map Prod.fst →
    Entries.get? attributes name = some value → object.member? name = some value.toAttributeJson
  ofNested : ∀ name ∈ nested.map Prod.fst, name ∉ ownNames →
    object.member? name = some (oneOrMany (Entries.under nested name))
  id : object.member? "id" = some (.string id.text)
  about : object.member? metaKey = some (.object about)
  nothingElse : ∀ name, name ∉ ownNames → name ∉ nested.map Prod.fst →
    Entries.get? attributes name = none → object.member? name = none

/-- An object shows a nested block, with objects in it that show the blocks inside, at every depth. -/
inductive NestedBlock.ShownBy : NestedBlock BlockId → Json → Prop where
  | mk {identifier : String} {labels : List String} {source : SourceRange} {attributes : Entries Value}
    {blocks : List (NestedBlock BlockId)} {id : BlockId} {objects : List Json} {object : Json}
    (inner : List.Forall₂ NestedBlock.ShownBy blocks objects)
    (shows : ShowsBody attributes ((blocks.map NestedBlock.identifier).zip objects) id
      (source.members ++ optionalMember "label"
        (if labels.isEmpty then none else some (Text.joinWith "." labels))) object) :
    NestedBlock.ShownBy (.mk identifier labels source attributes blocks id) object

/-- An object shows a block, with objects in it that show the blocks inside, at every depth. -/
def Block.ShownBy (block : Block) (object : Json) : Prop :=
  ∃ objects, List.Forall₂ NestedBlock.ShownBy block.blocks objects ∧
    ShowsBody block.attributes ((block.blocks.map NestedBlock.identifier).zip objects) block.id
      block.metaMembers object

theorem addressItems_of_references {items : List Expr}
    (references : ∀ item ∈ items, ∃ root steps, item = .traversal root steps) :
    Value.itemsToJson (addressItems items) = items.map fun item => .string item.render := by
  induction items with
  | nil => rfl
  | cons item rest ih =>
    obtain ⟨root, steps, rfl⟩ := references item List.mem_cons_self
    rw [addressItems, Value.itemsToJson, ih fun other member => references other (List.mem_cons_of_mem _ member)]
    rfl

/-- A list of references in an argument that holds addresses is shown as it is written, whatever they refer
to. -/
theorem toAttributeJson_of_addresses (context : BodyContext) (env : Environment) {name : String}
    (holds : addressArguments.contains name = true) {items : List Expr}
    (references : ∀ item ∈ items, ∃ root steps, item = .traversal root steps) :
    (evaluateAttribute context env ⟨name, .array items⟩).value.toAttributeJson =
      .ofStrings (items.map Expr.render) := by
  rw [evaluateAttribute, if_pos holds, Json.ofStrings, List.map_map]
  exact congrArg Json.array (addressItems_of_references references)

section Members

variable (attributes : Entries Value) (nested : List (String × Json)) (id : BlockId) (about : Entries Json)

theorem get?_attributeMembers (name : String) : Entries.get? (attributeMembers attributes) name =
    (Entries.get? attributes name).map Value.toAttributeJson :=
  Entries.get?_map Value.toAttributeJson attributes name

theorem get?_addNested (members : Entries Json) (name : String) :
    Entries.get? (addNested members nested) name =
      if name ∈ nested.map Prod.fst then some (oneOrMany (Entries.under nested name))
      else Entries.get? members name := by
  have added : addNested members nested = Entries.insertAll members (Entries.grouped oneOrMany nested) := by
    rw [addNested, groupByKey_eq_grouped, Entries.grouped, List.map_map]
    rfl
  have once := Entries.nodup_grouped oneOrMany nested
  rw [added, Entries.get?_insertAll, ← Entries.get?_of_perm (List.reverse_perm _).symm once,
    Entries.get?_grouped]
  split <;> rfl

theorem member?_addIdentity (members : Entries Json) (name : String) :
    (addIdentity members id about).member? name =
      if name = metaKey then some (.object about)
      else if name = "id" then some (.string id.text)
      else Entries.get? members name := by
  -- The two members come last, so that they replace what has their names.
  rw [addIdentity, Json.member?, Entries.get?_insertAll]
  by_cases own : name = metaKey
  · rw [own, if_pos rfl]
    rfl
  · rw [if_neg own]
    by_cases same : name = "id"
    · rw [same, if_pos rfl]
      rfl
    · rw [if_neg same]
      simp [own, same]

theorem shows_object :
    ShowsBody attributes nested id about
      (addIdentity (addNested (attributeMembers attributes) nested) id about) := by
  have free {name : String} (other : name ∉ ownNames) :
      (addIdentity (addNested (attributeMembers attributes) nested) id about).member? name =
        if name ∈ nested.map Prod.fst then some (oneOrMany (Entries.under nested name))
        else (Entries.get? attributes name).map Value.toAttributeJson := by
    obtain ⟨notId, notMeta⟩ : name ≠ "id" ∧ name ≠ metaKey := by simpa [ownNames] using other
    rw [member?_addIdentity, if_neg notMeta, if_neg notId, get?_addNested, get?_attributeMembers]
  exact {
    ofAttribute name value other apart found := by rw [free other, if_neg apart, found, Option.map_some]
    ofNested name present other := by rw [free other, if_pos present]
    id := by rw [member?_addIdentity, if_neg (by decide), if_pos rfl]
    about := by rw [member?_addIdentity, if_pos rfl]
    nothingElse name other apart absent := by rw [free other, if_neg apart, absent, Option.map_none] }

end Members

theorem nestedToJson_eq_map (blocks : List (NestedBlock BlockId)) :
    nestedToJson blocks = blocks.map fun block => (block.identifier, block.toJson) := by
  induction blocks with
  | nil => rw [nestedToJson, List.map_nil]
  | cons block rest ih => rw [nestedToJson, ih, List.map_cons]

theorem nestedToJson_eq_zip (blocks : List (NestedBlock BlockId)) :
    nestedToJson blocks = (blocks.map NestedBlock.identifier).zip (blocks.map NestedBlock.toJson) := by
  rw [nestedToJson_eq_map, List.zip_map']

mutual
theorem NestedBlock.toJson_shows : ∀ block : NestedBlock BlockId, block.ShownBy block.toJson
  | .mk _ _ _ attributes blocks id => by
    rw [NestedBlock.toJson]
    refine .mk (nestedToJson_shows blocks) ?_
    rw [← nestedToJson_eq_zip]
    exact shows_object attributes (nestedToJson blocks) id _

theorem nestedToJson_shows : ∀ blocks : List (NestedBlock BlockId),
    List.Forall₂ NestedBlock.ShownBy blocks (blocks.map NestedBlock.toJson)
  | [] => .nil
  | block :: rest => .cons block.toJson_shows (nestedToJson_shows rest)
end

theorem Block.toJson_shows (block : Block) : block.ShownBy block.toJson := by
  refine ⟨block.blocks.map NestedBlock.toJson, nestedToJson_shows block.blocks, ?_⟩
  rw [← nestedToJson_eq_zip]
  exact shows_object block.attributes (nestedToJson block.blocks) block.id block.metaMembers

/-- A document has a group for each type, whose objects show the blocks of the type in order. -/
theorem Document.ofBlocks_shows (blocks : List Block) :
    List.Forall₂ (fun type group => group.1 = type ∧
      List.Forall₂ Block.ShownBy (blocksOf blocks type) group.2) (typesOf blocks) (ofBlocks blocks) := by
  rw [ofBlocks_eq_map, List.forall₂_map_right_iff, List.forall₂_same]
  refine fun type _ => ⟨rfl, ?_⟩
  rw [List.forall₂_map_right_iff, List.forall₂_same]
  exact fun block _ => block.toJson_shows

/-- An attribute that is called as the id of its block is not shown. -/
theorem Document.ofBlocks_hides_id :
    let block : Block := {
      kind := .data "t" "d", path := "data.t.d", address := "data.t.d", key := none
      source := ⟨"main.tf", ⟨1, 3⟩⟩, attributes := [("id", .string "x")], blocks := [], references := []
      id := ⟨1⟩ }
    Entries.get? block.attributes "id" = some (.string "x") ∧
      "id" ∉ block.blocks.map NestedBlock.identifier ∧
      ∃ object, Entries.get? (Document.ofBlocks [block]) "t" = some [object] ∧
        object.member? "id" = some (.string block.id.text) ∧
        object.member? "id" ≠ some (Value.toAttributeJson (.string "x")) := by
  intro block
  have text : block.id.text ≠ "x" := by decide
  have told : block.toJson.member? "id" = some (.string block.id.text) := rfl
  refine ⟨rfl, nofun, block.toJson, rfl, told, ?_⟩
  rw [told]
  exact fun same => text (Json.string.inj (Option.some.inj same))

end Terradoc
