import Terradoc.Proofs.Replication.Instances
import Terradoc.Proofs.Session.Tolerance
import Terradoc.Proofs.Targets.Body
import Terradoc.Value.Identity

/-! The nested blocks of a body: those that are written in it and those that its dynamic blocks make, each
in its place and with its lines. -/

namespace Terradoc

/-- Lines of blocks that have the shape of a body: an entry for each block, with the lines inside of it. -/
inductive SameShape : List SpanTree → Body → Prop where
  | nil : SameShape [] []
  | «attribute» {spans : List SpanTree} {rest : Body} (name : String) (value : Expr)
    (later : SameShape spans rest) : SameShape spans (.attribute name value :: rest)
  | block {span : SpanTree} {spans : List SpanTree} {body rest : Body} (identifier : String)
    (labels : List String) (lines : LineRange) (inside : SameShape span.children body)
    (later : SameShape spans rest) :
    SameShape (span :: spans) (.block identifier labels lines body :: rest)

theorem SameShape.length_eq {spans : List SpanTree} {body : Body} (shape : SameShape spans body) :
    spans.length = body.blocks.length := by
  induction shape with
  | nil => rfl
  | «attribute» _ _ _ ih => exact ih
  | block _ _ _ _ _ _ ih => exact congrArg (· + 1) ih

theorem sameShape_spans : ∀ body : Body, SameShape body.spans body
  | [] => by
    rw [Body.spans]
    exact .nil
  | .attribute name value :: rest => by
    rw [Body.spans]
    exact .attribute name value (sameShape_spans rest)
  | .block identifier labels lines body :: rest => by
    rw [Body.spans]
    exact .block identifier labels lines (sameShape_spans body) (sameShape_spans rest)
termination_by body => sizeOf body

/-- What is read of a file has lines of its shape. -/
theorem SourceFile.sameShape {text filename : String} {source : SourceFile}
    (read : SourceFile.parse? text filename = some source) :
    ∀ block ∈ source.blocks, SameShape block.spans.children block.body := by
  obtain ⟨body, -, rfl⟩ := Option.map_eq_some_iff.mp read
  intro block member
  obtain ⟨outcome, among, made⟩ := List.mem_filterMap.mp member
  obtain ⟨part, -, rfl⟩ := List.mem_map.mp among
  unfold classify at made
  split at made
  · cases made
    exact sameShape_spans part.body
  · cases made

/-- The entries of a collection that a dynamic block goes over: those of a list by position, those of a map
by ascending key. -/
inductive GoesOver : Value → List (Value × Value) → Prop where
  | list (items : List Value) :
    GoesOver (.list items) (items.zipIdx.map fun (item, index) => (.ofNat index, item))
  | map {fields sorted : Entries Value} (order : sorted.Perm fields)
    (ascending : sorted.Pairwise fun left right => left.1 ≤ right.1) :
    GoesOver (.map fields) (sorted.map fun (key, item) => (.string key, item))

/-- Why a dynamic block makes no blocks: it lacks a label, a source or a content, or its source fails or is
no collection. -/
inductive Barren (env : Environment) (labels : List String) (body : Body) : Prop where
  | unlabeled (absent : labels = [])
  | sourceless (absent : body.attribute? "for_each" = none)
  | empty (absent : ∀ part ∈ body.blocks, part.identifier ≠ "content")
  | failing {source : Expr} {cause : EvalError} (given : body.attribute? "for_each" = some source)
    (failed : source.eval env = .error cause)
  | uncountable {source : Expr} {value : Value} (given : body.attribute? "for_each" = some source)
    (evaluated : source.eval env = .ok value) (scalar : ∀ entries, ¬ GoesOver value entries)

/-- What an attribute of a body gives: its value, or an unknown at its own address where it has none. Arguments
that hold addresses give these as they are written. -/
inductive Attribute.Gives (context : BodyContext) (env : Environment) : Attribute → Value → Prop where
  | addresses {attr : Attribute} (held : attr.name ∈ addressArguments) :
    Gives context env attr attr.value.addresses
  | evaluated {attr : Attribute} {value : Value} (free : attr.name ∉ addressArguments)
    (found : attr.value.eval env = .ok value) : Gives context env attr value
  | failing {attr : Attribute} {cause : EvalError} (free : attr.name ∉ addressArguments)
    (failed : attr.value.eval env = .error cause) :
    Gives context env attr (.unknown ⟨context.address ++ "." ++ attr.name, attr.name, none, none⟩)

/-- Attributes by name, with what each of them gives. -/
inductive Assigns (context : BodyContext) (env : Environment) (attributes : List Attribute) :
    Entries Value → Prop where
  | rows (rows : List (Attribute × Value)) (written : rows.map Prod.fst = attributes)
    (each : ∀ row ∈ rows, row.1.Gives context env row.2) :
    Assigns context env attributes (Entries.ofList (rows.map fun row => (row.1.name, row.2)))

/-- What a dynamic block calls its current entry: as it says itself, and like its label if it says nothing. -/
inductive Iterates (label : String) (body : Body) : String → Prop where
  | unnamed (absent : body.attribute? "iterator" = none) : Iterates label body label
  | named {name : String} (given : body.attribute? "iterator" = some (.variable name)) :
    Iterates label body name
  | rendered {expr : Expr} (given : body.attribute? "iterator" = some expr)
    (other : ∀ name, expr ≠ .variable name) : Iterates label body expr.render

/-- The labels that a dynamic block gives: the items of a list, as far as they have a text. -/
inductive Labels (env : Environment) (body : Body) : List String → Prop where
  | unlabeled (absent : body.attribute? "labels" = none) : Labels env body []
  | listed {source : Expr} {items : List Value} (given : body.attribute? "labels" = some source)
    (evaluated : source.eval env = .ok (.list items)) : Labels env body (items.filterMap labelText?)
  | scalar {source : Expr} {value : Value} (given : body.attribute? "labels" = some source)
    (evaluated : source.eval env = .ok value) (scalar : ∀ items, value ≠ .list items) : Labels env body []
  | failing {source : Expr} {cause : EvalError} (given : body.attribute? "labels" = some source)
    (failed : source.eval env = .error cause) : Labels env body []

mutual
/-- The nested blocks of a body are the blocks that its parts make, in the order in which these are written.
Parts and lines are paired in order. -/
inductive Expands (context : BodyContext) :
    Environment → List SpanTree → Body → List (NestedBlock Unit) → Prop where
  | parts {env : Environment} {spans : List SpanTree} {body : Body}
    (rows : List ((NestedSource × SpanTree) × List (NestedBlock Unit)))
    (written : rows.map Prod.fst = body.blocks.zip spans)
    (each : ∀ row ∈ rows, Makes context env row.1.1 row.1.2 row.2) :
    Expands context env spans body (rows.flatMap Prod.snd)

/-- The blocks that one part of a body makes: itself, or one for each entry that a dynamic block goes over,
out of its first content, with the iterator bound to the entry. -/
inductive Makes (context : BodyContext) :
    Environment → NestedSource → SpanTree → List (NestedBlock Unit) → Prop where
  | written {env : Environment} {source : NestedSource} {span : SpanTree} {attributes : Entries Value}
    {inside : List (NestedBlock Unit)} (plain : source.identifier ≠ "dynamic")
    (assigned : Assigns context env source.body.attributes attributes)
    (inner : Expands context env span.children source.body inside) :
    Makes context env source span
      [.mk source.identifier source.labels ⟨context.filename, span.lines⟩ attributes inside ()]
  | barren {env : Environment} {source : NestedSource} {span : SpanTree}
    (dynamic : source.identifier = "dynamic") (skipped : Barren env source.labels source.body) :
    Makes context env source span []
  | turned {env : Environment} {source content : NestedSource} {span lines : SpanTree}
    {label iterator : String} {collection : Expr} {value : Value} (dynamic : source.identifier = "dynamic")
    (labeled : source.labels.head? = some label)
    (given : source.body.attribute? "for_each" = some collection)
    (found : (source.body.blocks.zip span.children).find? (·.1.identifier == "content") =
      some (content, lines))
    (evaluated : collection.eval env = .ok value) (iterates : Iterates label source.body iterator)
    (rows : List ((Value × Value) × NestedBlock Unit)) (entries : GoesOver value (rows.map Prod.fst))
    (each : ∀ row ∈ rows, Turns context
      (env.bind iterator (.map [("key", row.1.1), ("value", row.1.2)])) label source.body content lines row.2) :
    Makes context env source span (rows.map Prod.snd)

/-- The block that a dynamic block makes out of its content and the lines of it, for one entry. -/
inductive Turns (context : BodyContext) :
    Environment → String → Body → NestedSource → SpanTree → NestedBlock Unit → Prop where
  | block {env : Environment} {label : String} {body : Body} {content : NestedSource} {lines : SpanTree}
    {labels : List String} {attributes : Entries Value} {inside : List (NestedBlock Unit)}
    (labeled : Labels env body labels) (assigned : Assigns context env content.body.attributes attributes)
    (inner : Expands context env lines.children content.body inside) :
    Turns context env label body content lines
      (.mk label labels ⟨context.filename, lines.lines⟩ attributes inside ())
end

section Values

variable (context : BodyContext) (env : Environment) (label : String) (body : Body)

theorem evaluateAttribute_gives (attr : Attribute) :
    attr.Gives context env (evaluateAttribute context env attr).value := by
  unfold evaluateAttribute
  split
  · rename_i held
    exact .addresses (List.contains_iff_mem.mp held)
  · rename_i free
    have outside : attr.name ∉ addressArguments := fun held => free (List.contains_iff_mem.mpr held)
    split
    · exact .evaluated outside ‹_›
    · exact .failing outside ‹_›

theorem evaluateAttributes_assigns (attributes : List Attribute) :
    Assigns context env attributes (evaluateAttributes context env attributes).value := by
  let rows := attributes.map fun attr => (attr, (evaluateAttribute context env attr).value)
  have written : rows.map Prod.fst = attributes := by
    rw [List.map_map]
    exact List.map_id attributes
  have each : ∀ row ∈ rows, row.1.Gives context env row.2 := by
    intro row member
    obtain ⟨attr, -, rfl⟩ := List.mem_map.mp member
    exact evaluateAttribute_gives context env attr
  have assigned := Assigns.rows rows written each
  rw [evaluateAttributes, List.map_map]
  rwa [List.map_map] at assigned

theorem iteratorName_iterates : Iterates label body (iteratorName label body) := by
  unfold iteratorName
  split
  · exact .named ‹_›
  · rename_i other given
    exact .rendered given other
  · exact .unnamed ‹_›

theorem turnLabels_labels : Labels env body (turnLabels context env label body).value := by
  unfold turnLabels
  split
  · exact .unlabeled ‹_›
  · rename_i given
    split
    · exact .listed given ‹_›
    · rename_i scalar evaluated
      exact .scalar given evaluated scalar
    · exact .failing given ‹_›

end Values

section Positions

variable {spans : SpanTree} {position : Nat} {first : SpanTree} {later : List SpanTree}

/-- What is found at a position is the first of what is left there. -/
theorem SpanTree.child_of_drop (left : spans.children.drop position = first :: later) :
    spans.child position = first ∧ spans.children.drop (position + 1) = later := by
  have here := congrArg List.head? left
  rw [List.head?_drop] at here
  refine ⟨by rw [SpanTree.child, here]; rfl, ?_⟩
  rw [← List.tail_drop, left, List.tail_cons]

/-- The first of some blocks that are paired with lines. -/
theorem exists_zip_find? {blocks : List NestedSource} {wanted : NestedSource → Bool} {block : NestedSource}
    (found : blocks.find? wanted = some block) {lines : List SpanTree}
    (count : lines.length = blocks.length) :
    ∃ span, (blocks.zip lines).find? (wanted ·.1) = some (block, span) := by
  induction blocks generalizing lines with
  | nil => cases found
  | cons other rest ih =>
    cases lines with
    | nil => cases count
    | cons span lines =>
      rw [List.find?_cons] at found
      rw [List.zip_cons_cons, List.find?_cons]
      dsimp only
      split at found
      · cases found
        exact ⟨span, rfl⟩
      · exact ih found (Nat.succ.inj count)

end Positions

section Turns

variable {context : BodyContext} {env : Environment}

/-- A value has entries to go over just where it is a list or a map. -/
theorem dynamicEntries_cases (value : Value) :
    (∃ entries, dynamicEntries value = .ok entries ∧ GoesOver value entries) ∨
    (∀ entries, ¬ GoesOver value entries) ∧
      (dynamicEntries value = .ok [] ∨ ∃ cause, dynamicEntries value = .error cause) := by
  cases value with
  | list items => exact .inl ⟨_, rfl, .list items⟩
  | map fields =>
    exact .inl ⟨_, rfl, .map (List.mergeSort_perm _ _) ((sorted_byKey fields).imp String.not_lt.mp)⟩
  | null => exact .inr ⟨fun _ => nofun, .inl rfl⟩
  | unknown marker => exact .inr ⟨fun _ => nofun, .inl rfl⟩
  | bool value => exact .inr ⟨fun _ => nofun, .inr ⟨_, rfl⟩⟩
  | number value => exact .inr ⟨fun _ => nofun, .inr ⟨_, rfl⟩⟩
  | string value => exact .inr ⟨fun _ => nofun, .inr ⟨_, rfl⟩⟩

/-- A dynamic block takes the first content block of its body, once a turn. -/
theorem evaluateContent_value (label : String) (turns : List Turn) {body : Body} {spans span : SpanTree}
    {position : Nat} {content : NestedSource}
    (found : (body.blocks.zip (spans.children.drop position)).find? (·.1.identifier == "content") =
      some (content, span)) :
    (evaluateContent context label turns spans position body).value = turns.map fun turn =>
      .mk label turn.labels.value ⟨context.filename, span.lines⟩
        (evaluateAttributes context turn.env content.body.attributes).value
        (evaluateBlocks context turn.env span 0 content.body).value () := by
  induction body generalizing position with
  | nil => cases found
  | cons part rest ih =>
    cases part with
    | «attribute» name value =>
      rw [evaluateContent]
      exact ih found
    | block identifier labels lines inside =>
      rw [evaluateContent]
      cases left : spans.children.drop position with
      | nil =>
        rw [left, List.zip_nil_right] at found
        cases found
      | cons first later =>
        obtain ⟨here, after⟩ := SpanTree.child_of_drop left
        rw [left, Body.blocks, List.filterMap_cons, List.zip_cons_cons, List.find?_cons] at found
        dsimp only at found
        split at found
        · rename_i same
          cases found
          rw [if_pos same, here, Noted.concat]
          dsimp only
          rw [List.flatMap_map, List.map_eq_flatMap]
          rfl
        · rename_i differ
          rw [if_neg (by simpa using differ)]
          exact ih (after ▸ found)

/-- Without turns, a dynamic block makes nothing. -/
theorem evaluateContent_nil (label : String) (spans : SpanTree) (position : Nat) (body : Body) :
    (evaluateContent context label [] spans position body).value = [] := by
  induction body generalizing position with
  | nil => rw [evaluateContent]; rfl
  | cons part rest ih =>
    cases part with
    | «attribute» name value => rw [evaluateContent, ih]
    | block identifier labels lines inside =>
      rw [evaluateContent]
      split
      · rfl
      · exact ih (position + 1)

/-- A dynamic block has no turns, or one for each entry of its collection. -/
theorem barren_or_turns (label : String) (labels : List String) (body : Body) :
    (Barren env (label :: labels) body ∧
      ∀ turns, dynamicTurns context env label body = .ok turns → turns = []) ∨
    ∃ collection content value entries, body.attribute? "for_each" = some collection ∧
      body.blocks.find? (·.identifier == "content") = some content ∧ collection.eval env = .ok value ∧
      GoesOver value entries ∧
      dynamicTurns context env label body = .ok (entries.map (Turn.ofEntry context env label body)) := by
  unfold dynamicTurns
  rw [Body.hasBlock, ← List.isSome_find?]
  cases given : body.attribute? "for_each" with
  | none => exact .inl ⟨.sourceless given, nofun⟩
  | some collection =>
    cases found : body.blocks.find? (·.identifier == "content") with
    | none =>
      refine .inl ⟨.empty fun part member same => ?_, nofun⟩
      exact List.find?_eq_none.mp found part member (beq_iff_eq.mpr same)
    | some content =>
      dsimp only [Option.isSome_some, Bind.bind, Except.bind]
      cases evaluated : collection.eval env with
      | error cause => exact .inl ⟨.failing given evaluated, nofun⟩
      | ok value =>
        dsimp only
        obtain ⟨entries, listed, counted⟩ | ⟨scalar, listed | ⟨cause, listed⟩⟩ := dynamicEntries_cases value
        · rw [listed]
          exact .inr ⟨collection, content, value, entries, rfl, rfl, evaluated, counted, rfl⟩
        · rw [listed]
          exact .inl ⟨.uncountable given evaluated scalar, fun turns same => (Except.ok.inj same).symm⟩
        · rw [listed]
          exact .inl ⟨.uncountable given evaluated scalar, nofun⟩

end Turns

section Expansion

variable {context : BodyContext} {env : Environment} {body : Body} {spans : List SpanTree}

theorem Expands.of_blocks_eq {other : Body} {made : List (NestedBlock Unit)}
    (same : other.blocks = body.blocks) (expands : Expands context env spans body made) :
    Expands context env spans other made := by
  cases expands with
  | parts rows written each => exact .parts rows (same ▸ written) each

theorem Expands.cons {part : NestedSource} {span : SpanTree} {whole : Body}
    {made others : List (NestedBlock Unit)} (blocks : whole.blocks = part :: body.blocks)
    (first : Makes context env part span made) (later : Expands context env spans body others) :
    Expands context env (span :: spans) whole (made ++ others) := by
  cases later with
  | parts rows written each =>
    refine .parts (((part, span), made) :: rows) ?_ (List.forall_mem_cons.mpr ⟨first, each⟩)
    rw [List.map_cons, written, blocks, List.zip_cons_cons]

/-- A dynamic block makes what its turns give, or nothing where it has none. -/
theorem makes_of_dynamic {label : String} {labels : List String} {written : LineRange} {span : SpanTree}
    (count : span.children.length = body.blocks.length)
    (inner : ∀ row ∈ body.blocks.zip span.children, ∀ env,
      Expands context env row.2.children row.1.body (evaluateBlocks context env row.2 0 row.1.body).value) :
    Makes context env ⟨"dynamic", label :: labels, written, body⟩ span
      (match dynamicTurns context env label body with
      | .error _ => []
      | .ok turns => (evaluateContent context label turns span 0 body).value) := by
  obtain ⟨barren, none⟩ | ⟨collection, content, value, entries, given, found, evaluated, counted, turned⟩ :=
    barren_or_turns label labels body
  · split
    · exact .barren rfl barren
    · rename_i turns made
      rw [none turns made, evaluateContent_nil]
      exact .barren rfl barren
  · rw [turned]
    dsimp only
    obtain ⟨lines, placed⟩ := exists_zip_find? found count
    rw [evaluateContent_value label _ placed, List.map_map]
    let inside (entry : Value × Value) : Environment :=
      env.bind (iteratorName label body) (.map [("key", entry.1), ("value", entry.2)])
    let rows := entries.map fun entry => (entry, NestedBlock.mk label
      (turnLabels context (inside entry) label body).value ⟨context.filename, lines.lines⟩
      (evaluateAttributes context (inside entry) content.body.attributes).value
      (evaluateBlocks context (inside entry) lines 0 content.body).value ())
    have heads : rows.map Prod.fst = entries := by
      rw [List.map_map]
      exact List.map_id entries
    have each : ∀ row ∈ rows, Turns context (inside row.1) label body content lines row.2 := by
      intro row member
      obtain ⟨entry, _, rfl⟩ := List.mem_map.mp member
      exact .block (turnLabels_labels ..) (evaluateAttributes_assigns ..)
        (inner (content, lines) (List.mem_of_find?_eq_some placed) _)
    have made : Makes context env ⟨"dynamic", label :: labels, written, body⟩ span _ :=
      .turned rfl rfl given placed evaluated (iteratorName_iterates label body) rows (heads.symm ▸ counted)
        each
    rwa [List.map_map] at made

/-- A body expands in every environment, and so do the bodies of its blocks. -/
theorem SameShape.expands {children : List SpanTree} (shape : SameShape children body) :
    ∀ {spans : SpanTree} {position : Nat}, spans.children.drop position = children →
      (∀ env, Expands context env children body (evaluateBlocks context env spans position body).value) ∧
      ∀ row ∈ body.blocks.zip children, ∀ env,
        Expands context env row.2.children row.1.body (evaluateBlocks context env row.2 0 row.1.body).value := by
  induction shape with
  | nil =>
    intro spans position left
    refine ⟨fun env => ?_, fun _ => nofun⟩
    rw [evaluateBlocks]
    exact .parts [] rfl nofun
  | «attribute» name value later ih =>
    intro spans position left
    obtain ⟨whole, parts⟩ := ih left
    refine ⟨fun env => ?_, parts⟩
    rw [evaluateBlocks]
    exact (whole env).of_blocks_eq (by rfl)
  | @block span _ inner _ identifier labels lines inside later own ih =>
    intro spans position left
    obtain ⟨here, after⟩ := SpanTree.child_of_drop left
    obtain ⟨own, parts⟩ := @own span 0 rfl
    obtain ⟨whole, rows⟩ := ih after
    refine ⟨fun env => ?_, List.forall_mem_cons.mpr ⟨own, rows⟩⟩
    by_cases dynamic : identifier == "dynamic"
    · obtain rfl := beq_iff_eq.mp dynamic
      cases labels with
      | nil =>
        rw [evaluateBlocks, if_pos dynamic, Noted.concat_pair]
        exact (whole env).cons rfl (.barren rfl (.unlabeled rfl))
      | cons label labels =>
        rw [evaluateBlocks, if_pos dynamic, Noted.concat_pair, here]
        refine (whole env).cons rfl ?_
        have made : Makes context env ⟨"dynamic", label :: labels, lines, inner⟩ span _ :=
          makes_of_dynamic inside.length_eq parts
        split
        · rename_i failed
          rwa [failed] at made
        · rename_i turned
          rwa [turned] at made
    · rw [evaluateBlocks_plain dynamic, Noted.concat_pair, here]
      exact (whole env).cons rfl (.written (fun same => dynamic (beq_iff_eq.mpr same))
        (evaluateAttributes_assigns ..) (own env))

/-- A body always has a value where evaluation does not stop at errors. Its nested blocks are those that are
written in it and those that its dynamic blocks make, each in its place and with the lines that are given for
it, and so on inside of each. -/
theorem evaluateBody_expands {session : Session} (lenient : session.options.stopOnError = false)
    (context : BodyContext) (env : Environment) {body : Body} {spans : SpanTree}
    (shape : SameShape spans.children body) (state : RunState) :
    ∃ evaluated after,
      session.accept (evaluateBody context env body spans) state = .ok (evaluated, after) ∧
        Expands context env spans.children body evaluated.blocks := by
  rw [Session.accept_eq, lenient]
  exact ⟨(evaluateBody context env body spans).value, _, rfl,
    (@SameShape.expands context body spans.children shape spans 0 rfl).1 env⟩

/-- Lines that are not those of the body itself: a dynamic block gives those of its content, which is the second
block inside of it and shows the entry under the name of the iterator. -/
theorem evaluateBody_expands_of_dynamic :
    let root : Path := ⟨"/"⟩
    let session := Session.start ⟨.directory [], root, "/", root⟩ root Options.standard
    let env := session.environment (Scope.empty root root root)
    let context : BodyContext := ⟨"main.tf", "kind.name"⟩
    let rule : Body := [.block "note" [] ⟨3, 3⟩ [],
      .attribute "iterator" (.variable "entry"), .attribute "for_each" (.array [.string "a", .string "b"]),
      .block "content" [] ⟨5, 7⟩
        [.attribute "text" (.traversal (.variable "entry") [.attribute "value"])]]
    let body : Body := [.block "first" [] ⟨1, 1⟩ [], .block "dynamic" ["rule"] ⟨2, 8⟩ rule,
      .block "last" [] ⟨9, 9⟩ []]
    let inside : List SpanTree := [⟨⟨23, 23⟩, []⟩, ⟨⟨25, 27⟩, []⟩]
    let spans : SpanTree :=
      ⟨⟨20, 30⟩, [⟨⟨21, 21⟩, []⟩, ⟨⟨22, 28⟩, inside⟩, ⟨⟨29, 29⟩, []⟩]⟩
    session.options.stopOnError = false ∧ SameShape spans.children body ∧ ∃ evaluated after,
      session.accept (evaluateBody context env body spans) .start = .ok (evaluated, after) ∧
        Expands context env spans.children body evaluated.blocks ∧
        evaluated.blocks.map (fun block => (block.identifier, block.source.lines, block.attributes)) =
          [("first", ⟨21, 21⟩, []), ("rule", ⟨25, 27⟩, [("text", .string "a")]),
            ("rule", ⟨25, 27⟩, [("text", .string "b")]), ("last", ⟨29, 29⟩, [])] := by
  intro root session env context rule body inside spans
  have lenient : session.options.stopOnError = false := rfl
  have within : SameShape inside rule :=
    .block _ _ _ .nil (.attribute _ _ (.attribute _ _ (.block _ _ _ (.attribute _ _ .nil) .nil)))
  have shape : SameShape spans.children body :=
    .block _ _ _ .nil (.block _ _ _ within (.block _ _ _ .nil .nil))
  have lines : ((session.accept (evaluateBody context env body spans) .start).map fun (evaluated, _) =>
      evaluated.blocks.map fun block => (block.identifier, block.source.lines, block.attributes)).toOption =
        some [("first", ⟨21, 21⟩, []), ("rule", ⟨25, 27⟩, [("text", .string "a")]),
          ("rule", ⟨25, 27⟩, [("text", .string "b")]), ("last", ⟨29, 29⟩, [])] := by
    decide +kernel
  obtain ⟨evaluated, after, done, expands⟩ := evaluateBody_expands lenient context env shape .start
  rw [done] at lines
  exact ⟨lenient, shape, evaluated, after, done, expands, Option.some.inj lines⟩

end Expansion

end Terradoc
