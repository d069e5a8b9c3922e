import Terradoc.Proofs.Eval.Steps
import Terradoc.Proofs.Replication.Instances
import Terradoc.Proofs.Settling.Shown
import Terradoc.Proofs.Targets.Body

namespace Terradoc

/-- What a reference to a block gives that leads from the value of the block by steps. -/
def resolveBlock (env : Environment) (key : String) (target : BlockTarget) (address : String)
    (steps : List Step) : Except EvalError Value :=
  match blockOrigin env.scope key target address 0 steps with
  | .whole value => .ok value
  | .part taken fallback value => walk env fallback taken value steps

section References

variable {env : Environment} {steps : List Step}

theorem eval_of_blockOrigin {root key address : String} {target : BlockTarget} (names : List Step)
    (unbound : Entries.get? env.bindings root = none)
    (origin : originOf env root (names ++ steps) =
      .ok (blockOrigin env.scope key target address names.length steps)) :
    (Expr.traversal (.variable root) (names ++ steps)).eval env =
      resolveBlock env key target address steps := by
  have skip (fallback : Fallback) (value : Value) : ∀ names : List Step,
      walk env fallback names.length value (names ++ steps) = walk env fallback 0 value steps := by
    intro names
    induction names with
    | nil => rfl
    | cons name rest ih => rw [List.length_cons, List.cons_append, walk_skip, ih]
  rw [Expr.eval, unbound]
  dsimp only
  rw [origin, resolveBlock]
  unfold blockOrigin
  split
  · rfl
  · dsimp only
    split
    · exact skip _ _ names
    · rfl

/-- A reference to a resource leads on from its value, unless its type is the name of something else. -/
theorem Expr.eval_resource {type name : String} (unbound : Entries.get? env.bindings type = none)
    (free : ∀ root ∈ "module" :: "data" :: reservedRoots, type ≠ root) :
    (Expr.traversal (.variable type) (.attribute name :: steps)).eval env =
      resolveBlock env (type ++ "." ++ name) (.resource type name)
        (traversalAddress type (.attribute name :: steps)) steps := by
  refine eval_of_blockOrigin [.attribute name] unbound ?_
  simp only [reservedRoots, List.forall_mem_cons] at free
  simp [originOf, free]

/-- A reference to a data source leads on from its value. -/
theorem Expr.eval_data {type name : String} (unbound : Entries.get? env.bindings "data" = none) :
    (Expr.traversal (.variable "data") (.attribute type :: .attribute name :: steps)).eval env =
      resolveBlock env ("data." ++ type ++ "." ++ name) (.data type name)
        (traversalAddress "data" (.attribute type :: .attribute name :: steps)) steps :=
  eval_of_blockOrigin [.attribute type, .attribute name] unbound rfl

end References

/-- The steps that lead to an instance of a block. -/
def keySteps : Option InstanceKey → List Step
  | none => []
  | some (.index position) => [.index (.number (.int position))]
  | some (.key name) => [.index (.string name)]

section Faultless

variable (left right : BodyContext) (env : Environment)

/-- Where a fault is reported does not matter to what has none. -/
theorem evaluateAttribute_faultless {attr : Attribute}
    (faultless : (evaluateAttribute left env attr).faults = []) :
    (evaluateAttribute right env attr).value = (evaluateAttribute left env attr).value := by
  unfold evaluateAttribute at faultless ⊢
  split
  · rfl
  · rename_i expression
    rw [if_neg expression] at faultless
    cases result : attr.value.eval env with
    | ok value => rfl
    | error cause =>
      rw [result] at faultless
      cases faultless

theorem get?_evaluateAttributes {attributes : List Attribute} {name : String}
    (faultless : ∀ attr ∈ attributes, attr.name = name →
      (evaluateAttribute left env attr).faults = []) :
    Entries.get? (evaluateAttributes right env attributes).value name =
      Entries.get? (evaluateAttributes left env attributes).value name := by
  have lookups : ∀ attributes : List Attribute, (∀ attr ∈ attributes, attr.name = name →
      (evaluateAttribute left env attr).faults = []) →
      Entries.get? (attributes.map fun attr => (attr.name, (evaluateAttribute right env attr).value))
          name =
        Entries.get? (attributes.map fun attr => (attr.name, (evaluateAttribute left env attr).value))
          name := by
    intro attributes
    induction attributes with
    | nil => exact fun _ => rfl
    | cons attr rest ih =>
      intro faultless
      rw [List.map_cons, List.map_cons, Entries.get?_cons, Entries.get?_cons,
        ih fun other member => faultless other (List.mem_cons_of_mem _ member)]
      split
      · rename_i same
        rw [evaluateAttribute_faultless left right env
          (faultless attr List.mem_cons_self (beq_iff_eq.mp same).symm)]
      · rfl
  simp only [evaluateAttributes, List.map_map, Entries.get?_ofList, ← List.map_reverse]
  exact lookups attributes.reverse fun attr member => faultless attr (List.mem_reverse.mp member)

theorem evaluateContent_identifiers {label : String} {body : Body} {first second : List Turn}
    (turns : first.length = second.length) (spans : SpanTree) (position : Nat) :
    (evaluateContent left label first spans position body).value.map NestedBlock.identifier =
      (evaluateContent right label second spans position body).value.map NestedBlock.identifier := by
  induction body generalizing position with
  | nil => rw [evaluateContent, evaluateContent]
  | cons part rest ih =>
    cases part with
    | «attribute» name value => rw [evaluateContent, evaluateContent, ih]
    | block identifier labels lines content =>
      have made (context : BodyContext) (turns : List Turn) (span : SpanTree) :
          (Noted.concat (turns.map fun turn =>
            nestedBlock label turn.labels ⟨context.filename, span.lines⟩
              (evaluateAttributes context turn.env (Body.attributes content))
              (evaluateBlocks context turn.env span 0 content))).value.map NestedBlock.identifier =
            List.replicate turns.length label := by
        induction turns with
        | nil => rfl
        | cons turn turns ih => exact congrArg (label :: ·) ih
      rw [evaluateContent, evaluateContent]
      split
      · rw [made, made, turns]
      · exact ih (position + 1)

/-- The same turns are made wherever faults are reported. -/
theorem dynamicTurns_cases (label : String) (body : Body) :
    (∃ cause, dynamicTurns left env label body = .error cause ∧
      dynamicTurns right env label body = .error cause) ∨
    ∃ first second, dynamicTurns left env label body = .ok first ∧
      dynamicTurns right env label body = .ok second ∧ first.length = second.length := by
  unfold dynamicTurns
  split
  · rename_i source _ _
    cases source.eval env >>= dynamicEntries with
    | error cause => exact .inl ⟨_, rfl, rfl⟩
    | ok entries => exact .inr ⟨_, _, rfl, rfl, by rw [List.length_map, List.length_map]⟩
  · exact .inl ⟨_, rfl, rfl⟩

/-- The same nested blocks are made wherever faults are reported. -/
theorem evaluateBlocks_identifiers (body : Body) (spans : SpanTree) (position : Nat) :
    (evaluateBlocks left env spans position body).value.map NestedBlock.identifier =
      (evaluateBlocks right env spans position body).value.map NestedBlock.identifier := by
  induction body generalizing position with
  | nil => rw [evaluateBlocks, evaluateBlocks]
  | cons part rest ih =>
    cases part with
    | «attribute» name value => rw [evaluateBlocks, evaluateBlocks, ih]
    | block identifier labels lines body =>
      by_cases dynamic : identifier == "dynamic"
      · cases labels with
        | nil =>
          rw [evaluateBlocks, evaluateBlocks, if_pos dynamic, if_pos dynamic, Noted.concat_pair, Noted.concat_pair]
          exact ih (position + 1)
        | cons label labels =>
          rw [evaluateBlocks, evaluateBlocks, if_pos dynamic, if_pos dynamic, Noted.concat_pair, Noted.concat_pair,
            List.map_append, List.map_append, ih]
          refine congrArg (· ++ _) ?_
          obtain ⟨cause, first, second⟩ | ⟨earlier, later, first, second, lengths⟩ :=
            dynamicTurns_cases left right env label body
          · rw [first, second]
            rfl
          · rw [first, second]
            exact evaluateContent_identifiers left right lengths (spans.child position) 0
      · rw [evaluateBlocks_plain dynamic, evaluateBlocks_plain dynamic, Noted.concat_pair, Noted.concat_pair,
          List.map_append, List.map_append, ih]
        rfl

end Faultless

/-- An attribute that is no nested block is kept when the nested blocks are put under it. -/
theorem get?_withBlocks {ι : Type} {object : Entries Value} {blocks : List (NestedBlock ι)}
    {name : String} (absent : name ∉ blocks.map NestedBlock.identifier) :
    Entries.get? (withBlocks object blocks) name = Entries.get? object name := by
  induction blocks generalizing object with
  | nil => rw [withBlocks]
  | cons block rest ih =>
    rw [List.map_cons, List.mem_cons, not_or] at absent
    have differ : (name == block.identifier) = false := beq_eq_false_iff_ne.mpr absent.1
    rw [withBlocks, ih absent.2]
    unfold pushUnder
    split
    · rw [Entries.get?_insert, if_neg (by simp [differ])]
    · rw [Entries.get?_insert, if_neg (by simp [differ])]
    · rfl

section Walking

variable (env : Environment) (fallback : Fallback) (rest : List Step)

/-- An index leads to the item of a list. -/
theorem walk_index {items : List Value} {index : Nat} {item : Value}
    (bounded : (index : Int) ≤ Number.maxWord) (found : items[index]? = some item) :
    walk env fallback 0 (.list items) (.index (.number (.int index)) :: rest) =
      walk env fallback 0 item rest := by
  have position : (Value.number (.int index)).position? = some (index : Int) := by
    change (some (Number.clampWord index)).or _ = _
    rw [Number.clampWord_ofNat bounded]
    rfl
  have step : (Value.list items).item fallback (.number (.int index)) = .ok item :=
    Value.item_list position found fallback
  rw [walk_step env fallback rfl (by simp), Step.apply, Expr.eval]
  change (Value.list items).item fallback (.number (.int index)) >>= _ = _
  rw [step]
  rfl

/-- A key leads to the value of a map. -/
theorem walk_key {entries : Entries Value} {key : String} {value : Value}
    (found : Entries.get? entries key = some value) :
    walk env fallback 0 (.map entries) (.index (.string key) :: rest) =
      walk env fallback 0 value rest := by
  have step : (Value.map entries).item fallback (.string key) = .ok value :=
    Value.item_map rfl found fallback
  rw [walk_step env fallback rfl (by simp), Step.apply, Expr.eval]
  change (Value.map entries).item fallback (.string key) >>= _ = _
  rw [step]
  rfl

/-- The key of an instance leads to its value among those of all instances. -/
theorem walk_keySteps {all : List Instance} (replicated : Replicated all) (value : Instance → Value)
    {inst : Instance} (member : inst ∈ all) :
    walk env fallback 0 (collectInstances (all.map fun inst => (inst.key, value inst)))
        (keySteps inst.key ++ rest) =
      walk env fallback 0 (value inst) rest := by
  cases replicated with
  | single only unkeyed =>
    obtain rfl := List.mem_singleton.mp member
    rw [List.map_singleton, unkeyed]
    rfl
  | counted count bounded =>
    obtain ⟨index, below, rfl⟩ := List.mem_map.mp member
    have small : (index : Int) ≤ Number.maxWord :=
      le_trans (Int.ofNat_le.mpr (List.mem_range.mp below).le) bounded
    have collected : collectInstances (((List.range count).map Instance.indexed).map fun inst =>
        (inst.key, value inst)) = .list ((List.range count).map fun index => value (.indexed index)) := by
      rw [List.map_map]
      cases count with
      | zero => rfl
      | succ count => simp [List.range_succ_eq_map, collectInstances, Instance.indexed]
    rw [collected]
    refine walk_index env fallback rest small ?_
    rw [List.getElem?_map, List.getElem?_range (List.mem_range.mp below)]
    rfl
  | keyed entries ascending =>
    obtain ⟨entry, present, rfl⟩ := List.mem_map.mp member
    have collected : collectInstances ((entries.map Instance.keyed).map fun inst =>
        (inst.key, value inst)) =
          .map (Entries.ofList (entries.map fun entry => (entry.1, value (.keyed entry)))) := by
      rw [List.map_map]
      cases entries with
      | nil => cases present
      | cons first others =>
        simp only [List.map_cons, Function.comp_apply, Instance.keyed, collectInstances,
          List.filterMap_cons, List.filterMap_map]
        refine congrArg (fun others => Value.map (Entries.ofList (_ :: others))) ?_
        exact congrFun (List.filterMap_eq_map (f := fun entry : String × Value =>
          (entry.1, value (.keyed entry)))) others
    rw [collected]
    have distinct : (entries.map Prod.fst).Nodup := by
      rw [List.Nodup, List.pairwise_map]
      refine ascending.imp fun {left right} below same => ?_
      exact String.lt_irrefl right.1 (same ▸ below)
    exact walk_key env fallback rest (Entries.get?_ofList_map distinct present)

end Walking

section Shown

variable {session : Session} {scope : Scope} {source : SourceBlock} {inst : Instance} {shown : Block}

/-- An attribute that a block is written with, and that has a value in an instance of it. -/
structure Evaluates (session : Session) (scope : Scope) (source : SourceBlock) (inst : Instance)
    (shown : Block) (name : String) : Prop where
  written : ∃ attr ∈ source.body.attributes, attr.name = name
  faultless : ∀ attr ∈ source.body.attributes, attr.name = name →
    (evaluateAttribute ⟨source.filename, shown.path⟩
      (inst.environment (session.environment scope)) attr).faults = []

/-- An attribute that has a value is among those that are shown. -/
theorem Shows.get? {call : ModuleCall} (shows : Shows session call scope source inst shown)
    {name : String} (evaluates : Evaluates session scope source inst shown name) :
    (Entries.get? shown.attributes name).isSome := by
  obtain ⟨attr, member, rfl⟩ := evaluates.written
  rw [shows.attributes, evaluateAttributes, Entries.get?_ofList]
  rw [List.map_map]
  exact Entries.get?_isSome_of_mem (List.mem_reverse.mpr (List.mem_map.mpr ⟨attr, member, rfl⟩))

/-- What is shown of an attribute that has a value is in the value of the instance. -/
theorem Shows.walk_attribute {call : ModuleCall} (shows : Shows session call scope source inst shown)
    {name : String} (evaluates : Evaluates session scope source inst shown name)
    (plain : name ∉ shown.blocks.map NestedBlock.identifier) {value : Value}
    (found : Entries.get? shown.attributes name = some value) (env : Environment)
    (fallback : Fallback) :
    walk env fallback 0 (resourceValue (inst.environment (session.environment scope)) source)
      [.attribute name] = .ok value := by
  have kept : Entries.get? (withBlocks
      (evaluateAttributes ⟨source.filename, source.address⟩
        (inst.environment (session.environment scope)) source.body.attributes).value
      (evaluateBlocks ⟨source.filename, source.address⟩
        (inst.environment (session.environment scope)) source.spans 0 source.body).value) name =
          some value := by
    rw [get?_withBlocks]
    · rw [get?_evaluateAttributes ⟨source.filename, shown.path⟩ _ _ evaluates.faultless,
        ← shows.attributes, found]
    · rwa [evaluateBlocks_identifiers _ ⟨source.filename, shown.path⟩, ← shows.identifiers]
  rw [walk_step env fallback rfl (by simp), Step.apply, resourceValue, evaluateBody,
    EvaluatedBody.value, Value.attribute, kept]
  exact walk_nil env fallback 0 value

end Shown

/-- An instance of a block as it is shown, with the values that references to its attributes have. -/
structure ShowsWhatIsRead (session : Session) (call : ModuleCall) (scope : Scope)
    (source : SourceBlock) (inst : Instance) (shown : Block) : Prop where
  key : shown.key = inst.key
  path : shown.path = call.lead ++ source.address ++ keySuffix inst.key
  read : ∀ name, Evaluates session scope source inst shown name →
    name ∉ shown.blocks.map NestedBlock.identifier →
    ∃ value, Entries.get? shown.attributes name = some value ∧
      ∀ env : Environment, env.scope = scope → ∀ target address,
        resolveBlock env source.address target address (keySteps inst.key ++ [.attribute name]) =
          .ok value

section Runs

variable {session : Session} {run : Runner} {stack : List Path} {call : ModuleCall}
  {before rest : List SourceBlock} {block : SourceBlock}

/-- In a module whose scope no further pass changes, each instance of a resource or data source shows
its attributes with the values that references to them have. -/
theorem evaluateModule_shows_what_is_read (typed : block.kind.typedKind?.isSome)
    (alone : ∀ other ∈ before ++ rest, other.address ≠ block.address)
    {state settled after : RunState} {declarations : List VariableDeclaration} {final : Scope}
    {children : Children} {result : ModuleRun}
    (settles : settleModule session run stack call (before ++ block :: rest) state =
      .ok ((declarations, final, children), settled))
    (fixed : ∃ known start kept finish,
      settlePass session run stack call (before ++ block :: rest) final known start =
        .ok ((final, kept), finish))
    (done : evaluateModule session run stack call (before ++ block :: rest) state =
      .ok (result, after)) :
    ∃ own, result.blocks = own ++ children.blocks ∧
      List.Forall₂ (ShowsWhatIsRead session call final block)
        (instancesOrSingle (session.environment final) block.body)
        (own.filter (·.address == block.address)) := by
  obtain ⟨_, _, _, _, made, same, makes, rfl⟩ := (evaluateModule_eq_ok ..).mp done
  rw [settles] at same
  cases same
  obtain ⟨replicable, resource⟩ := BlockKind.of_typed typed
  obtain ⟨known, start, kept, finish, fixed⟩ := fixed
  have value := get?_settlePass session run stack call replicable resource alone fixed
  rw [blockScope_of_fixed _ _ _ _ _ fixed] at value
  have declared : final.declared.contains block.address = true := by
    rw [settleModule_declared _ _ _ _ _ settles, List.contains_iff_mem]
    exact List.mem_map.mpr ⟨block, List.mem_filter.mpr
      ⟨List.mem_append_right _ List.mem_cons_self, replicable⟩, rfl⟩
  have replicated := instancesOrSingle_replicated (session.environment final) block.body
  have rows := linkBlocks_shows replicable alone makes
  refine ⟨_, rfl, ((List.forall₂_and_left _ _).mpr ⟨fun _ member => member, rows⟩).imp ?_⟩
  rintro inst shown ⟨member, shows⟩
  refine ⟨shows.key, shows.path, fun name evaluates plain => ?_⟩
  obtain ⟨found, present⟩ := Option.isSome_iff_exists.mp (shows.get? evaluates)
  refine ⟨found, present, fun env within target address => ?_⟩
  have reached := walk_keySteps env (some { Unknown.plain address target.name with
    target := some { target with key := literalKey? (keySteps inst.key ++ [.attribute name]) } })
    [.attribute name] replicated
    (fun inst => resourceValue (inst.environment (session.environment final)) block) member
  rw [resolveBlock, blockOrigin, within, declared, value]
  exact reached.trans (shows.walk_attribute evaluates plain present env _)

end Runs

/-- A resource that is made twice, and reads a local in each instance. -/
theorem evaluateModule_shows_what_is_read_twice :
    let session := Session.start (Host.withModule "" "") ⟨"/"⟩ Options.standard
    let call := session.rootCall
    let locals : SourceBlock := ⟨.locals, [.attribute "tag" (.string "x")], "main.tf", ⟨⟨1, 3⟩, []⟩⟩
    let block : SourceBlock := ⟨.resource "t" "r",
      [.attribute "count" (.number (.int 2)),
        .attribute "tag" (.traversal (.variable "local") [.attribute "tag"]),
        .attribute "position" (.traversal (.variable "count") [.attribute "index"])],
      "main.tf", ⟨⟨5, 9⟩, []⟩⟩
    let value (position : Nat) : Value :=
      .map [("count", .ofNat 2), ("tag", .string "x"), ("position", .ofNat position)]
    let final : Scope := { session.scopeOf call [locals, block] with
      locals := [("tag", .string "x")]
      blocks := [("t.r", .list [value 0, value 1])] }
    ∃ own : List Block, own.map Block.path = ["locals", "t.r[0]", "t.r[1]"] ∧
      List.Forall₂ (ShowsWhatIsRead session call final block)
        (instancesOrSingle (session.environment final) block.body)
        (own.filter (·.address == block.address)) := by
  intro session call locals block value final
  let run : Runner := fun _ => throw .tooDeep
  have settling : ((settleModule session run [] call [locals, block] .start).map
      fun ended => (ended.1.2.1, ended.1.2.2.blocks.map Block.path)).toOption =
        some (final, []) := by decide +kernel
  have again : ((settlePass session run [] call [locals, block] final .empty .start).map
      fun ended => ended.1.1).toOption = some final := by decide +kernel
  have running : ((evaluateModule session run [] call [locals, block] .start).map
      fun ended => ended.1.blocks.map Block.path).toOption =
        some ["locals", "t.r[0]", "t.r[1]"] := by decide +kernel
  obtain ⟨⟨⟨declarations, scope, children⟩, settled⟩, settles, same⟩ := Except.ok_of_map settling
  obtain ⟨rfl, none⟩ := Prod.mk.inj same
  obtain ⟨⟨⟨scope, kept⟩, finish⟩, fixed, same⟩ := Except.ok_of_map again
  obtain rfl : scope = final := same
  obtain ⟨⟨result, after⟩, done, paths⟩ := Except.ok_of_map running
  have alone : ∀ other ∈ [locals] ++ [], other.address ≠ block.address := by decide
  obtain ⟨own, parts, shows⟩ :=
    evaluateModule_shows_what_is_read rfl alone settles ⟨_, _, _, _, fixed⟩ done
  refine ⟨own, ?_, shows⟩
  dsimp only at paths
  rwa [parts, List.map_append, none, List.append_nil] at paths

end Terradoc
