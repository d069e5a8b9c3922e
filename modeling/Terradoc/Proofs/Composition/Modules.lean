import Terradoc.Proofs.Composition.Paths
import Terradoc.Proofs.Settling.Reading

/-! Called modules in the document of their caller: their blocks come after those of the caller, at the
paths of its module calls, and the caller reads their outputs. -/

namespace Terradoc

section Calls

variable {session : Session} {scope : Scope}

theorem mem_callsIn {blocks : List SourceBlock} {source : SourceBlock} {inst : Instance} :
    (source, inst) ∈ session.callsIn scope blocks ↔ source ∈ blocks ∧
      (∃ name, source.kind = .module name) ∧
        inst ∈ instancesOrSingle (session.environment scope) source.body := by
  simp only [Session.callsIn, List.mem_flatMap]
  constructor
  · rintro ⟨block, member, inside⟩
    split at inside
    · rename_i called
      obtain ⟨twin, among, same⟩ := List.mem_map.mp inside
      obtain ⟨rfl, rfl⟩ := Prod.mk.inj same
      obtain ⟨name, call⟩ := Option.isSome_iff_exists.mp called
      rw [Session.instancesIn, if_pos (BlockKind.isReplicable_of_call call)] at among
      exact ⟨member, ⟨name, BlockKind.callName?_eq_some.mp call⟩, among⟩
    · cases inside
  · rintro ⟨member, ⟨name, called⟩, among⟩
    have call := BlockKind.callName?_eq_some.mpr called
    refine ⟨source, member, ?_⟩
    rw [call, Option.isSome_some, if_pos rfl, Session.instancesIn,
      if_pos (BlockKind.isReplicable_of_call call)]
    exact List.mem_map_of_mem among

/-- A pass settles the instances of module calls in the order in which their blocks are made. -/
theorem callsIn_paths (blocks : List SourceBlock) :
    (session.callsIn scope blocks).map (fun turn => instancePath turn.1 turn.2) =
      (blocks.filter (·.kind.isReplicable)).flatMap (callPaths (session.environment scope)) := by
  have none {block : SourceBlock} (resource : block.kind.callName? = none) :
      callPaths (session.environment scope) block = [] := by
    rw [callPaths, resource]
    rfl
  induction blocks with
  | nil => rfl
  | cons block rest ih =>
    rw [Session.callsIn, List.flatMap_cons, List.map_append]
    refine (congrArg (_ ++ ·) ih).trans ?_
    cases called : block.kind.callName? with
    | none =>
      by_cases replicable : block.kind.isReplicable = true
      · rw [List.filter_cons_of_pos (by exact replicable), List.flatMap_cons, none called]
        rfl
      · rw [List.filter_cons_of_neg (by exact replicable)]
        rfl
    | some name =>
      have replicable := BlockKind.isReplicable_of_call called
      rw [List.filter_cons_of_pos (by exact replicable), List.flatMap_cons, callPaths, called,
        Session.instancesIn, if_pos replicable]
      simp only [Option.isSome_some, ↓reduceIte, List.map_map, Function.comp_def]

theorem DistinctCalls.of_addresses {blocks : List SourceBlock}
    (distinct : ((blocks.filter (·.kind.isReplicable)).map SourceBlock.address).Nodup)
    (plain : ∀ block ∈ blocks, ∀ name, block.kind.callName? = some name → '[' ∉ name.toList) :
    DistinctCalls blocks where
  names := by
    rw [List.Nodup, List.pairwise_map, List.pairwise_filter] at distinct
    rw [List.Nodup, List.pairwise_filterMap]
    refine distinct.imp fun {block other} apart name called second calls same => ?_
    refine apart (BlockKind.isReplicable_of_call called) (BlockKind.isReplicable_of_call calls) ?_
    rw [SourceBlock.address, SourceBlock.address, BlockKind.address_of_call called,
      BlockKind.address_of_call calls, same]
  plain := plain

end Calls

def Children.valueAt (children : Children) (path name : String) : Value :=
  ((Entries.get? children.runs path).map fun child => child.value path name).getD .null

section Settling

variable {session : Session} {run : Runner} {stack : List Path} {caller : ModuleCall}
  {block : SourceBlock} {name : String} (called : block.kind.callName? = some name)
include called

/-- The value of a module call is that of the called modules that it leaves, by the keys of its
instances. -/
theorem settleBlock_value {env : Environment} (distinct : (callPaths env block).Nodup)
    {children kept : Children} {state after : RunState} {value : String × Value}
    (done : settleBlock session run stack caller env block children state =
      .ok ((value, kept), after)) :
    value = (block.address, collectInstances ((instancesOrSingle env block.body).map fun inst =>
      (inst.key, kept.valueAt (instancePath block inst) name))) := by
  rw [settleBlock_of_call _ _ _ _ _ called] at done
  obtain ⟨values, _, _, all, last⟩ := Settling.bind_eq_ok.mp done
  cases last
  rw [callPaths, called, Option.isSome_some, if_pos rfl, List.map_eq_flatMap] at distinct
  have rows := Visits.mapM_rows (settleKeyed_visits session run stack caller env block name) distinct all
  rw [eq_map_of_forall₂ (rows.imp fun inst result one => ?_)]
  obtain ⟨_, _, left, _, keyed, same⟩ := one
  obtain ⟨value, _, _, settled, last⟩ := Settling.bind_eq_ok.mp keyed
  cases last
  obtain ⟨child, rfl, rfl, -⟩ := settleChild_leaves _ _ _ _ _ settled
  rw [Children.valueAt, same _ (List.mem_singleton_self _), Children.add, Entries.get?_insert,
    if_pos (beq_self_eq_true _)]
  rfl

variable {blocks : List SourceBlock} (member : block ∈ blocks)
  (addresses : ((blocks.filter (·.kind.isReplicable)).map SourceBlock.address).Nodup)
  (distinct : DistinctCalls blocks) {scope next : Scope} {children kept : Children}
  {state after : RunState}
  (done : settlePass session run stack caller blocks scope children state = .ok ((next, kept), after))
include member addresses distinct done

/-- What a pass has for a module call, when addresses are different. -/
theorem get?_settlePass_of_call :
    Entries.get? next.blocks block.address = some (collectInstances
      ((instancesOrSingle (session.environment (session.blockScope blocks scope)) block.body).map
        fun inst => (inst.key, kept.valueAt (instancePath block inst) name))) := by
  obtain ⟨values, rfl, made⟩ := (settlePass_eq_ok session run stack caller blocks).mp done
  have among : block ∈ blocks.filter (·.kind.isReplicable) :=
    List.mem_filter.mpr ⟨member, BlockKind.isReplicable_of_call called⟩
  have paths := distinct.callPaths_nodup (session.environment (session.blockScope blocks scope))
  have rows := Visits.mapM_rows (settleBlock_visits session run stack caller _) paths made
  have keys : (blocks.filter (·.kind.isReplicable)).map SourceBlock.address = values.map Prod.fst := by
    refine eq_map_of_forall₂ (List.forall₂_map_right_iff.mpr (rows.imp fun block result one => ?_))
    obtain ⟨_, _, _, _, settled, -⟩ := one
    exact (settleBlock_address _ _ _ _ settled).symm
  obtain ⟨result, present, _, _, left, _, settled, same⟩ := exists_of_forall₂ rows.flip among
  have value := settleBlock_value called ((List.nodup_flatMap.mp paths).1 block among) settled
  have found : Entries.get? (Entries.ofList values) result.1 = some result.2 := by
    have all : values.map (fun entry => (entry.1, entry.2)) = values := List.map_id values
    rw [← all]
    exact Entries.get?_ofList_map (keys ▸ addresses) present
  rw [value] at found
  refine found.trans (congrArg (fun values => some (collectInstances values)) ?_)
  refine List.map_congr_left fun inst made => ?_
  rw [Children.valueAt, Children.valueAt, same _ (mem_callPaths.mpr ⟨name, called, inst, made, rfl⟩)]

end Settling

/-- A reference to a module call leads on from its value. -/
theorem Expr.eval_module {env : Environment} {name : String} {steps : List Step}
    (unbound : Entries.get? env.bindings "module" = none) :
    (Expr.traversal (.variable "module") (.attribute name :: steps)).eval env =
      resolveBlock env ("module." ++ name) (.module name)
        (traversalAddress "module" (.attribute name :: steps)) steps :=
  eval_of_blockOrigin [.attribute name] unbound rfl

def outputReference (name : String) (key : Option InstanceKey) (output : String) : Expr :=
  .traversal (.variable "module") (.attribute name :: (keySteps key ++ [.attribute output]))

/-- What an output of a module shows, null where it has no value. -/
def Block.shownValue (block : Block) : Value := (Entries.get? block.attributes "value").getD .null

/-- The run of a called module as it stands in the document of its caller, whose block for the call is
shown: all its blocks are at paths that begin with that of the block shown, and the caller reads the
values that the outputs of the module show. -/
structure ComposedAt (session : Session) (scope : Scope) (shown : Block) (call : ModuleCall)
    (made : ModuleRun) : Prop where
  stand : AllStand (shown.path ++ ".") made.blocks
  outputs : ∃ (sources : List SourceBlock) (inner : Scope) (own called : List Block),
    (∃ start finish, session.moduleBlocks call.directory start = .ok (sources, finish)) ∧
    MadeInOrder session call inner sources own ∧ made.blocks = own ++ called ∧
    ((sources.filterMap (·.kind.outputName?)).Nodup → ∀ name, shown.kind = .module name →
      ∀ block ∈ own, ∀ output, block.kind = .output output →
        ∀ env : Environment, env.scope = scope → Entries.get? env.bindings "module" = none →
          (outputReference name shown.key output).eval env = .ok block.shownValue)

def Children.outcomeAt (children : Children) (path : String) : Option ModuleRun :=
  (Entries.get? children.runs path).bind (·.run)

theorem Children.blocks_of_order {children : Children} (distinct : children.order.Nodup) :
    children.blocks = children.order.flatMap fun path =>
      ((children.outcomeAt path).map ModuleRun.blocks).getD [] := by
  rw [Children.blocks, List.eraseDups_of_nodup distinct]
  refine congrArg (List.flatMap · _) (funext fun path => ?_)
  rw [Children.outcomeAt]
  cases (Entries.get? children.runs path).bind (·.run) <;> rfl

section Settled

variable {session : Session} {fuel : Nat} {stack : List Path} {call : ModuleCall}
  {blocks : List SourceBlock} {state settled : RunState} {declarations : List VariableDeclaration}
  {final : Scope} {children known : Children} {start finish : RunState}
  (addresses : ((blocks.filter (·.kind.isReplicable)).map SourceBlock.address).Nodup)
  (distinct : DistinctCalls blocks)
  (settles : settleModule session (runModule session fuel stack) stack call blocks state =
    .ok ((declarations, final, children), settled))
  (fixed : settlePass session (runModule session fuel stack) stack call blocks final known start =
    .ok ((final, children), finish))
  {source : SourceBlock} (member : source ∈ blocks) {name : String}
  (called : source.kind = .module name) {inst : Instance}
  (among : inst ∈ instancesOrSingle (session.environment final) source.body)
include addresses distinct settles fixed member called among

/-- The caller reads the outputs of the run that is kept at the path of an instance. -/
theorem eval_outputReference {child : ChildRun} {made : ModuleRun}
    (found : Entries.get? children.runs (instancePath source inst) = some child)
    (ran : child.run = some made) {output : String} {value : Value}
    (given : Entries.get? made.outputs output = some value) {env : Environment}
    (within : env.scope = final) (unbound : Entries.get? env.bindings "module" = none) :
    (outputReference name inst.key output).eval env = .ok value := by
  have calls := BlockKind.callName?_eq_some.mpr called
  have address : source.address = "module." ++ name := BlockKind.address_of_call calls
  have declared : final.declared.contains ("module." ++ name) = true := by
    rw [settleModule_declared _ _ _ _ _ settles, List.contains_iff_mem, ← address]
    exact List.mem_map_of_mem
      (List.mem_filter.mpr ⟨member, BlockKind.isReplicable_of_call calls⟩)
  have all := get?_settlePass_of_call calls member addresses distinct fixed
  rw [blockScope_of_fixed _ _ _ _ _ fixed, address] at all
  have outputs : children.valueAt (instancePath source inst) name = .map made.outputs := by
    simp only [Children.valueAt, found, Option.map_some, Option.getD_some, ChildRun.value, ran]
  have last (fallback : Fallback) : walk env fallback 0 (children.valueAt (instancePath source inst) name)
      [.attribute output] = .ok value := by
    rw [outputs, walk_step env fallback rfl (by simp), Step.apply, Value.attribute, given]
    exact walk_nil env fallback 0 value
  have reached (fallback : Fallback) := (walk_keySteps env fallback [.attribute output]
    (instancesOrSingle_replicated (session.environment final) source.body)
    (fun inst => children.valueAt (instancePath source inst) name) among).trans (last fallback)
  rw [outputReference, Expr.eval_module unbound, resolveBlock, blockOrigin, within, declared, all]
  exact reached _

/-- What is kept at the path of an instance stands in the document as a called module. -/
theorem composedAt_of_call {shown : Block} (from_ : MadeFrom call source inst shown) :
    (∃ child, Entries.get? children.runs (shown.address ++ keySuffix shown.key) = some child ∧
      child.run = children.outcomeAt (instancePath source inst)) ∧
    ∀ made, children.outcomeAt (instancePath source inst) = some made → ∃ next start finish,
      runModule session fuel stack next start = .ok (made, finish) ∧
        ComposedAt session final shown next made := by
  have place : shown.address ++ keySuffix shown.key = instancePath source inst := by
    rw [from_.address, from_.key, instancePath]
  obtain ⟨child, found, -⟩ := settlePass_leaves session stack call distinct
    (BlockKind.callName?_eq_some.mpr called) member fixed
    (by rw [blockScope_of_fixed _ _ _ _ _ fixed]) among
  rw [place]
  refine ⟨⟨child, found, by rw [Children.outcomeAt, found]; rfl⟩, fun made outcome => ?_⟩
  rw [Children.outcomeAt, found] at outcome
  obtain ⟨env, block, other, twin, next, begun, ended, -, -, calls, ran⟩ :=
    (settleModule_ran settles).call found outcome
  have lead : next.lead = shown.path ++ "." := by
    rw [childCall_lead calls, from_.path, instancePath, ← String.append_assoc]
  refine ⟨next, begun, ended, ran, ⟨lead ▸ runModule_stand fuel stack next ran, ?_⟩⟩
  cases fuel with
  | zero => cases ran
  | succ fuel =>
    obtain ⟨sources, _, written, evaluated⟩ := Running.bind_eq_ok.mp ran
    obtain ⟨declared, inner, inside, middle, rows, inward, -, -⟩ :=
      (evaluateModule_eq_ok ..).mp evaluated
    obtain ⟨own, inOrder, parts, outputs⟩ := evaluateModule_own inward evaluated
    refine ⟨sources, inner, own, inside.blocks, ⟨_, _, written⟩, inOrder, parts, ?_⟩
    intro single second kind block present output printed env within unbound
    obtain rfl : second = name := by
      rw [from_.kind, called] at kind
      exact (BlockKind.module.inj kind).symm
    rw [from_.key]
    have given := get?_outputValues (inOrder.outputs ▸ single) present printed
    rw [← outputs] at given
    exact eval_outputReference addresses distinct settles fixed member called among found outcome given
      within unbound

end Settled

/-- A module whose last pass gave the very scope that it started from shows its own blocks, each once
for each of its instances, in order, and then the blocks of its called modules, one for each block of a
module call that it shows. These stand at paths inside of the block of their call, and the module reads
from each call what the outputs of the called module show. -/
theorem runModule_composes {session : Session} {fuel : Nat} {stack : List Path} {call : ModuleCall}
    {begun state settled after : RunState} {blocks : List SourceBlock}
    {declarations : List VariableDeclaration} {final : Scope} {children : Children}
    {result : ModuleRun}
    (read : session.moduleBlocks call.directory begun = .ok (blocks, state))
    (addresses : ((blocks.filter (·.kind.isReplicable)).map SourceBlock.address).Nodup)
    (plain : ∀ block ∈ blocks, ∀ name, block.kind.callName? = some name → '[' ∉ name.toList)
    (settles : settleModule session (runModule session fuel (call.directory :: stack))
      (call.directory :: stack) call blocks state = .ok ((declarations, final, children), settled))
    (fixed : ∃ known start finish, settlePass session (runModule session fuel (call.directory :: stack))
      (call.directory :: stack) call blocks final known start = .ok ((final, children), finish))
    (done : runModule session (fuel + 1) stack call begun = .ok (result, after)) :
    ∃ (own : List Block) (outcomes : List (Option ModuleRun)),
      result.blocks = own ++ outcomes.flatMap (fun outcome => (outcome.map ModuleRun.blocks).getD []) ∧
      MadeInOrder session call final blocks own ∧
      List.Forall₂ (fun shown outcome =>
          (∃ child, Entries.get? children.runs (shown.address ++ keySuffix shown.key) = some child ∧
            child.run = outcome) ∧
          ∀ made, outcome = some made → ∃ next start finish,
            runModule session fuel (call.directory :: stack) next start = .ok (made, finish) ∧
              ComposedAt session final shown next made)
        (own.filter fun block => block.kind.callName?.isSome) outcomes := by
  obtain ⟨_, _, written, evaluated⟩ := Running.bind_eq_ok.mp done
  rw [read] at written
  cases written
  obtain ⟨own, inOrder, all, -⟩ := evaluateModule_own settles evaluated
  obtain ⟨known, start, finish, fixed⟩ := fixed
  have distinct := DistinctCalls.of_addresses addresses plain
  have order : children.order =
      (session.callsIn final blocks).map fun turn => instancePath turn.1 turn.2 := by
    rw [(settlePass_visits _ _ _ _ _ fixed).1, blockScope_of_fixed _ _ _ _ _ fixed, callsIn_paths]
  have once : children.order.Nodup := by
    rw [order, callsIn_paths]
    exact distinct.callPaths_nodup _
  refine ⟨own, (session.callsIn final blocks).map fun turn =>
    children.outcomeAt (instancePath turn.1 turn.2), ?_, inOrder, ?_⟩
  · rw [all, Children.blocks_of_order once, order, List.flatMap_map, List.flatMap_map]
  · rw [List.forall₂_map_right_iff]
    have rows := (List.forall₂_and_left _ _).mpr ⟨fun _ member => member, inOrder.calls⟩
    refine (rows.imp ?_).flip
    rintro ⟨source, inst⟩ shown ⟨turn, from_⟩
    obtain ⟨member, ⟨name, called⟩, among⟩ := mem_callsIn.mp turn
    exact composedAt_of_call addresses distinct settles fixed member called among from_

/-- A module that is called twice, and shows the index of the call as an output. -/
theorem runModule_composes_twice :
    let host := Host.withModule
      "module \"m\" \x7b\n  source = \"./inner\"\n  count = 2\n  name = count.index\n\x7d\n"
      "variable \"name\" \x7b\x7d\noutput \"name\" \x7b\n  value = var.name\n\x7d\n"
    let session := Session.start host ⟨"/"⟩ Options.standard
    let call : ModuleCall := ⟨⟨"/"⟩, "", "", some []⟩
    let blocks := ((session.moduleBlocks call.directory .start).toOption.map Prod.fst).getD []
    let value (index : Nat) : Value := .map [("name", .ofNat index)]
    let final : Scope := { session.scopeOf call blocks with
      blocks := [("module.m", .list [value 0, value 1])] }
    ∃ (result : ModuleRun) (own : List Block) (outcomes : List (Option ModuleRun)),
      result.blocks.map Block.path = ["module.m[0]", "module.m[1]", "module.m[0].variable.name",
        "module.m[0].output.name", "module.m[1].variable.name", "module.m[1].output.name"] ∧
      result.blocks = own ++ outcomes.flatMap (fun outcome => (outcome.map ModuleRun.blocks).getD []) ∧
      MadeInOrder session call final blocks own ∧
      List.Forall₂ (fun shown outcome => ∀ made, outcome = some made →
          ∃ next, ComposedAt session final shown next made)
        (own.filter fun block => block.kind.callName?.isSome) outcomes := by
  intro host session call blocks value final
  let run := runModule session 1 [call.directory]
  let begun : Scope := { session.scopeOf call blocks with
    vars := resolveVariables
      (VariableDeclaration.ofBlocks (session.environment (session.scopeOf call blocks)) blocks) [] }
  have reading : ((session.moduleBlocks call.directory .start).map fun ended =>
      (ended.2.drawn, ended.2.tolerated.map LoadError.message)).toOption = some (0, []) := by
    decide +kernel
  have names : (blocks.map fun block => block.kind.callName?) = [some "m"] := by decide +kernel
  have addresses : ((blocks.filter (·.kind.isReplicable)).map SourceBlock.address).Nodup := by
    decide +kernel
  have first : ((settlePass session run [call.directory] call blocks begun .empty .start).map
      fun ended => (ended.1.1, ended.1.1.settledFrom begun)).toOption = some (final, false) := by
    decide +kernel
  have both : ((settlePasses session run [call.directory] call blocks 2 begun .empty .start).map
      fun ended => (ended.1.1, ended.1.1.settledFrom final)).toOption = some (final, true) := by
    decide +kernel
  have running : ((runModule session 2 [] call .start).map fun ended =>
      ended.1.blocks.map Block.path).toOption =
        some ["module.m[0]", "module.m[1]", "module.m[0].variable.name",
          "module.m[0].output.name", "module.m[1].variable.name", "module.m[1].output.name"] := by
    decide +kernel
  have plain : ∀ block ∈ blocks, ∀ name, block.kind.callName? = some name → '[' ∉ name.toList := by
    intro block member name called
    have among : some name ∈ blocks.map fun block => block.kind.callName? :=
      List.mem_map.mpr ⟨block, member, called⟩
    rw [names, List.mem_singleton] at among
    obtain rfl := Option.some.inj among
    decide
  obtain ⟨⟨found, state⟩, read, facts⟩ := Except.ok_of_map reading
  obtain ⟨drawn, noted⟩ := Prod.mk.inj facts
  obtain rfl : state = .start := by
    obtain ⟨_, tolerated⟩ := state
    exact congrArg₂ RunState.mk drawn (List.map_eq_nil_iff.mp noted)
  have known : found = blocks := by
    simp only [blocks, read]
    rfl
  rw [known] at read
  obtain ⟨⟨result, after⟩, done, paths⟩ := Except.ok_of_map running
  obtain ⟨_, _, written, evaluated⟩ := Running.bind_eq_ok.mp done
  rw [read] at written
  cases written
  obtain ⟨declarations, scope, children, settled, made, settles, -, -⟩ :=
    (evaluateModule_eq_ok ..).mp evaluated
  obtain ⟨inputs, between, given, rest⟩ := Running.bind_eq_ok.mp settles
  cases given
  obtain ⟨⟨_, _⟩, _, passes, last⟩ := Running.bind_eq_ok.mp rest
  cases last
  -- The first pass gives the final scope, and the second one, which is the last, gives it again.
  obtain ⟨next, kept, middle, pass, more⟩ := (settle_succ session run _ call blocks).mp passes
  have same := (congrArg (fun outcome => (Except.map _ outcome).toOption) pass).symm.trans first
  obtain ⟨rfl, changed⟩ := Prod.mk.inj (Option.some.inj same)
  have second := (more.resolve_left fun ended => Bool.false_ne_true (changed.symm.trans ended.1)).2
  obtain ⟨last, left, finish, again, ends⟩ := (settle_succ session run _ call blocks).mp second
  have twice : settlePasses session run [call.directory] call blocks 2 begun .empty .start =
      .ok ((last, left), finish) := by
    rw [settlePasses_succ]
    exact Settling.bind_eq_ok.mpr ⟨_, _, _, pass,
      Settling.bind_eq_ok.mpr ⟨_, _, _, rfl, again⟩⟩
  have same := (congrArg (fun outcome => (Except.map _ outcome).toOption) twice).symm.trans both
  obtain ⟨rfl, unchanged⟩ := Prod.mk.inj (Option.some.inj same)
  obtain ⟨-, rfl, rfl, rfl⟩ :=
    ends.resolve_right fun later => Bool.false_ne_true (later.1.symm.trans unchanged)
  obtain ⟨own, outcomes, all, inOrder, calls⟩ :=
    runModule_composes read addresses plain settles ⟨_, _, _, again⟩ done
  refine ⟨result, own, outcomes, paths, all, inOrder, calls.imp ?_⟩
  rintro shown outcome ⟨-, composed⟩ made ran
  obtain ⟨next, _, _, -, stands⟩ := composed made ran
  exact ⟨next, stands⟩

/-- A module call whose instances depend on the order of keys in a value. Passes end while that order is
still to change them: the scope is one that a further pass gives again, but the called module is that of
an instance before, and its blocks stand at the path of no block that is shown. -/
theorem evaluateModule_shows_module_of_earlier_pass :
    let host := Host.withModule "" "variable \"v\" \x7b\x7d\noutput \"k\" \x7b\n  value = var.v\n\x7d\n"
    let session := Session.start host ⟨"/"⟩ Options.standard
    let call : ModuleCall := session.rootCall
    let entry (key : String) (number : Int) : ObjectKey × Expr := (.name key, .number (.int number))
    let pair : Expr := .traversal (.variable "t") [.attribute "r", .attribute "pair"]
    let sorted (yes no : Expr) : Expr := .conditional (.binary .equal
      (.listFor (some "k") "v" pair (.variable "k") none) (.array [.string "a", .string "b"])) yes no
    let blocks : List SourceBlock := [
      ⟨.locals, [
        .attribute "late" (.traversal (.variable "local") [.attribute "base"]),
        .attribute "base" (.string "x"),
        .attribute "pair" (.conditional
          (.binary .equal (.array [.traversal (.variable "local") [.attribute "late"]]) (.array [.string "x"]))
          (.object [entry "a" 1, entry "b" 2]) (.object [entry "b" 2, entry "a" 1]))],
        "main.tf", ⟨⟨1, 5⟩, []⟩⟩,
      ⟨.resource "t" "r", [
        .attribute "pair" (.traversal (.variable "local") [.attribute "pair"])], "main.tf", ⟨⟨7, 9⟩, []⟩⟩,
      ⟨.module "m", [
        .attribute "source" (.string "./inner"),
        .attribute "for_each" (sorted (.object [entry "k" 1]) .null),
        .attribute "v" (sorted (.string "x") (.object [(.name "k", .string "x")]))],
        "main.tf", ⟨⟨11, 15⟩, []⟩⟩]
    let run := runModule session 1 [call.directory]
    let ended : Running (Bool × List String × List String) := do
      let (_, final, children) ← settleModule session run [call.directory] call blocks
      let (next, again) ← (settlePass session run [call.directory] call blocks final).run children
      return (decide (next = final), children.order, again.order)
    ((ended .start).map Prod.fst).toOption = some (true, ["module.m"], ["module.m[\"k\"]"]) ∧
    ((evaluateModule session run [call.directory] call blocks .start).map fun (result, _) =>
        result.blocks.map Block.path).toOption =
      some ["locals", "t.r", "module.m[\"k\"]", "module.m.variable.v", "module.m.output.k"] := by
  decide +kernel

end Terradoc
