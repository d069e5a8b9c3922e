import Terradoc.Proofs.Session.Reach
import Terradoc.Proofs.Session.Shift
import Terradoc.Proofs.Settling.Invariants

/-! Runs of called modules that are kept from one pass to the next. Where a module call asks for the same
source and version in all passes, what is kept is what a run in the end would give. -/

namespace Terradoc

/-- What a call gives when nothing was done before it, but for ids. -/
def RanAs (run : Runner) (call : Except ModuleFault ModuleCall) (outcome : Option ModuleRun) : Prop :=
  match call with
  | .ok call => ∃ made ended drawn, run call .start = .ok (made, ended) ∧
      outcome = some (made.rename (BlockId.after drawn))
  | .error _ => outcome = none

section

variable {session : Session} {fuel : Nat} {stack : List Path} {caller : ModuleCall}

theorem runChild_ranAs {lead : String} {call : Except ModuleFault ModuleCall}
    {state after : RunState} {outcome : Option ModuleRun}
    (done : runChild session (runModule session fuel stack) lead call state = .ok (outcome, after)) :
    RanAs (runModule session fuel stack) call outcome := by
  cases call with
  | error fault => exact ((runChild_of_fault ..).mp done).2
  | ok call =>
    obtain ⟨made, ran, rfl⟩ := (runChild_of_call ..).mp done
    rw [runModule_from_start] at ran
    cases first : runModule session fuel stack call .start with
    | error => rw [first] at ran; cases ran
    | ok result =>
      rw [first] at ran
      cases ran
      exact ⟨_, _, _, first, rfl⟩

/-- What ran is there exactly if the call could be made. -/
theorem RanAs.isSome_iff {run : Runner} {call : Except ModuleFault ModuleCall}
    {outcome : Option ModuleRun} (ran : RanAs run call outcome) :
    outcome.isSome ↔ ∃ made, call = .ok made := by
  cases call with
  | error fault =>
    obtain rfl : outcome = none := ran
    simp
  | ok call =>
    obtain ⟨made, ended, drawn, -, rfl⟩ := ran
    simp

/-- What a module call asks for: a source, and a version of it. -/
def requestOf (env : Environment) (body : Body) : Except ModuleFault String × Option String :=
  (sourceOf env body, versionOf env body)

/-- A call depends on the environment only through what it asks for. -/
theorem childCall_of_request {left right : Environment} {body : Body}
    (same : requestOf left body = requestOf right body) (name path : String) (inputs : Inputs) :
    childCall session stack caller left name path inputs body =
      childCall session stack caller right name path inputs body := by
  obtain ⟨source, version⟩ := Prod.mk.inj same
  rw [childCall, childCall, source, version]

end

/-- All that is kept of the instances of a module call is what the requests at their paths and their own
inputs give. -/
def Current (session : Session) (run : Runner) (stack : List Path) (caller : ModuleCall)
    (block : SourceBlock) (name : String)
    (request : String → Except ModuleFault String × Option String) (children : Children) : Prop :=
  ∀ inst child, Entries.get? children.runs (instancePath block inst) = some child →
    ∀ env, requestOf env block.body = request (instancePath block inst) →
      RanAs run (childCall session stack caller env name (instancePath block inst) child.inputs block.body)
        child.run

/-- The instances of a module call in an environment ask for what is given for their paths. -/
def HasRequests (env : Environment) (block : SourceBlock)
    (request : String → Except ModuleFault String × Option String) : Prop :=
  ∀ inst ∈ instancesOrSingle env block.body,
    requestOf (inst.environment env) block.body = request (instancePath block inst)

/-- In each of a number of passes, the instances of a module call ask for the sources and versions that are
given for their paths. -/
def RequestsStay (session : Session) (run : Runner) (stack : List Path) (caller : ModuleCall)
    (blocks : List SourceBlock) (block : SourceBlock) (start : Scope) (state : RunState)
    (request : String → Except ModuleFault String × Option String) (passes : Nat) : Prop :=
  ∀ count < passes, ∀ scope known middle,
    settlePasses session run stack caller blocks count start .empty state =
      .ok ((scope, known), middle) →
    HasRequests (session.environment (session.blockScope blocks scope)) block request

section

variable (session : Session) (fuel : Nat) (stack : List Path) (caller : ModuleCall)
  {block : SourceBlock} {name : String}

/-- What a module call leaves at the path of each of its instances has the inputs of the instance. -/
theorem settleBlock_leaves {run : Runner} {env : Environment} (called : block.kind.callName? = some name)
    (distinct : (callPaths env block).Nodup) {children kept : Children} {state after : RunState}
    {value : String × Value}
    (done : settleBlock session run stack caller env block children state = .ok ((value, kept), after))
    {inst : Instance} (made : inst ∈ instancesOrSingle env block.body) :
    ∃ child, Entries.get? kept.runs (instancePath block inst) = some child ∧
      (child.inputs = childInputs (inst.environment env) (instancePath block inst) block.body ∨
        sameInputs child.inputs
          (childInputs (inst.environment env) (instancePath block inst) block.body) = true) := by
  rw [settleBlock_of_call _ _ _ _ _ called] at done
  obtain ⟨values, _, _, all, last⟩ := Settling.bind_eq_ok.mp done
  cases last
  rw [callPaths, called, Option.isSome_some, if_pos rfl, List.map_eq_flatMap] at distinct
  obtain ⟨_, _, _, left, _, one, same⟩ :=
    Visits.mapM_leaves (settleKeyed_visits session run stack caller env block name) distinct all made
  obtain ⟨value, _, _, settled, last⟩ := Settling.bind_eq_ok.mp one
  cases last
  obtain ⟨child, rfl, -, outcome⟩ := settleChild_leaves _ _ _ _ _ settled
  refine ⟨child, ?_, outcome.symm.imp And.left And.right⟩
  rw [same _ (List.mem_singleton_self _), Children.add, Entries.get?_insert,
    if_pos (beq_self_eq_true _)]

/-- What a pass leaves at the path of each instance of a module call has the inputs of the instance. -/
theorem settlePass_leaves {run : Runner} {blocks : List SourceBlock} (distinct : DistinctCalls blocks)
    (called : block.kind.callName? = some name) (member : block ∈ blocks) {scope next : Scope}
    {children kept : Children} {state after : RunState}
    (done : settlePass session run stack caller blocks scope children state = .ok ((next, kept), after))
    {env : Environment} (within : env = session.environment (session.blockScope blocks scope))
    {inst : Instance} (made : inst ∈ instancesOrSingle env block.body) :
    ∃ child, Entries.get? kept.runs (instancePath block inst) = some child ∧
      (child.inputs = childInputs (inst.environment env) (instancePath block inst) block.body ∨
        sameInputs child.inputs
          (childInputs (inst.environment env) (instancePath block inst) block.body) = true) := by
  subst within
  obtain ⟨values, -, settled⟩ := (settlePass_eq_ok ..).mp done
  have among : block ∈ blocks.filter (·.kind.isReplicable) :=
    List.mem_filter.mpr ⟨member, BlockKind.isReplicable_of_call called⟩
  have paths := distinct.callPaths_nodup (session.environment (session.blockScope blocks scope))
  obtain ⟨_, _, _, left, _, one, same⟩ :=
    Visits.mapM_leaves (settleBlock_visits session run stack caller _) paths settled among
  obtain ⟨child, found, inputs⟩ := settleBlock_leaves session stack caller called
    ((List.nodup_flatMap.mp paths).1 block among) one made
  have kept := same (instancePath block inst) (mem_callPaths.mpr ⟨name, called, inst, made, rfl⟩)
  exact ⟨child, kept.trans found, inputs⟩

variable {request : String → Except ModuleFault String × Option String}

theorem settleChild_current {env : Environment} {inst : Instance}
    (here : requestOf env block.body = request (instancePath block inst)) :
    Maintains
      (fun children _ => Current session (runModule session fuel stack) stack caller block name request children)
      (settleChild session (runModule session fuel stack) stack caller env block name inst.key) := by
  intro children kept state after value before done twin child found other there
  obtain ⟨added, rfl, -, outcome⟩ := settleChild_leaves _ _ _ _ _ done
  rw [Children.add, Entries.get?_insert] at found
  split at found
  · rename_i same
    obtain rfl := Option.some.inj found
    rw [beq_iff_eq.mp same] at there ⊢
    rcases outcome with ⟨known, -⟩ | ⟨-, _, _, ran⟩
    · exact before inst added known other there
    · rw [childCall_of_request (there.trans here.symm)]
      exact runChild_ranAs ran
  · exact before twin child found other there

section Passes

variable {blocks : List SourceBlock} (distinct : DistinctCalls blocks)
  (called : block.kind.callName? = some name) (member : block ∈ blocks)
include distinct called member

theorem settlePass_current {scope : Scope}
    (requests : HasRequests (session.environment (session.blockScope blocks scope)) block request) :
    Maintains
      (fun children _ => Current session (runModule session fuel stack) stack caller block name request children)
      (settlePass session (runModule session fuel stack) stack caller blocks scope) := by
  intro children kept state after next before done
  obtain ⟨values, -, made⟩ := (settlePass_eq_ok ..).mp done
  have each : ∀ other ∈ blocks.filter (·.kind.isReplicable), Maintains
      (fun children _ => Current session (runModule session fuel stack) stack caller block name request children)
      (settleBlock session (runModule session fuel stack) stack caller
        (session.environment (session.blockScope blocks scope)) other) := by
    intro other among
    have present := List.mem_of_mem_filter among
    by_cases same : other = block
    · subst same
      rw [settleBlock_of_call _ _ _ _ _ called]
      refine .bind (.mapM fun inst made => ?_) fun values => .pure _
      exact (settleChild_current session fuel stack caller (requests inst made)).bind fun value => .pure _
    · intro children kept state after value before done inst child found
      have visits := settleBlock_visits session (runModule session fuel stack) stack caller
        (session.environment (session.blockScope blocks scope)) other
      rw [visits.frame done _ (distinct.not_mem_callPaths _ called member present same inst)] at found
      exact before inst child found
  exact Maintains.mapM each ⟨children.runs, []⟩ kept state after values before made

variable {start : Scope} {state : RunState}

theorem settlePasses_current {passes : Nat}
    (stays : RequestsStay session (runModule session fuel stack) stack caller blocks block start state
      request passes)
    {scope : Scope} {known : Children} {middle : RunState}
    (passed : settlePasses session (runModule session fuel stack) stack caller blocks passes start .empty
      state = .ok ((scope, known), middle)) :
    Current session (runModule session fuel stack) stack caller block name request known := by
  induction passes generalizing scope known middle with
  | zero =>
    cases passed
    exact fun _ _ found => nomatch found
  | succ passes ih =>
    obtain ⟨before, left, between, early, late⟩ := Settling.bind_eq_ok.mp passed
    have current := ih (fun count less => stays count (Nat.lt_succ_of_lt less)) early
    have requests := stays passes (Nat.lt_succ_self passes) before left between early
    exact settlePass_current session fuel stack caller distinct called member requests _ _ _ _ _ current late

/-- Where a module call asks for the same from pass to pass, the called module of each of its
instances is, after any pass, what its call in that pass gives, up to the order of keys in its inputs. -/
theorem settlePasses_keep_runs {passes : Nat}
    (stays : RequestsStay session (runModule session fuel stack) stack caller blocks block start state
      request (passes + 1))
    {scope next : Scope} {known kept : Children} {middle after : RunState}
    (passed : settlePasses session (runModule session fuel stack) stack caller blocks passes start .empty
      state = .ok ((scope, known), middle))
    (last : settlePass session (runModule session fuel stack) stack caller blocks scope known middle =
      .ok ((next, kept), after))
    {env : Environment} (within : env = session.environment (session.blockScope blocks scope))
    {inst : Instance} (made : inst ∈ instancesOrSingle env block.body) :
    ∃ child, Entries.get? kept.runs (instancePath block inst) = some child ∧
      (child.inputs = childInputs (inst.environment env) (instancePath block inst) block.body ∨
        sameInputs child.inputs
          (childInputs (inst.environment env) (instancePath block inst) block.body) = true) ∧
      RanAs (runModule session fuel stack)
        (childCall session stack caller (inst.environment env) name (instancePath block inst)
          child.inputs block.body) child.run := by
  subst within
  have all : settlePasses session (runModule session fuel stack) stack caller blocks (passes + 1) start
      .empty state = .ok ((next, kept), after) :=
    Settling.bind_eq_ok.mpr ⟨scope, known, middle, passed, last⟩
  have current := settlePasses_current session fuel stack caller distinct called member stays all
  obtain ⟨child, found, inputs⟩ :=
    settlePass_leaves session stack caller distinct called member last rfl made
  have requests := stays passes (Nat.lt_succ_self passes) scope known middle passed
  exact ⟨child, found, inputs, current inst child found _ (requests inst made)⟩

end Passes

/-- When a pass has given the very scope that it started from, the called modules are those that running
them in that scope gives, for calls that asked for the same sources and versions in all passes: a module is
there exactly if its source, in its version, leads to a directory that is not being evaluated, and it is,
but for ids, the run of the module in that directory with its inputs, whose keys may come in another
order. -/
theorem settlePasses_reuse {blocks : List SourceBlock} (distinct : DistinctCalls blocks)
    (called : block.kind.callName? = some name) (member : block ∈ blocks)
    {passes : Nat} {start scope : Scope} {known kept : Children} {state middle after : RunState}
    (stays : RequestsStay session (runModule session fuel stack) stack caller blocks block start state
      request (passes + 1))
    (passed : settlePasses session (runModule session fuel stack) stack caller blocks passes start .empty
      state = .ok ((scope, known), middle))
    (fixed : settlePass session (runModule session fuel stack) stack caller blocks scope known middle =
      .ok ((scope, kept), after))
    {inst : Instance} (made : inst ∈ instancesOrSingle (session.environment scope) block.body) :
    let path := instancePath block inst
    let env := inst.environment (session.environment scope)
    ∃ child, Entries.get? kept.runs path = some child ∧
      (child.run.isSome ↔ ∃ source directory, sourceOf env block.body = .ok source ∧
        session.resolver.resolve caller.directory (callKey caller name) source
          (versionOf env block.body) = .ok directory ∧
        stack.any directory.same = false) ∧
      ∀ shown, child.run = some shown → ∃ inputs call run ended drawn,
        (inputs = childInputs env path block.body ∨
          sameInputs inputs (childInputs env path block.body) = true) ∧
        childCall session stack caller env name path inputs block.body = .ok call ∧
        runModule session fuel stack call .start = .ok (run, ended) ∧
        shown = run.rename (BlockId.after drawn) := by
  intro path env
  have within : session.environment scope = session.environment (session.blockScope blocks scope) := by
    rw [blockScope_of_fixed _ _ _ _ _ fixed]
  obtain ⟨child, found, inputs, ran⟩ := settlePasses_keep_runs session fuel stack caller distinct called
    member stays passed fixed within made
  refine ⟨child, found, ran.isSome_iff.trans ⟨?_, ?_⟩, fun shown present => ?_⟩
  · rintro ⟨call, made⟩
    obtain ⟨source, directory, named, resolved, outside, -⟩ := childCall_eq_ok.mp made
    exact ⟨source, directory, named, resolved, outside⟩
  · rintro ⟨source, directory, named, resolved, outside⟩
    exact ⟨_, childCall_eq_ok.mpr ⟨source, directory, named, resolved, outside, rfl⟩⟩
  · obtain ⟨call, made⟩ := ran.isSome_iff.mp (Option.isSome_iff_exists.mpr ⟨shown, present⟩)
    rw [made] at ran
    obtain ⟨run, ended, drawn, begun, same⟩ := ran
    exact ⟨child.inputs, call, run, ended, drawn, inputs, made, begun,
      Option.some.inj (present.symm.trans same)⟩

end

/-- A module that is called with an input, and shows it in a block and as an output. -/
theorem settlePasses_reuse_with_input :
    let session := Session.start
      (Host.withModule "" "variable \"name\" \x7b\x7d\noutput \"name\" \x7b\n  value = var.name\n\x7d\n")
      ⟨"/"⟩ Options.standard
    let caller := session.rootCall
    let block : SourceBlock := ⟨.module "m",
      [.attribute "source" (.string "./inner"), .attribute "name" (.string "x")], "main.tf", ⟨⟨1, 4⟩, []⟩⟩
    let scope : Scope := { session.scopeOf caller [block] with
      blocks := [("module.m", .map [("name", .string "x")])] }
    let env := Instance.single.environment (session.environment scope)
    ∃ (child : ChildRun) (shown : ModuleRun), child.run = some shown ∧
      ∃ inputs call run ended drawn,
        (inputs = childInputs env (instancePath block .single) block.body ∨
          sameInputs inputs (childInputs env (instancePath block .single) block.body) = true) ∧
        childCall session [session.root] caller env "m" (instancePath block .single) inputs block.body =
          .ok call ∧
        runModule session 1 [session.root] call .start = .ok (run, ended) ∧
        shown = run.rename (BlockId.after drawn) := by
  intro session caller block scope env
  have passes : ((settlePasses session (runModule session 1 [session.root]) [session.root] caller [block]
      1 (session.scopeOf caller [block]) .empty .start).map fun ((next, _), _) => next).toOption =
        some scope := by decide +kernel
  have again : ((settlePasses session (runModule session 1 [session.root]) [session.root] caller [block]
      2 (session.scopeOf caller [block]) .empty .start).map fun ((next, kept), _) =>
        (next, (Entries.get? kept.runs (instancePath block .single)).any (·.run.isSome))).toOption =
          some (scope, true) := by decide +kernel
  obtain ⟨⟨⟨next, known⟩, middle⟩, passed, same⟩ := Except.ok_of_map passes
  obtain rfl : next = scope := same
  obtain ⟨⟨⟨final, kept⟩, after⟩, done, facts⟩ := Except.ok_of_map again
  obtain ⟨rfl, present⟩ := Prod.mk.inj facts
  have fixed : settlePass session (runModule session 1 [session.root]) [session.root] caller [block]
      scope known middle = .ok ((scope, kept), after) := by
    obtain ⟨first, left, between, early, late⟩ := Settling.bind_eq_ok.mp done
    cases passed.symm.trans early
    exact late
  have distinct : DistinctCalls [block] := ⟨by decide, by simp [block, BlockKind.callName?]⟩
  have single : Instance.single ∈ instancesOrSingle (session.environment scope) block.body :=
    List.mem_singleton_self _
  have stays : RequestsStay session (runModule session 1 [session.root]) [session.root] caller [block]
      block (session.scopeOf caller [block]) .start (fun _ => (.ok "./inner", none)) 2 :=
    fun _ _ _ _ _ _ _ _ => rfl
  obtain ⟨child, found, -, runs⟩ := settlePasses_reuse session 1 [session.root] caller distinct rfl
    (List.mem_singleton_self block) stays passed fixed single
  rw [found] at present
  obtain ⟨shown, ran⟩ := Option.isSome_iff_exists.mp present
  exact ⟨child, shown, ran, runs shown ran⟩

/-- A source that is not known in the first pass. Passes end with a source that leads to a directory,
but the module is not there: without inputs, it is never called again. -/
theorem settle_keeps_module_missing :
    let session := Session.start
      (Host.withModule "" "resource \"t\" \"r\" \x7b\n  name = \"x\"\n\x7d\n") ⟨"/"⟩ Options.standard
    let caller := session.rootCall
    let block : SourceBlock := ⟨.module "m",
      [.attribute "source" (.traversal (.variable "local") [.attribute "place"])], "main.tf", ⟨⟨6, 8⟩, []⟩⟩
    let blocks : List SourceBlock := [⟨.locals,
      [.attribute "place" (.traversal (.variable "local") [.attribute "base"]),
        .attribute "base" (.string "./inner")], "main.tf", ⟨⟨1, 4⟩, []⟩⟩, block]
    let run := runModule session 1 [session.root]
    let start := session.scopeOf caller blocks
    let ended : Settling (Bool × Scope) := do
      let before ← settlePasses session run [session.root] caller blocks 2 start
      let final ← settlePass session run [session.root] caller blocks before
      return (final.settledFrom before, final)
    ((ended .empty .start).map fun (((stopped, final), kept), _) =>
        (stopped, (Entries.get? kept.runs "module.m").map (·.run.isSome),
          (childCall session [session.root] caller (session.environment final) "m" "module.m" []
            block.body).toOption.map (·.directory.text))).toOption =
      some (true, some false, some "/inner") ∧
    ((settle session run [session.root] caller blocks maxPasses start .empty .start).map
      fun ((_, kept), _) => (Entries.get? kept.runs "module.m").map (·.run.isSome)).toOption =
        some (some false) := by
  decide +kernel

end Terradoc
