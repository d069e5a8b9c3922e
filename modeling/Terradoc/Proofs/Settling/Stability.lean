import Terradoc.Proofs.Session.Shift
import Terradoc.Proofs.Settling.Calls

namespace Terradoc

/-- A runner gives the same outputs whatever was done before. -/
def Runner.Steady (run : Runner) : Prop :=
  ∀ (call : ModuleCall) (state after : RunState) (made : ModuleRun),
    run call state = .ok (made, after) → ∀ start, ∃ again finish,
      run call start = .ok (again, finish) ∧ again.outputs = made.outputs

theorem runModule_steady (session : Session) (fuel : Nat) (stack : List Path) :
    Runner.Steady (runModule session fuel stack) := by
  intro call state after made done start
  rw [runModule_from_start] at done ⊢
  cases first : runModule session fuel stack call .start with
  | error => rw [first] at done; cases done
  | ok result =>
    rw [first] at done
    cases done
    exact ⟨_, _, rfl, rfl⟩

/-- A computation that settles the called modules at some paths gives what it gave before where these
are known from before. -/
structure Repeatable {α : Type} (paths : List String) (comp : Settling α) : Prop
    extends Visits paths comp where
  again : ∀ {children kept : Children} {state after : RunState} {value : α},
    comp children state = .ok ((value, kept), after) → ∀ (other : Children) (start : RunState),
      (∀ path ∈ paths, Entries.get? other.runs path = Entries.get? kept.runs path) →
        ∃ left finish, comp other start = .ok ((value, left), finish)

namespace Repeatable

variable {α β : Type}

theorem pure (value : α) : Repeatable [] (Pure.pure value) where
  toVisits := .pure value
  again done other start _ := by
    cases done
    exact ⟨other, start, rfl⟩

theorem bind {first : Settling α} {next : α → Settling β} {here there : List String}
    (begun : Repeatable here first) (rest : ∀ value, Repeatable there (next value))
    (apart : here.Disjoint there) : Repeatable (here ++ there) (first >>= next) where
  toVisits := begun.toVisits.bind fun value => (rest value).toVisits
  again := by
    intro children kept state after result done other start known
    obtain ⟨value, between, middle, early, late⟩ := Settling.bind_eq_ok.mp done
    -- The second part leaves the modules of the first part as they were settled, and the other way round.
    have first (path) (member : path ∈ here) :
        Entries.get? other.runs path = Entries.get? between.runs path := by
      rw [known path (List.mem_append_left _ member), (rest value).frame late path (apart member)]
    obtain ⟨left, finish, repeated⟩ := begun.again early other start first
    have second (path) (member : path ∈ there) :
        Entries.get? left.runs path = Entries.get? kept.runs path := by
      rw [begun.frame repeated path fun both => apart both member,
        known path (List.mem_append_right _ member)]
    obtain ⟨last, finish, ended⟩ := (rest value).again late left finish second
    exact ⟨last, finish, Settling.bind_eq_ok.mpr ⟨value, left, _, repeated, ended⟩⟩

theorem bindPure {first : Settling α} {paths : List String} (begun : Repeatable paths first)
    (wrap : α → β) : Repeatable paths (first >>= fun value => Pure.pure (wrap value)) :=
  List.append_nil paths ▸ begun.bind (fun value => .pure (wrap value)) (List.disjoint_nil_right _)

theorem mapM {step : α → Settling β} {paths : α → List String}
    {items : List α} (one : ∀ item ∈ items, Repeatable (paths item) (step item))
    (distinct : (items.flatMap paths).Nodup) :
    Repeatable (items.flatMap paths) (items.mapM step) := by
  induction items with
  | nil => exact .pure []
  | cons item rest ih =>
    rw [List.flatMap_cons] at distinct
    obtain ⟨-, later, apart⟩ := List.nodup_append'.mp distinct
    simp only [List.mapM_cons, List.flatMap_cons]
    have others := ih (fun other member => one other (List.mem_cons_of_mem _ member)) later
    exact (one item List.mem_cons_self).bind (fun first => others.bindPure (first :: ·)) apart

end Repeatable

/-- The value of a called module lies in its outputs. -/
theorem ChildRun.value_of_outputs (inputs : Inputs) {first second : Option ModuleRun}
    (same : first.map ModuleRun.outputs = second.map ModuleRun.outputs) (path name : String) :
    (ChildRun.mk inputs first).value path name = (ChildRun.mk inputs second).value path name := by
  cases first with
  | none => cases second with
    | none => rfl
    | some => cases same
  | some made => cases second with
    | none => cases same
    | some other => exact congrArg Value.map (Option.some.inj same)

section

variable (session : Session) {run : Runner} (steady : run.Steady) (stack : List Path)
  (caller : ModuleCall) (env : Environment)
include steady

theorem runChild_steady {lead : String} {call : Except ModuleFault ModuleCall}
    {state after : RunState} {outcome : Option ModuleRun}
    (done : runChild session run lead call state = .ok (outcome, after)) (start : RunState) :
    ∃ again finish, runChild session run lead call start = .ok (again, finish) ∧
      again.map ModuleRun.outputs = outcome.map ModuleRun.outputs := by
  cases call with
  | error fault =>
    obtain ⟨reported, rfl⟩ := (runChild_of_fault session run).mp done
    have tolerated : session.options.tolerates (.module lead fault) = true := by
      refine by_contra fun refused => ?_
      rw [Session.report, if_neg refused] at reported
      cases reported
    refine ⟨none, { start with tolerated := start.tolerated ++ [.module lead fault] },
      (runChild_of_fault session run).mpr ⟨?_, rfl⟩, rfl⟩
    rw [Session.report, if_pos tolerated]
    rfl
  | ok call =>
    obtain ⟨made, ran, rfl⟩ := (runChild_of_call session run).mp done
    obtain ⟨again, finish, repeated, same⟩ := steady _ _ _ _ ran start
    exact ⟨some again, finish, (runChild_of_call session run).mpr ⟨again, repeated, rfl⟩,
      congrArg some same⟩

theorem settleChild_repeatable (block : SourceBlock) (name : String) (inst : Instance) :
    Repeatable [instancePath block inst]
      (settleChild session run stack caller env block name inst.key) where
  toVisits := settleChild_visits ..
  again := by
    intro children kept state after value done other start known
    have known := known _ (List.mem_singleton_self _)
    rw [settleChild_apply] at done ⊢
    split at done
    · rename_i child found
      cases done
      rw [Children.add, Entries.get?_insert, if_pos (beq_self_eq_true _)] at known
      rw [Children.kept?, Option.filter_eq_some_iff] at found
      rw [Children.kept?, known, Option.filter_some, if_pos found.2]
      exact ⟨_, _, rfl⟩
    · obtain ⟨outcome, _, ran, last⟩ := Running.bind_eq_ok.mp done
      cases last
      rw [Children.add, Entries.get?_insert, if_pos (beq_self_eq_true _)] at known
      rw [Children.kept?, known, Option.filter_some]
      by_cases same : sameInputs (childInputs env (instancePath block inst) block.body)
          (childInputs env (instancePath block inst) block.body) = true
      · rw [if_pos same]
        exact ⟨_, _, rfl⟩
      · -- Inputs that are not even the same as themselves are run again, with the same outputs.
        obtain ⟨again, finish, repeated, outputs⟩ := runChild_steady session steady ran start
        have value := ChildRun.value_of_outputs
          (childInputs env (instancePath block inst) block.body) outputs (instancePath block inst) name
        rw [if_neg same, ← value]
        exact ⟨_, _, Running.bind_eq_ok.mpr ⟨again, finish, repeated, rfl⟩⟩

theorem settleBlock_repeatable {block : SourceBlock} (distinct : (callPaths env block).Nodup) :
    Repeatable (callPaths env block) (settleBlock session run stack caller env block) := by
  cases called : block.kind.callName? with
  | none =>
    rw [settleBlock_of_resource _ _ _ _ _ called, callPaths, called]
    exact .pure _
  | some name =>
    have each (inst : Instance) : Repeatable [instancePath block inst]
        (settleChild session run stack caller (inst.environment env) block name inst.key >>=
          fun value => pure (inst.key, value)) :=
      (settleChild_repeatable session steady ..).bindPure _
    rw [settleBlock_of_call _ _ _ _ _ called]
    rw [callPaths, called, Option.isSome_some, if_pos rfl, List.map_eq_flatMap] at distinct ⊢
    exact (Repeatable.mapM (fun inst _ => each inst) distinct).bindPure _

end

/-- A pass that gives the very scope that it starts from gives it again. -/
theorem settlePass_again (session : Session) {run : Runner} (steady : run.Steady) {stack : List Path}
    {caller : ModuleCall} {blocks : List SourceBlock} {scope : Scope} {children kept : Children}
    {state after : RunState}
    (fixed : settlePass session run stack caller blocks scope children state =
      .ok ((scope, kept), after))
    (distinct : kept.order.Nodup) (start : RunState) :
    ∃ again finish, settlePass session run stack caller blocks scope kept start =
      .ok ((scope, again), finish) ∧ again.order = kept.order := by
  obtain ⟨order, -⟩ := settlePass_visits session run stack caller blocks fixed
  obtain ⟨values, same, made⟩ := (settlePass_eq_ok session run stack caller blocks).mp fixed
  rw [order] at distinct
  have settles := Repeatable.mapM (fun block member =>
    settleBlock_repeatable session steady stack caller _ ((List.nodup_flatMap.mp distinct).1 block member))
    distinct
  obtain ⟨again, finish, repeated⟩ := settles.again made ⟨kept.runs, []⟩ start fun _ _ => rfl
  have done := (settlePass_eq_ok session run stack caller blocks).mpr ⟨values, same, repeated⟩
  exact ⟨again, finish, done, (settlePass_visits session run stack caller blocks done).1.trans order.symm⟩

/-- When a pass has given the very scope that it started from, with all keys in the same order, no
number of further passes gives any other. -/
theorem settlePasses_stable (session : Session) (fuel : Nat) (stack : List Path) (caller : ModuleCall)
    (blocks : List SourceBlock) {scope : Scope} {children kept : Children} {state after : RunState}
    (fixed : settlePass session (runModule session fuel stack) stack caller blocks scope children state =
      .ok ((scope, kept), after))
    (distinct : kept.order.Nodup) (more : Nat) (start : RunState) :
    ∃ left finish,
      settlePasses session (runModule session fuel stack) stack caller blocks more scope kept start =
        .ok ((scope, left), finish) := by
  have steady := runModule_steady session fuel stack
  -- What the passes have left behind always comes from a pass that gave the scope.
  have passes : ∃ left finish,
      settlePasses session (runModule session fuel stack) stack caller blocks more scope kept start =
        .ok ((scope, left), finish) ∧
      ∃ again last, settlePass session (runModule session fuel stack) stack caller blocks scope left
        finish = .ok ((scope, again), last) ∧ again.order = kept.order := by
    induction more with
    | zero => exact ⟨kept, start, rfl, settlePass_again session steady fixed distinct start⟩
    | succ more ih =>
      obtain ⟨left, finish, done, again, last, pass, order⟩ := ih
      obtain ⟨next, later, repeated, same⟩ :=
        settlePass_again session steady pass (order ▸ distinct) last
      exact ⟨again, last, Settling.bind_eq_ok.mpr ⟨scope, left, finish, done, pass⟩, next, later,
        repeated, same.trans order⟩
  obtain ⟨left, finish, done, -⟩ := passes
  exact ⟨left, finish, done⟩

/-- A module that shows one of its inputs. -/
theorem settlePasses_stable_with_module :
    let session := Session.start
      (Host.withModule "" "variable \"name\" \x7b\x7d\noutput \"name\" \x7b\n  value = var.name\n\x7d\n")
      ⟨"/"⟩ Options.standard
    let call := session.rootCall
    let blocks : List SourceBlock := [⟨.module "m",
      [.attribute "source" (.string "./inner"), .attribute "name" (.string "x")], "main.tf", ⟨⟨1, 4⟩, []⟩⟩]
    let scope : Scope := { session.scopeOf call blocks with
      blocks := [("module.m", .map [("name", .string "x")])] }
    ∃ kept left finish,
      settlePasses session (runModule session 1 [session.root]) [session.root] call blocks 20 scope kept
        .start = .ok ((scope, left), finish) := by
  intro session call blocks scope
  have pass : ((settlePass session (runModule session 1 [session.root]) [session.root] call blocks
      scope .empty .start).map fun ended => (ended.1.1, ended.1.2.order)).toOption =
        some (scope, ["module.m"]) := by decide +kernel
  obtain ⟨⟨⟨next, kept⟩, after⟩, fixed, same⟩ := Except.ok_of_map pass
  obtain ⟨rfl, order⟩ := Prod.mk.inj same
  have distinct : kept.order.Nodup := by
    rw [order]
    decide
  exact ⟨kept, settlePasses_stable session 1 [session.root] call blocks fixed distinct 20 .start⟩

/-- Passes end as soon as one gives the same values with keys in whatever order, but a text that shows
the order of keys is still to change. -/
theorem settle_ends_before_text_settles :
    let session := Session.start (Host.withModule "" "") ⟨"/"⟩ Options.standard
    let call := session.rootCall
    let blocks := ((SourceFile.parse?
      ("locals \x7b\n  late = local.base\n  base = \"x\"\n" ++
        "  pair = [local.late] == [\"x\"] ? \x7b a = 1, b = 2 \x7d : \x7b b = 2, a = 1 \x7d\n" ++
        "  text = jsonencode(local.pair)\n\x7d\n")
      "main.tf").map SourceFile.blocks).getD []
    let run := runModule session 1 [session.root]
    let start := session.scopeOf call blocks
    let ended : Settling (Bool × Option Value × Option Value) := do
      let before ← settlePasses session run [session.root] call blocks 2 start
      let final ← settlePass session run [session.root] call blocks before
      let next ← settlePass session run [session.root] call blocks final
      return (final.settledFrom before, Entries.get? final.locals "text", Entries.get? next.locals "text")
    ((ended .empty .start).map fun ((facts, _), _) => facts).toOption =
      some (true, some (.string "\x7b\"b\":2,\"a\":1\x7d"), some (.string "\x7b\"a\":1,\"b\":2\x7d")) ∧
    ((settle session run [session.root] call blocks maxPasses start .empty .start).map
      fun ((final, _), _) => Entries.get? final.locals "text").toOption =
        some (some (.string "\x7b\"b\":2,\"a\":1\x7d")) := by
  decide +kernel

end Terradoc
