import Terradoc.Proofs.Settling.Calls

namespace Terradoc

/-- What holds of the called modules and of the run before a computation holds of them after it. -/
def Maintains {α : Type} (holds : Children → RunState → Prop) (comp : Settling α) : Prop :=
  ∀ (children kept : Children) (state after : RunState) (value : α), holds children state →
    comp children state = .ok ((value, kept), after) → holds kept after

namespace Maintains

variable {α β : Type} {holds : Children → RunState → Prop}

theorem pure (value : α) : Maintains holds (Pure.pure value) := by
  intro children kept state after result before done
  cases done
  exact before

theorem bind {first : Settling α} {next : α → Settling β} (start : Maintains holds first)
    (rest : ∀ value, Maintains holds (next value)) : Maintains holds (first >>= next) := by
  intro children kept state after result before done
  obtain ⟨value, between, middle, early, late⟩ := Settling.bind_eq_ok.mp done
  exact rest value _ _ _ _ _ (start _ _ _ _ _ before early) late

theorem mapM {step : α → Settling β} {items : List α}
    (one : ∀ item ∈ items, Maintains holds (step item)) : Maintains holds (items.mapM step) := by
  induction items with
  | nil => exact .pure []
  | cons item rest ih =>
    simp only [List.mapM_cons]
    refine (one item List.mem_cons_self).bind fun first => ?_
    exact (ih fun other member => one other (List.mem_cons_of_mem _ member)).bind fun others =>
      .pure (first :: others)

end Maintains

section

variable {session : Session} {run : Runner} {stack : List Path} {caller : ModuleCall}
  {blocks : List SourceBlock} {holds : Children → RunState → Prop}
  (child : ∀ env, ∀ block ∈ blocks, ∀ name (inst : Instance), block.kind = .module name →
    Maintains holds (settleChild session run stack caller env block name inst.key))
include child

theorem settleBlock_maintains (env : Environment) {block : SourceBlock} (member : block ∈ blocks) :
    Maintains holds (settleBlock session run stack caller env block) := by
  refine .bind (.mapM fun inst _ => .bind ?_ fun value => .pure _) fun values => .pure _
  unfold settleInstance
  split
  · rename_i called
    exact child _ block member _ inst called
  · exact .pure _

variable (cleared : ∀ children state, holds children state → holds ⟨children.runs, []⟩ state)
include cleared

theorem settlePass_maintains (scope : Scope) :
    Maintains holds (settlePass session run stack caller blocks scope) := by
  intro children kept state after next before done
  obtain ⟨values, -, made⟩ := (settlePass_eq_ok session run stack caller blocks).mp done
  refine Maintains.mapM (fun block among => ?_) _ _ _ _ _ (cleared _ _ before) made
  exact settleBlock_maintains child _ (List.mem_of_mem_filter among)

theorem settle_maintains (passes : Nat) (scope : Scope) :
    Maintains holds (settle session run stack caller blocks passes scope) := by
  induction passes generalizing scope with
  | zero => exact .pure scope
  | succ passes ih =>
    refine .bind (settlePass_maintains child cleared scope) fun next => ?_
    split
    · exact .pure next
    · exact ih next

end

def Children.Ran (session : Session) (run : Runner) (stack : List Path) (caller : ModuleCall)
    (children : Children) : Prop :=
  ∀ path child, Entries.get? children.runs path = some child →
    ∃ (env : Environment) (block : SourceBlock) (name : String) (inst : Instance)
      (start finish : RunState), block.kind = .module name ∧ path = instancePath block inst ∧
        runChild session run (caller.lead ++ path)
          (childCall session stack caller env name path child.inputs block.body) start =
            .ok (child.run, finish)

section

variable {session : Session} {run : Runner} {stack : List Path} {caller : ModuleCall}

theorem settleChild_ran (env : Environment) (block : SourceBlock) (name : String) (inst : Instance)
    (called : block.kind = .module name) :
    Maintains (fun children _ => children.Ran session run stack caller)
      (settleChild session run stack caller env block name inst.key) := by
  intro children kept state after value before done path twin found
  obtain ⟨child, rfl, -, outcome⟩ := settleChild_leaves _ _ _ _ _ done
  rw [Children.add, Entries.get?_insert] at found
  split at found
  · rename_i same
    obtain rfl := Option.some.inj found
    obtain rfl := beq_iff_eq.mp same
    rcases outcome with ⟨known, -⟩ | ⟨-, start, finish, ran⟩
    · exact before _ child known
    · exact ⟨env, block, name, inst, start, finish, called, rfl, ran⟩
  · exact before path twin found

/-- A run that is kept is the run of a call that the module makes at its path. -/
theorem Children.Ran.call {children : Children} (ran : children.Ran session run stack caller)
    {path : String} {child : ChildRun} (found : Entries.get? children.runs path = some child)
    {made : ModuleRun} (outcome : child.run = some made) :
    ∃ (env : Environment) (block : SourceBlock) (name : String) (inst : Instance) (call : ModuleCall)
      (start finish : RunState), block.kind = .module name ∧ path = instancePath block inst ∧
        childCall session stack caller env name path child.inputs block.body = .ok call ∧
        run call start = .ok (made, finish) := by
  obtain ⟨env, block, name, inst, start, finish, called, place, done⟩ := ran path child found
  cases calls : childCall session stack caller env name path child.inputs block.body with
  | error fault =>
    rw [calls, outcome] at done
    cases ((runChild_of_fault session run).mp done).2
  | ok call =>
    rw [calls] at done
    obtain ⟨_, begun, same⟩ := (runChild_of_call session run).mp done
    obtain rfl := Option.some.inj (outcome.symm.trans same)
    exact ⟨env, block, name, inst, call, start, finish, called, place, calls, begun⟩

theorem settle_ran {blocks : List SourceBlock} {passes : Nat} {scope final : Scope}
    {kept : Children} {state after : RunState}
    (done : settle session run stack caller blocks passes scope .empty state =
      .ok ((final, kept), after)) : kept.Ran session run stack caller := by
  have none : Children.empty.Ran session run stack caller := fun _ _ found => nomatch found
  exact settle_maintains (fun env block _ name inst called => settleChild_ran env block name inst called)
    (fun _ _ ran => ran) passes scope _ _ _ _ _ none done

end

end Terradoc
