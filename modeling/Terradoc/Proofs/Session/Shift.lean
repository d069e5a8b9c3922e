import Mathlib.Data.List.Basic
import Terradoc.Proofs.Settling.Passes

namespace Terradoc

section Renaming

variable {ι κ : Type} (rename : ι → κ)

mutual
def NestedBlock.rename : NestedBlock ι → NestedBlock κ
  | .mk identifier labels source attributes blocks id =>
    .mk identifier labels source attributes (renameAll blocks) (rename id)

def renameAll : List (NestedBlock ι) → List (NestedBlock κ)
  | [] => []
  | block :: rest => block.rename :: renameAll rest
end

mutual
theorem NestedBlock.unknownTargets_rename : ∀ block : NestedBlock ι,
    (block.rename rename).unknownTargets = block.unknownTargets
  | .mk _ _ _ _ blocks _ => by
    rw [NestedBlock.rename, NestedBlock.unknownTargets, NestedBlock.unknownTargets,
      nestedTargets_rename blocks]

theorem nestedTargets_rename : ∀ blocks : List (NestedBlock ι),
    nestedTargets (renameAll rename blocks) = nestedTargets blocks
  | [] => by rw [renameAll, nestedTargets, nestedTargets]
  | block :: rest => by
    rw [renameAll, nestedTargets, nestedTargets, block.unknownTargets_rename,
      nestedTargets_rename rest]
end

end Renaming

def Reference.rename (rename : BlockId → BlockId) (reference : Reference) : Reference :=
  { reference with id := rename reference.id }

def Block.rename (rename : BlockId → BlockId) (block : Block) : Block :=
  { block with
    blocks := renameAll rename block.blocks
    references := block.references.map (Reference.rename rename)
    id := rename block.id }

def ModuleRun.rename (rename : BlockId → BlockId) (run : ModuleRun) : ModuleRun :=
  { run with blocks := run.blocks.map (Block.rename rename) }

/-- A called module with other ids. -/
def ChildRun.rename (rename : BlockId → BlockId) (child : ChildRun) : ChildRun :=
  { child with run := child.run.map (ModuleRun.rename rename) }

/-- Called modules with other ids. -/
def Children.rename (rename : BlockId → BlockId) (children : Children) : Children :=
  { children with runs := children.runs.map fun entry => (entry.1, entry.2.rename rename) }

section Links

variable {rename : BlockId → BlockId}

theorem BlockTarget.select_rename (target : BlockTarget) (blocks : List Block) :
    target.select (blocks.map (Block.rename rename)) =
      (target.select blocks).map (Block.rename rename) := by
  have instances : (blocks.map (Block.rename rename)).filter (target.addresses ·.kind) =
      (blocks.filter (target.addresses ·.kind)).map (Block.rename rename) := List.filter_map
  have keyed (key : InstanceKey) (blocks : List Block) :
      (blocks.map (Block.rename rename)).filter (·.key == some key) =
        (blocks.filter (·.key == some key)).map (Block.rename rename) := List.filter_map
  unfold BlockTarget.select
  rw [instances]
  cases target.key with
  | none => rfl
  | some key =>
    dsimp only
    rw [keyed, List.isEmpty_map]
    split <;> rfl

variable (injective : Function.Injective rename)
include injective

theorem rename_beq (left right : BlockId) : (rename left == rename right) = (left == right) := by
  rw [Bool.eq_iff_iff, beq_iff_eq, beq_iff_eq]
  exact injective.eq_iff

theorem firstReferences_rename (references : List Reference) :
    firstReferences (references.map (Reference.rename rename)) =
      (firstReferences references).map (Reference.rename rename) := by
  have step : ∀ references kept : List Reference,
      (references.map (Reference.rename rename)).foldl (fun kept reference =>
          if kept.any fun other => other.id == reference.id then kept else reference :: kept)
        (kept.map (Reference.rename rename)) =
      (references.foldl (fun kept reference =>
          if kept.any fun other => other.id == reference.id then kept else reference :: kept)
        kept).map (Reference.rename rename) := by
    intro references
    induction references with
    | nil => exact fun _ => rfl
    | cons reference rest ih =>
      intro kept
      have known : ((kept.map (Reference.rename rename)).any fun other =>
          other.id == (reference.rename rename).id) =
            kept.any fun other => other.id == reference.id := by
        rw [List.any_map]
        exact congrArg kept.any (funext fun other => rename_beq injective other.id reference.id)
      rw [List.map_cons, List.foldl_cons, List.foldl_cons, known]
      split
      · exact ih kept
      · exact ih (reference :: kept)
  rw [firstReferences, firstReferences, List.map_reverse]
  exact congrArg List.reverse (step references [])

theorem linkTargets_rename (targets : List BlockTarget) (blocks : List Block) (self : BlockId) :
    linkTargets targets (blocks.map (Block.rename rename)) (rename self) =
      (linkTargets targets blocks self).map (Reference.rename rename) := by
  have selected : (targets.flatMap fun target =>
      (target.select (blocks.map (Block.rename rename))).map target.referenceTo) =
        (targets.flatMap fun target =>
          (target.select blocks).map target.referenceTo).map (Reference.rename rename) := by
    rw [List.map_flatMap]
    refine congrArg (List.flatMap · targets) (funext fun target => ?_)
    rw [target.select_rename, List.map_map, List.map_map]
    rfl
  rw [linkTargets, linkTargets, selected, ← firstReferences_rename injective, List.filter_map]
  refine congrArg (fun kept => firstReferences (List.map _ (List.filter kept _))) (funext fun found => ?_)
  exact congrArg not (rename_beq injective found.id self)

/-- Links do not depend on the numbers of ids. -/
theorem linkBlocks_rename (made : List (SourceBlock × Block)) :
    linkBlocks (made.map (Prod.map id (Block.rename rename))) =
      (linkBlocks made).map (Block.rename rename) := by
  have blocks : (made.map (Prod.map id (Block.rename rename))).map Prod.snd =
      (made.map Prod.snd).map (Block.rename rename) := by
    rw [List.map_map, List.map_map]
    rfl
  rw [linkBlocks, linkBlocks, blocks]
  refine List.map_map.trans ((List.map_congr_left ?_).trans List.map_map.symm)
  rintro ⟨source, block⟩ -
  have same : candidates source (block.rename rename) = candidates source block := by
    rw [candidates, candidates, Block.rename, nestedTargets_rename]
  dsimp only [Function.comp_apply, Prod.map_apply, id_eq]
  rw [same]
  exact congrArg (fun references => { block.rename rename with references := references })
    (linkTargets_rename injective _ _ block.id)

end Links

/-- Outputs do not depend on ids. -/
theorem outputValues_rename (rename : BlockId → BlockId) (blocks : List Block) :
    outputValues (blocks.map (Block.rename rename)) = outputValues blocks := by
  rw [outputValues, outputValues, List.filterMap_map]
  rfl

theorem Children.blocks_rename (rename : BlockId → BlockId) (children : Children) :
    (children.rename rename).blocks = children.blocks.map (Block.rename rename) := by
  rw [Children.blocks, Children.blocks, List.map_flatMap]
  refine congrArg (List.flatMap · _) (funext fun path => ?_)
  rw [Children.rename, Entries.get?_map]
  cases Entries.get? children.runs path with
  | none => rfl
  | some child =>
    cases run : child.run with
    | none => simp [ChildRun.rename, run]
    | some => simp [ChildRun.rename, run, ModuleRun.rename]

def BlockId.after (drawn : Nat) (id : BlockId) : BlockId := ⟨drawn + id.number⟩

theorem BlockId.after_injective (drawn : Nat) : Function.Injective (BlockId.after drawn) := by
  rintro ⟨left⟩ ⟨right⟩ same
  exact congrArg BlockId.mk (Nat.add_left_cancel (BlockId.mk.inj same))

/-- A state that is reached after another one. -/
def RunState.after (drawn : Nat) (noted : List LoadError) (state : RunState) : RunState :=
  ⟨drawn + state.drawn, noted ++ state.tolerated⟩

mutual
theorem NestedBlock.draw_after (before drawn : Nat) : ∀ block : NestedBlock Unit,
    block.draw (before + drawn) =
      ((block.draw drawn).1.rename (BlockId.after before), before + (block.draw drawn).2)
  | .mk _ _ _ _ blocks _ => by
    rw [NestedBlock.draw, NestedBlock.draw, drawAll_after before drawn blocks]
    rfl

theorem drawAll_after (before drawn : Nat) : ∀ blocks : List (NestedBlock Unit),
    drawAll (before + drawn) blocks =
      (renameAll (BlockId.after before) (drawAll drawn blocks).1, before + (drawAll drawn blocks).2)
  | [] => by rw [drawAll, drawAll, renameAll]
  | block :: rest => by
    rw [drawAll, drawAll, block.draw_after before drawn]
    dsimp only
    rw [drawAll_after before (block.draw drawn).2 rest, renameAll]
end

/-- The second computation does after others what the first one does, with a change of its result. -/
def Running.Shifts (drawn : Nat) (noted : List LoadError) {α : Type} (change : α → α)
    (first second : Running α) : Prop :=
  ∀ state, second (state.after drawn noted) =
    (first state).map fun (value, finish) => (change value, finish.after drawn noted)

namespace Running.Shifts

variable {drawn : Nat} {noted : List LoadError} {α β : Type} {change : α → α} {turn : β → β}

theorem pure (value : α) : Shifts drawn noted change (Pure.pure value) (Pure.pure (change value)) :=
  fun _ => rfl

theorem bind {first second : Running α} {next after : α → Running β}
    (start : Shifts drawn noted change first second)
    (rest : ∀ value, Shifts drawn noted turn (next value) (after (change value))) :
    Shifts drawn noted turn (first >>= next) (second >>= after) := by
  intro state
  show (second (state.after drawn noted) >>= fun result => after result.1 result.2) =
    (first state >>= fun result => next result.1 result.2).map _
  rw [start state]
  cases first state with
  | error => rfl
  | ok result => exact rest result.1 result.2

theorem ofExcept (result : Except LoadError α) :
    Shifts drawn noted id (Running.ofExcept result) (Running.ofExcept result) := by
  cases result <;> exact fun _ => rfl

theorem throw (error : LoadError) :
    Shifts drawn noted change (MonadExcept.throw error) (MonadExcept.throw error) := fun _ => rfl

theorem draw : Shifts drawn noted (BlockId.after drawn) Running.draw Running.draw := fun _ => rfl

theorem drawNested (blocks : List (NestedBlock Unit)) :
    Shifts drawn noted (renameAll (BlockId.after drawn)) (Running.drawNested blocks)
      (Running.drawNested blocks) := by
  intro state
  have drew := drawAll_after drawn state.drawn blocks
  show Except.ok ((drawAll (drawn + state.drawn) blocks).1,
    RunState.mk (drawAll (drawn + state.drawn) blocks).2 (noted ++ state.tolerated)) = _
  rw [drew]
  rfl

theorem mapM {step after : α → Running β} (one : ∀ item, Shifts drawn noted turn (step item) (after item))
    (items : List α) :
    Shifts drawn noted (List.map turn) (items.mapM step) (items.mapM after) := by
  induction items with
  | nil => exact .pure []
  | cons item rest ih =>
    simp only [List.mapM_cons]
    exact (one item).bind fun first => ih.bind fun others => .pure (first :: others)

theorem forM {step : α → Running PUnit} (one : ∀ item, Shifts drawn noted id (step item) (step item))
    (items : List α) : Shifts drawn noted id (items.forM step) (items.forM step) := by
  induction items with
  | nil => exact .pure ()
  | cons item rest ih => exact (one item).bind fun _ => ih

end Running.Shifts

section Runs

open Running

variable {drawn : Nat} {noted : List LoadError} (session : Session)

theorem report_shifts (error : LoadError) :
    Shifts drawn noted id (session.report error) (session.report error) := by
  unfold Session.report
  split
  · intro state
    show Except.ok (PUnit.unit, RunState.mk _ ((noted ++ state.tolerated) ++ [error])) = _
    rw [List.append_assoc]
    rfl
  · exact .throw error

theorem accept_shifts {α : Type} (result : Noted α) :
    Shifts drawn noted id (session.accept result) (session.accept result) :=
  .bind (.forM (fun _ => report_shifts session _) _) fun _ => .pure result.value

theorem fileBlocks_shifts (file : Path) :
    Shifts drawn noted id (session.fileBlocks file) (session.fileBlocks file) := by
  unfold Session.fileBlocks
  split
  · exact .bind (report_shifts session _) fun _ => .pure []
  · exact .bind (.forM (fun _ => report_shifts session _) _) fun _ => .pure _

theorem moduleBlocks_shifts (directory : Path) :
    Shifts drawn noted id (session.moduleBlocks directory) (session.moduleBlocks directory) := by
  unfold Session.moduleBlocks
  split
  · exact .throw _
  · rename_i paths _
    refine .bind (.mapM (fileBlocks_shifts session) paths) fun found => ?_
    rw [List.map_id]
    exact .pure found.flatten

section Making

variable (call : ModuleCall) (env : Environment) (declarations : List VariableDeclaration)
  (source : SourceBlock)

theorem makeInstance_shifts (inst : Instance) :
    Shifts drawn noted (Block.rename (BlockId.after drawn))
      (makeInstance session call env declarations source inst)
      (makeInstance session call env declarations source inst) := by
  refine .bind .draw fun id => .bind (accept_shifts session _) fun body => ?_
  exact .bind (.drawNested body.blocks) fun nested => .pure _

theorem makeBlock_shifts :
    Shifts drawn noted (List.map (Prod.map id (Block.rename (BlockId.after drawn))))
      (makeBlock session call env declarations source)
      (makeBlock session call env declarations source) := by
  refine .bind (accept_shifts session _) fun all => .mapM (fun inst => ?_) all
  refine .bind (makeInstance_shifts session call env declarations source inst) fun made => ?_
  exact .pure (source, made)

end Making

/-- A computation gives the same after other ids were drawn, with these ids in the called modules. -/
def SettlesAlike (drawn : Nat) (noted : List LoadError) {α : Type} (comp : Settling α) : Prop :=
  ∀ children, Shifts drawn noted (Prod.map id (Children.rename (BlockId.after drawn)))
    (comp children) (comp (children.rename (BlockId.after drawn)))

namespace SettlesAlike

variable {α β : Type}

theorem pure (value : α) : SettlesAlike drawn noted (Pure.pure value) := fun _ => .pure _

theorem bind {first : Settling α} {next : α → Settling β} (start : SettlesAlike drawn noted first)
    (rest : ∀ value, SettlesAlike drawn noted (next value)) :
    SettlesAlike drawn noted (first >>= next) := by
  intro children
  show Shifts drawn noted _ (first children >>= fun result => next result.1 result.2)
    (first _ >>= fun result => next result.1 result.2)
  exact .bind (start children) fun result => rest result.1 result.2

theorem mapM {step : α → Settling β} (one : ∀ item, SettlesAlike drawn noted (step item))
    (items : List α) : SettlesAlike drawn noted (items.mapM step) := by
  induction items with
  | nil => exact .pure []
  | cons item rest ih =>
    simp only [List.mapM_cons]
    exact (one item).bind fun first => ih.bind fun others => .pure (first :: others)

end SettlesAlike

theorem Children.kept?_rename (rename : BlockId → BlockId) (children : Children) (path : String)
    (inputs : Inputs) :
    (children.rename rename).kept? path inputs =
      (children.kept? path inputs).map (ChildRun.rename rename) := by
  rw [Children.kept?, Children.kept?, Children.rename, Entries.get?_map, Option.filter_map]
  rfl

theorem Children.add_rename (rename : BlockId → BlockId) (children : Children) (path : String)
    (child : ChildRun) :
    (children.rename rename).add path (child.rename rename) =
      (children.add path child).rename rename := by
  rw [Children.add, Children.add, Children.rename, Children.rename, Entries.insert_map]

theorem ChildRun.value_rename (rename : BlockId → BlockId) (child : ChildRun) (path name : String) :
    (child.rename rename).value path name = child.value path name := by
  obtain ⟨inputs, run⟩ := child
  cases run <;> rfl

section Settling

variable {run : Runner} (runs : ∀ call,
  Shifts drawn noted (ModuleRun.rename (BlockId.after drawn)) (run call) (run call))
  (stack : List Path) (caller : ModuleCall)
include runs

theorem runChild_shifts (lead : String) (call : Except ModuleFault ModuleCall) :
    Shifts drawn noted (Option.map (ModuleRun.rename (BlockId.after drawn)))
      (runChild session run lead call) (runChild session run lead call) := by
  cases call with
  | error fault => exact .bind (report_shifts session _) fun _ => .pure none
  | ok call =>
    simp only [runChild, map_eq_pure_bind]
    exact .bind (runs call) fun made => .pure (some made)

theorem settleChild_alike (env : Environment) (block : SourceBlock) (name : String)
    (inst : Instance) :
    SettlesAlike drawn noted (settleChild session run stack caller env block name inst.key) := by
  intro children
  rw [settleChild_apply, settleChild_apply, Children.kept?_rename]
  cases children.kept? (instancePath block inst)
      (childInputs env (instancePath block inst) block.body) with
  | some child =>
    simp only [Option.map_some, ChildRun.value_rename, Children.add_rename]
    exact .pure _
  | none =>
    refine .bind (runChild_shifts session runs _ _) fun outcome => ?_
    have renamed (inputs : Inputs) : ChildRun.mk inputs (outcome.map (ModuleRun.rename _)) =
        (ChildRun.mk inputs outcome).rename (BlockId.after drawn) := rfl
    rw [renamed, ChildRun.value_rename, Children.add_rename]
    exact .pure _

theorem settleBlock_alike (env : Environment) (block : SourceBlock) :
    SettlesAlike drawn noted (settleBlock session run stack caller env block) := by
  refine .bind (.mapM (fun inst => .bind ?_ fun _ => .pure _) _) fun _ => .pure _
  unfold settleInstance
  split
  · exact settleChild_alike session runs stack caller _ block _ inst
  · exact .pure _

theorem settlePass_alike (blocks : List SourceBlock) (scope : Scope) :
    SettlesAlike drawn noted (settlePass session run stack caller blocks scope) := by
  refine .bind (fun children => .pure ((), _)) fun _ => ?_
  exact .bind (.mapM (settleBlock_alike session runs stack caller _) _) fun values => .pure _

theorem settle_alike (blocks : List SourceBlock) (passes : Nat) (scope : Scope) :
    SettlesAlike drawn noted (settle session run stack caller blocks passes scope) := by
  induction passes generalizing scope with
  | zero => exact .pure scope
  | succ passes ih =>
    refine .bind (settlePass_alike session runs stack caller blocks scope) fun next => ?_
    split
    · exact .pure next
    · exact ih next

theorem evaluateModule_shifts (blocks : List SourceBlock) :
    Shifts drawn noted (ModuleRun.rename (BlockId.after drawn))
      (evaluateModule session run stack caller blocks)
      (evaluateModule session run stack caller blocks) := by
  refine .bind (.ofExcept _) fun inputs => ?_
  refine .bind (settle_alike session runs stack caller blocks maxPasses _ .empty) fun settled => ?_
  obtain ⟨scope, children⟩ := settled
  refine .bind (.mapM (makeBlock_shifts session caller _ _) blocks) fun made => ?_
  rw [← List.map_flatten, linkBlocks_rename (BlockId.after_injective drawn)]
  dsimp only [Prod.map_apply]
  rw [outputValues_rename, Children.blocks_rename, ← List.map_append]
  exact .pure _

end Settling

/-- What was drawn and noted before changes nothing of the run of a module but its ids. -/
theorem runModule_shifts (fuel : Nat) (stack : List Path) (call : ModuleCall) :
    Shifts drawn noted (ModuleRun.rename (BlockId.after drawn))
      (runModule session fuel stack call) (runModule session fuel stack call) := by
  induction fuel generalizing stack call with
  | zero => exact .throw .tooDeep
  | succ fuel ih =>
    refine .bind (moduleBlocks_shifts session call.directory) fun blocks => ?_
    exact evaluateModule_shifts session (ih _) _ call blocks

end Runs

/-- A run of a module from any state is the run from the start, with ids after those that are drawn. -/
theorem runModule_from_start (session : Session) (fuel : Nat) (stack : List Path) (call : ModuleCall)
    (state : RunState) :
    runModule session fuel stack call state =
      (runModule session fuel stack call .start).map fun (run, finish) =>
        (run.rename (BlockId.after state.drawn), finish.after state.drawn state.tolerated) := by
  have here : RunState.start.after state.drawn state.tolerated = state := by
    rw [RunState.after, RunState.start, Nat.add_zero, List.append_nil]
  have shifted : runModule session fuel stack call (RunState.start.after state.drawn state.tolerated) =
      (runModule session fuel stack call .start).map _ := runModule_shifts session fuel stack call .start
  rwa [here] at shifted

end Terradoc
