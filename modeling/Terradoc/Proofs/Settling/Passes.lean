import Mathlib.Data.List.Nodup
import Mathlib.Data.List.Pairwise
import Terradoc.Proofs.Lists
import Terradoc.Proofs.Session.Tolerance
import Terradoc.Value.Identity

/-! Passes of a module: what a pass makes of a scope, what it does with the called modules, and passes
without the test that ends them. -/

namespace Terradoc

deriving instance DecidableEq for Scope

theorem Except.ok_of_map {α β ε : Type} {outcome : Except ε α} {project : α → β} {image : β}
    (found : (outcome.map project).toOption = some image) :
    ∃ value, outcome = .ok value ∧ project value = image := by
  cases outcome with
  | error => cases found
  | ok value => exact ⟨value, rfl, Option.some.inj found⟩

theorem Settling.bind_eq_ok {α β : Type} {first : Settling α} {next : α → Settling β}
    {children : Children} {state : RunState} {result : (β × Children) × RunState} :
    (first >>= next) children state = .ok result ↔
      ∃ value kept middle, first children state = .ok ((value, kept), middle) ∧
        next value kept middle = .ok result := by
  obtain ⟨⟨value, after⟩, finish⟩ := result
  show (first children >>= fun result => next result.1 result.2) state = .ok ((value, after), finish) ↔ _
  rw [Running.bind_eq_ok]
  constructor
  · rintro ⟨⟨value, kept⟩, middle, here, there⟩
    exact ⟨value, kept, middle, here, there⟩
  · rintro ⟨value, kept, middle, here, there⟩
    exact ⟨(value, kept), middle, here, there⟩

/-- Each step of a sequence gives its own result. -/
theorem Running.mapM_forall₂ {α β : Type} {step : α → Running β} {items : List α} {results : List β}
    {state after : RunState} (done : items.mapM step state = .ok (results, after)) :
    List.Forall₂ (fun item result => ∃ start finish, step item start = .ok (result, finish))
      items results := by
  induction items generalizing results state with
  | nil =>
    cases done
    exact .nil
  | cons item rest ih =>
    rw [List.mapM_cons, Running.bind_eq_ok] at done
    obtain ⟨first, middle, here, later⟩ := done
    obtain ⟨others, finish, there, last⟩ := Running.bind_eq_ok.mp later
    cases last
    exact .cons ⟨_, _, here⟩ (ih there)

/-- Each step of a sequence gives its own result. -/
theorem Settling.mapM_forall₂ {α β : Type} {step : α → Settling β} {items : List α}
    {results : List β} {children kept : Children} {state after : RunState}
    (done : items.mapM step children state = .ok ((results, kept), after)) :
    List.Forall₂ (fun item result => ∃ before start left finish,
      step item before start = .ok ((result, left), finish)) items results := by
  induction items generalizing results children state with
  | nil =>
    cases done
    exact .nil
  | cons item rest ih =>
    rw [List.mapM_cons, Settling.bind_eq_ok] at done
    obtain ⟨first, between, middle, here, later⟩ := done
    obtain ⟨others, left, finish, there, last⟩ := Settling.bind_eq_ok.mp later
    cases last
    exact .cons ⟨_, _, _, _, here⟩ (ih there)

/-- A sequence of steps that do nothing but give values. -/
theorem Settling.mapM_of_pure {α β : Type} {step : α → Settling β} {value : α → β} {items : List α}
    (each : ∀ item ∈ items, step item = pure (value item)) :
    items.mapM step = pure (items.map value) := by
  induction items with
  | nil => rfl
  | cons item rest ih =>
    rw [List.mapM_cons, each item List.mem_cons_self,
      ih fun other member => each other (List.mem_cons_of_mem _ member)]
    rfl

/-- Where keys are different, each has the value that comes with it. -/
theorem Entries.get?_ofList_map {α β : Type} {items : List α} {key : α → String} {value : α → β}
    (distinct : (items.map key).Nodup) {item : α} (member : item ∈ items) :
    Entries.get? (Entries.ofList (items.map fun item => (key item, value item))) (key item) =
      some (value item) := by
  refine Entries.get?_ofList_of_single (List.mem_map.mpr ⟨item, member, rfl⟩) fun other found => ?_
  obtain ⟨twin, among, same⟩ := List.mem_map.mp found
  obtain ⟨equal, rfl⟩ := Prod.mk.inj same
  rw [List.inj_on_of_nodup_map distinct among member equal]

/-- Where keys are different, no two items have the same one. -/
theorem eq_of_nodup_filterMap {α β : Type} {items : List α} {key : α → Option β}
    (distinct : (items.filterMap key).Nodup) {first second : α} (here : first ∈ items)
    (there : second ∈ items) {value : β} (one : key first = some value)
    (two : key second = some value) : first = second := by
  have symmetric : Std.Symm fun left right : α => ∀ value, key left = some value →
      ∀ other, key right = some other → value ≠ other :=
    ⟨fun _ _ differ other there value here same => differ value here other there same.symm⟩
  by_contra differ
  exact (List.pairwise_filterMap.mp distinct).forall here there differ value one value two rfl

def blockValue (env : Environment) (block : SourceBlock) : Value :=
  collectInstances ((instancesOrSingle env block.body).map fun inst =>
    (inst.key, resourceValue (inst.environment env) block))

def BlockKind.callName? : BlockKind → Option String
  | .module name => some name
  | _ => none

theorem BlockKind.isReplicable_of_call {kind : BlockKind} {name : String}
    (called : kind.callName? = some name) : kind.isReplicable = true := by
  cases kind <;> cases called
  rfl

/-- Resources and data sources can be made several times, and call no module. -/
theorem BlockKind.of_typed {kind : BlockKind} (typed : kind.typedKind?.isSome) :
    kind.isReplicable = true ∧ kind.callName? = none := by
  cases kind with
  | resource | data => exact ⟨rfl, rfl⟩
  | _ => cases typed

section

variable (session : Session) (run : Runner) (stack : List Path) (caller : ModuleCall)

/-- A block that calls no module has its value whatever was done before. -/
theorem settleBlock_of_resource (env : Environment) {block : SourceBlock}
    (resource : block.kind.callName? = none) :
    settleBlock session run stack caller env block =
      pure (block.address, blockValue env block) := by
  have values (inst : Instance) : settleInstance session run stack caller env block inst =
      pure (resourceValue (inst.environment env) block) := by
    unfold settleInstance
    split
    · rename_i name called
      rw [called] at resource
      cases resource
    · rfl
  simp only [settleBlock, values, pure_bind, List.mapM_pure, blockValue]

theorem settleBlock_address {env : Environment} {block : SourceBlock} {children kept : Children}
    {state after : RunState} {result : String × Value}
    (done : settleBlock session run stack caller env block children state =
      .ok ((result, kept), after)) : result.1 = block.address := by
  obtain ⟨values, _, _, _, last⟩ := Settling.bind_eq_ok.mp done
  cases last
  rfl

/-- What is known of a called module before its instance is settled in a pass: a run with the same
inputs. -/
def Children.kept? (children : Children) (path : String) (inputs : Inputs) : Option ChildRun :=
  (Entries.get? children.runs path).filter fun child => sameInputs child.inputs inputs

/-- Called modules with one more instance. -/
def Children.add (children : Children) (path : String) (child : ChildRun) : Children :=
  ⟨Entries.insert children.runs path child, children.order ++ [path]⟩

/-- The path of an instance of a block within its module. -/
def instancePath (block : SourceBlock) (inst : Instance) : String :=
  block.address ++ keySuffix inst.key

/-- An instance of a module call is what is kept of it, or else is run. -/
theorem settleChild_apply (env : Environment) (block : SourceBlock) (name : String)
    (inst : Instance) (children : Children) :
    let path := instancePath block inst
    let inputs := childInputs env path block.body
    settleChild session run stack caller env block name inst.key children =
      match children.kept? path inputs with
      | some child => pure (child.value path name, children.add path child)
      | none =>
        runChild session run (caller.lead ++ path)
            (childCall session stack caller env name path inputs block.body) >>= fun outcome =>
          pure ((ChildRun.mk inputs outcome).value path name,
            children.add path (ChildRun.mk inputs outcome)) := by
  intro path inputs
  let add (child : ChildRun) : Settling Value := do
    set (children.add path child)
    return child.value path name
  let outcome := runChild session run (caller.lead ++ path)
    (childCall session stack caller env name path inputs block.body)
  have start : settleChild session run stack caller env block name inst.key children =
    (match children.kept? path inputs with
      | some child => add child
      | none => do add (← ChildRun.mk inputs <$> (outcome : Settling (Option ModuleRun)))) children := rfl
  rw [start]
  cases children.kept? path inputs with
  | some child => rfl
  | none =>
    funext state
    show (((outcome state >>= _) >>= _) >>= _) = outcome state >>= _
    cases outcome state <;> rfl

theorem runChild_of_call {lead : String} {call : ModuleCall} {state after : RunState}
    {outcome : Option ModuleRun} :
    runChild session run lead (.ok call) state = .ok (outcome, after) ↔
      ∃ made, run call state = .ok (made, after) ∧ outcome = some made := by
  rw [runChild, map_eq_pure_bind, Running.bind_eq_ok]
  constructor
  · rintro ⟨made, _, ran, last⟩
    cases last
    exact ⟨made, ran, rfl⟩
  · rintro ⟨made, ran, rfl⟩
    exact ⟨made, after, ran, rfl⟩

theorem runChild_of_fault {lead : String} {fault : ModuleFault} {state after : RunState}
    {outcome : Option ModuleRun} :
    runChild session run lead (.error fault) state = .ok (outcome, after) ↔
      session.report (.module lead fault) state = .ok ((), after) ∧ outcome = none := by
  rw [runChild, Running.bind_eq_ok]
  constructor
  · rintro ⟨_, _, reported, last⟩
    cases last
    exact ⟨reported, rfl⟩
  · rintro ⟨reported, rfl⟩
    exact ⟨(), after, reported, rfl⟩

variable (blocks : List SourceBlock)

/-- The scope in which a pass evaluates blocks: with the new locals and the blocks of before. -/
def Session.blockScope (scope : Scope) : Scope :=
  { scope with locals := settleLocals (session.environment scope) blocks }

theorem settlePass_eq_ok {scope next : Scope} {children kept : Children} {state after : RunState} :
    settlePass session run stack caller blocks scope children state = .ok ((next, kept), after) ↔
      ∃ values, next = { session.blockScope blocks scope with blocks := Entries.ofList values } ∧
        (blocks.filter (·.kind.isReplicable)).mapM
          (settleBlock session run stack caller
            (session.environment (session.blockScope blocks scope)))
          ⟨children.runs, []⟩ state = .ok ((values, kept), after) := by
  have cleared : settlePass session run stack caller blocks scope children =
      (do
        let values ← (blocks.filter (·.kind.isReplicable)).mapM
          (settleBlock session run stack caller
            (session.environment (session.blockScope blocks scope)))
        return { session.blockScope blocks scope with blocks := Entries.ofList values } :
          Settling Scope) ⟨children.runs, []⟩ := rfl
  rw [cleared, Settling.bind_eq_ok]
  constructor
  · rintro ⟨values, left, finish, here, last⟩
    cases last
    exact ⟨values, rfl, here⟩
  · rintro ⟨values, rfl, here⟩
    exact ⟨values, kept, after, here, rfl⟩

/-- Settling makes a pass, and ends with it if it changed nothing. -/
theorem settle_succ {passes : Nat} {scope final : Scope} {children kept : Children}
    {state after : RunState} :
    settle session run stack caller blocks (passes + 1) scope children state =
        .ok ((final, kept), after) ↔
      ∃ next known middle, settlePass session run stack caller blocks scope children state =
          .ok ((next, known), middle) ∧
        (next.settledFrom scope = true ∧ next = final ∧ known = kept ∧ middle = after ∨
          next.settledFrom scope = false ∧
            settle session run stack caller blocks passes next known middle =
              .ok ((final, kept), after)) := by
  refine Settling.bind_eq_ok.trans (exists_congr fun next => exists_congr fun known =>
    exists_congr fun middle => and_congr_right fun _ => ?_)
  cases next.settledFrom scope with
  | true =>
    constructor
    · intro done
      cases done
      exact .inl ⟨rfl, rfl, rfl, rfl⟩
    · rintro (⟨-, rfl, rfl, rfl⟩ | ⟨changed, -⟩)
      · rfl
      · cases changed
  | false => simp

/-- Passes change nothing of a scope but its locals and blocks. -/
theorem settle_scope {passes : Nat} {scope final : Scope} {children kept : Children}
    {state after : RunState}
    (done : settle session run stack caller blocks passes scope children state =
      .ok ((final, kept), after)) :
    ∃ locals values, final = { scope with locals := locals, blocks := values } := by
  induction passes generalizing scope children state with
  | zero =>
    cases done
    exact ⟨_, _, rfl⟩
  | succ passes ih =>
    obtain ⟨next, left, middle, first, rest⟩ := (settle_succ session run stack caller blocks).mp done
    obtain ⟨values, rfl, -⟩ := (settlePass_eq_ok session run stack caller blocks).mp first
    rcases rest with ⟨-, rfl, -⟩ | ⟨-, more⟩
    · exact ⟨_, _, rfl⟩
    · obtain ⟨locals, values, rfl⟩ := ih more
      exact ⟨locals, values, rfl⟩

/-- What a pass has for a block is what the block settles to, unless a later one has its address. -/
theorem get?_settlePass_last {before rest : List SourceBlock} {block : SourceBlock}
    (replicable : block.kind.isReplicable = true)
    (last : ∀ other ∈ rest, other.kind.isReplicable = true → other.address ≠ block.address)
    {scope next : Scope} {children kept : Children} {state after : RunState}
    (done : settlePass session run stack caller (before ++ block :: rest) scope children state =
      .ok ((next, kept), after)) :
    ∃ result known start left finish, settleBlock session run stack caller
        (session.environment (session.blockScope (before ++ block :: rest) scope)) block known start =
          .ok ((result, left), finish) ∧
      Entries.get? next.blocks block.address = some result.2 := by
  obtain ⟨values, rfl, made⟩ := (settlePass_eq_ok session run stack caller _).mp done
  have parts : (before ++ block :: rest).filter (·.kind.isReplicable) =
      before.filter (·.kind.isReplicable) ++ block :: rest.filter (·.kind.isReplicable) := by
    simp [replicable]
  rw [parts, List.mapM_append, Settling.bind_eq_ok] at made
  obtain ⟨earlier, _, _, -, others⟩ := made
  obtain ⟨more, _, _, tail, ended⟩ := Settling.bind_eq_ok.mp others
  cases ended
  rw [List.mapM_cons, Settling.bind_eq_ok] at tail
  obtain ⟨result, left, finish, here, others⟩ := tail
  obtain ⟨later, _, _, after, ended⟩ := Settling.bind_eq_ok.mp others
  cases ended
  refine ⟨result, _, _, left, finish, here, ?_⟩
  have none : Entries.get? later.reverse block.address = none := by
    rw [Option.eq_none_iff_forall_ne_some]
    intro value found
    obtain ⟨other, among, _, _, _, _, one⟩ := exists_of_forall₂ (Settling.mapM_forall₂ after)
      (List.mem_reverse.mp (Entries.mem_of_get? found))
    obtain ⟨inside, replicated⟩ := List.mem_filter.mp among
    exact last other inside replicated (settleBlock_address _ _ _ _ one).symm
  have address : block.address = result.1 := (settleBlock_address _ _ _ _ here).symm
  rw [Entries.get?_ofList, List.reverse_append, List.reverse_cons, Entries.get?_append,
    Entries.get?_append, none, Option.none_or, Entries.get?_cons, if_pos (beq_iff_eq.mpr address),
    Option.some_or]

/-- What a pass has for a block that calls no module and has its address for itself. -/
theorem get?_settlePass {before rest : List SourceBlock} {block : SourceBlock}
    (replicable : block.kind.isReplicable = true) (resource : block.kind.callName? = none)
    (alone : ∀ other ∈ before ++ rest, other.address ≠ block.address)
    {scope next : Scope} {children kept : Children} {state after : RunState}
    (done : settlePass session run stack caller (before ++ block :: rest) scope children state =
      .ok ((next, kept), after)) :
    Entries.get? next.blocks block.address = some (blockValue
      (session.environment (session.blockScope (before ++ block :: rest) scope)) block) := by
  have last : ∀ other ∈ rest, other.kind.isReplicable = true → other.address ≠ block.address := by
    intro other member _
    exact alone other (List.mem_append_right _ member)
  obtain ⟨result, _, _, _, _, settled, found⟩ :=
    get?_settlePass_last session run stack caller replicable last done
  rw [settleBlock_of_resource _ _ _ _ _ resource] at settled
  cases settled
  exact found

/-- Where a pass gives the scope that it starts from, blocks are evaluated in that scope. -/
theorem blockScope_of_fixed {scope : Scope} {children kept : Children} {state after : RunState}
    (fixed : settlePass session run stack caller blocks scope children state =
      .ok ((scope, kept), after)) : session.blockScope blocks scope = scope := by
  obtain ⟨values, same, -⟩ := (settlePass_eq_ok session run stack caller blocks).mp fixed
  have locals : scope.locals = settleLocals (session.environment scope) blocks :=
    congrArg Scope.locals same
  rw [Session.blockScope, ← locals]

/-- A number of passes, with no test in between. -/
def settlePasses : Nat → Scope → Settling Scope
  | 0, scope => pure scope
  | passes + 1, scope => do
    settlePass session run stack caller blocks (← settlePasses passes scope)

theorem settlePasses_succ (passes : Nat) (scope : Scope) :
    settlePasses session run stack caller blocks (passes + 1) scope =
      settlePass session run stack caller blocks scope >>=
        settlePasses session run stack caller blocks passes := by
  induction passes with
  | zero => simp only [settlePasses, pure_bind, bind_pure]
  | succ passes ih =>
    rw [settlePasses, ih, bind_assoc]
    rfl

/-- Settling makes some number of passes: as many as are allowed, or fewer up to one that changed
nothing. -/
theorem settle_eq_passes {passes : Nat} {scope final : Scope} {children kept : Children}
    {state after : RunState}
    (done : settle session run stack caller blocks passes scope children state =
      .ok ((final, kept), after)) :
    ∃ count ≤ passes, settlePasses session run stack caller blocks count scope children state =
        .ok ((final, kept), after) ∧
      (count < passes → ∃ fewer before known middle, count = fewer + 1 ∧
        settlePasses session run stack caller blocks fewer scope children state =
          .ok ((before, known), middle) ∧ final.settledFrom before = true) := by
  induction passes generalizing scope children state with
  | zero => exact ⟨0, Nat.le_refl 0, done, fun less => absurd less (Nat.lt_irrefl 0)⟩
  | succ passes ih =>
    obtain ⟨next, known, middle, first, rest⟩ := (settle_succ session run stack caller blocks).mp done
    rcases rest with ⟨settled, rfl, rfl, rfl⟩ | ⟨-, more⟩
    · refine ⟨1, Nat.succ_pos passes, ?_, fun _ => ⟨0, scope, children, state, rfl, rfl, settled⟩⟩
      rw [settlePasses_succ]
      exact Settling.bind_eq_ok.mpr ⟨_, _, _, first, rfl⟩
    · obtain ⟨count, bound, made, early⟩ := ih more
      refine ⟨count + 1, Nat.succ_le_succ bound, ?_, fun less => ?_⟩
      · rw [settlePasses_succ]
        exact Settling.bind_eq_ok.mpr ⟨_, _, _, first, made⟩
      · obtain ⟨fewer, before, left, between, rfl, passed, settled⟩ := early (Nat.lt_of_succ_lt_succ less)
        refine ⟨fewer + 1, before, left, between, rfl, ?_, settled⟩
        rw [settlePasses_succ]
        exact Settling.bind_eq_ok.mpr ⟨_, _, _, first, passed⟩

end

end Terradoc
