import Terradoc.Proofs.Replication.Instances
import Terradoc.Proofs.Settling.Passes

namespace Terradoc

/-- A computation settles the called modules at some paths in order, and leaves all others alone. -/
structure Visits {α : Type} (paths : List String) (comp : Settling α) : Prop where
  order : ∀ {children kept : Children} {state after : RunState} {value : α},
    comp children state = .ok ((value, kept), after) → kept.order = children.order ++ paths
  frame : ∀ {children kept : Children} {state after : RunState} {value : α},
    comp children state = .ok ((value, kept), after) →
      ∀ path ∉ paths, Entries.get? kept.runs path = Entries.get? children.runs path

namespace Visits

variable {α β : Type}

theorem pure (value : α) : Visits [] (Pure.pure value) where
  order done := by
    cases done
    exact (List.append_nil _).symm
  frame done _ _ := by
    cases done
    rfl

theorem bind {first : Settling α} {next : α → Settling β} {here there : List String}
    (start : Visits here first) (rest : ∀ value, Visits there (next value)) :
    Visits (here ++ there) (first >>= next) where
  order done := by
    obtain ⟨value, _, _, early, late⟩ := Settling.bind_eq_ok.mp done
    rw [(rest value).order late, start.order early, List.append_assoc]
  frame done path absent := by
    obtain ⟨value, _, _, early, late⟩ := Settling.bind_eq_ok.mp done
    rw [List.mem_append, not_or] at absent
    rw [(rest value).frame late path absent.2, start.frame early path absent.1]

/-- What leads on with no further call of a module. -/
theorem bindPure {first : Settling α} {paths : List String} (start : Visits paths first)
    (wrap : α → β) : Visits paths (first >>= fun value => Pure.pure (wrap value)) :=
  List.append_nil paths ▸ start.bind fun value => .pure (wrap value)

theorem mapM {step : α → Settling β} {paths : α → List String}
    (one : ∀ item, Visits (paths item) (step item)) (items : List α) :
    Visits (items.flatMap paths) (items.mapM step) := by
  induction items with
  | nil => exact .pure []
  | cons item rest ih =>
    simp only [List.mapM_cons, List.flatMap_cons]
    exact (one item).bind fun first => ih.bindPure (first :: ·)

end Visits

def callPaths (env : Environment) (block : SourceBlock) : List String :=
  if block.kind.callName?.isSome then
    (instancesOrSingle env block.body).map (instancePath block)
  else []

section

variable (session : Session) (run : Runner) (stack : List Path) (caller : ModuleCall)
  (env : Environment)

/-- What an instance of a module call leaves at its path. -/
theorem settleChild_leaves {block : SourceBlock} {name : String} {inst : Instance}
    {children kept : Children} {state after : RunState} {value : Value}
    (done : settleChild session run stack caller env block name inst.key children state =
      .ok ((value, kept), after)) :
    ∃ child, kept = children.add (instancePath block inst) child ∧
      value = child.value (instancePath block inst) name ∧
      (Entries.get? children.runs (instancePath block inst) = some child ∧
          sameInputs child.inputs (childInputs env (instancePath block inst) block.body) = true ∨
        child.inputs = childInputs env (instancePath block inst) block.body ∧
          ∃ start finish, runChild session run (caller.lead ++ instancePath block inst)
            (childCall session stack caller env name (instancePath block inst) child.inputs block.body)
            start = .ok (child.run, finish)) := by
  rw [settleChild_apply] at done
  split at done
  · rename_i child found
    cases done
    exact ⟨child, rfl, rfl, .inl (Option.filter_eq_some_iff.mp found)⟩
  · obtain ⟨outcome, _, ran, last⟩ := Running.bind_eq_ok.mp done
    cases last
    exact ⟨_, rfl, rfl, .inr ⟨rfl, _, _, ran⟩⟩

theorem settleChild_visits (block : SourceBlock) (name : String) (inst : Instance) :
    Visits [instancePath block inst]
      (settleChild session run stack caller env block name inst.key) where
  order done := by
    obtain ⟨child, rfl, -, -⟩ := settleChild_leaves _ _ _ _ _ done
    rfl
  frame done path absent := by
    obtain ⟨child, rfl, -, -⟩ := settleChild_leaves _ _ _ _ _ done
    rw [Children.add, Entries.get?_insert, if_neg]
    simpa using absent

theorem settleKeyed_visits (block : SourceBlock) (name : String) (inst : Instance) :
    Visits [instancePath block inst]
      (settleChild session run stack caller (inst.environment env) block name inst.key >>= fun value =>
        pure (inst.key, value)) :=
  (settleChild_visits ..).bindPure _

/-- A block that calls a module settles each of its instances. -/
theorem settleBlock_of_call {block : SourceBlock} {name : String}
    (called : block.kind.callName? = some name) :
    settleBlock session run stack caller env block =
      ((instancesOrSingle env block.body).mapM fun inst =>
        settleChild session run stack caller (inst.environment env) block name inst.key >>= fun value =>
          pure (inst.key, value)) >>= fun values => pure (block.address, collectInstances values) := by
  have module : block.kind = .module name := by
    cases kind : block.kind <;> rw [kind] at called <;> cases called
    rfl
  have one (inst : Instance) : settleInstance session run stack caller env block inst =
      settleChild session run stack caller (inst.environment env) block name inst.key := by
    rw [settleInstance, module]
  simp only [settleBlock, one]

theorem settleBlock_visits (block : SourceBlock) :
    Visits (callPaths env block) (settleBlock session run stack caller env block) := by
  cases called : block.kind.callName? with
  | none =>
    rw [settleBlock_of_resource _ _ _ _ _ called, callPaths, called]
    exact .pure _
  | some name =>
    rw [settleBlock_of_call _ _ _ _ _ called, callPaths, called, Option.isSome_some,
      if_pos rfl, List.map_eq_flatMap]
    exact (Visits.mapM (settleKeyed_visits session run stack caller env block name) _).bindPure _

end

/-- A pass settles the called modules of all blocks. -/
theorem settlePass_visits (session : Session) (run : Runner) (stack : List Path) (caller : ModuleCall)
    (blocks : List SourceBlock) {scope next : Scope} {children kept : Children}
    {state after : RunState}
    (done : settlePass session run stack caller blocks scope children state =
      .ok ((next, kept), after)) :
    kept.order = (blocks.filter (·.kind.isReplicable)).flatMap
        (callPaths (session.environment (session.blockScope blocks scope))) ∧
      ∀ path ∉ kept.order, Entries.get? kept.runs path = Entries.get? children.runs path := by
  obtain ⟨values, -, made⟩ := (settlePass_eq_ok session run stack caller blocks).mp done
  have visits := Visits.mapM (settleBlock_visits session run stack caller
    (session.environment (session.blockScope blocks scope))) (blocks.filter (·.kind.isReplicable))
  have order := visits.order made
  rw [List.nil_append] at order
  exact ⟨order, fun path absent => visits.frame made path (order ▸ absent)⟩

/-- What a step leaves of its own called modules is what is left of them in the end. -/
theorem Visits.mapM_rows {α β : Type} {step : α → Settling β} {paths : α → List String}
    (one : ∀ item, Visits (paths item) (step item)) {items : List α}
    (distinct : (items.flatMap paths).Nodup) {children kept : Children} {state after : RunState}
    {values : List β} (made : items.mapM step children state = .ok ((values, kept), after)) :
    List.Forall₂ (fun item value => ∃ before start left finish,
      step item before start = .ok ((value, left), finish) ∧
        ∀ path ∈ paths item, Entries.get? kept.runs path = Entries.get? left.runs path)
      items values := by
  induction items generalizing children state values with
  | nil =>
    cases made
    exact .nil
  | cons first rest ih =>
    rw [List.flatMap_cons] at distinct
    obtain ⟨-, later, apart⟩ := List.nodup_append'.mp distinct
    rw [List.mapM_cons, Settling.bind_eq_ok] at made
    obtain ⟨value, between, middle, here, made⟩ := made
    obtain ⟨others, left, finish, there, last⟩ := Settling.bind_eq_ok.mp made
    cases last
    exact .cons ⟨children, state, between, middle, here, fun path inside =>
      (Visits.mapM one rest).frame there path (apart inside)⟩ (ih later there)

theorem Visits.mapM_leaves {α β : Type} {step : α → Settling β} {paths : α → List String}
    (one : ∀ item, Visits (paths item) (step item)) {items : List α}
    (distinct : (items.flatMap paths).Nodup) {children kept : Children} {state after : RunState}
    {values : List β} (made : items.mapM step children state = .ok ((values, kept), after)) {item : α}
    (member : item ∈ items) :
    ∃ before start value left finish, step item before start = .ok ((value, left), finish) ∧
      ∀ path ∈ paths item, Entries.get? kept.runs path = Entries.get? left.runs path := by
  obtain ⟨value, -, before, start, left, finish, rest⟩ :=
    exists_of_forall₂ (Visits.mapM_rows one distinct made).flip member
  exact ⟨before, start, value, left, finish, rest⟩

/-- Calls of modules with different names, which hold no bracket: keys of instances begin with one. -/
structure DistinctCalls (blocks : List SourceBlock) : Prop where
  names : (blocks.filterMap (·.kind.callName?)).Nodup
  plain : ∀ block ∈ blocks, ∀ name, block.kind.callName? = some name → '[' ∉ name.toList

theorem keySuffix_bracket (key : Option InstanceKey) :
    keySuffix key = "" ∨ ∃ rest, keySuffix key = "[" ++ rest := by
  cases key with
  | none => exact .inl rfl
  | some key =>
    cases key with
    | index position => exact .inr ⟨toString position ++ "]", String.append_assoc ..⟩
    | key name => exact .inr ⟨"\"" ++ name ++ "\"]", by
        rw [← String.append_assoc, ← String.append_assoc]
        rfl⟩

theorem BlockKind.address_of_call {kind : BlockKind} {name : String}
    (called : kind.callName? = some name) : kind.address = "module." ++ name := by
  cases kind <;> cases called
  rfl

/-- The path of an instance tells the name of the module call. -/
theorem callName_of_instancePath {block other : SourceBlock} {name second : String}
    (called : block.kind.callName? = some name) (calls : other.kind.callName? = some second)
    (plain : '[' ∉ name.toList) (simple : '[' ∉ second.toList) {inst twin : Instance}
    (same : instancePath block inst = instancePath other twin) : name = second := by
  have cut {name : String} (plain : '[' ∉ name.toList) (key : Option InstanceKey) :
      (name ++ keySuffix key).toList.takeWhile (· != '[') = name.toList := by
    have whole : ∀ letter ∈ name.toList, (letter != '[') = true := fun letter member =>
      bne_iff_ne.mpr fun bracket => plain (bracket ▸ member)
    rw [String.toList_append, List.takeWhile_append_of_pos whole]
    obtain none | ⟨rest, some⟩ := keySuffix_bracket key
    · rw [none]
      exact List.append_nil _
    · rw [some, String.toList_append]
      exact List.append_nil _
  rw [instancePath, instancePath, SourceBlock.address, SourceBlock.address,
    BlockKind.address_of_call called, BlockKind.address_of_call calls, String.append_assoc,
    String.append_assoc, String.append_right_inj] at same
  exact String.toList_inj.mp (by rw [← cut plain inst.key, same, cut simple])

theorem mem_callPaths {env : Environment} {block : SourceBlock} {path : String} :
    path ∈ callPaths env block ↔ ∃ name, block.kind.callName? = some name ∧
      ∃ inst ∈ instancesOrSingle env block.body, path = instancePath block inst := by
  unfold callPaths
  cases called : block.kind.callName? with
  | none => simp
  | some name => simp [eq_comm]

section

variable {blocks : List SourceBlock} (distinct : DistinctCalls blocks) (env : Environment)
include distinct

/-- Two calls of modules have no path in common. -/
theorem DistinctCalls.not_mem_callPaths {block other : SourceBlock} {name : String}
    (called : block.kind.callName? = some name) (here : block ∈ blocks) (there : other ∈ blocks)
    (differ : other ≠ block) (inst : Instance) : instancePath block inst ∉ callPaths env other := by
  intro member
  obtain ⟨second, calls, twin, -, same⟩ := mem_callPaths.mp member
  obtain rfl := callName_of_instancePath called calls (distinct.plain block here name called)
    (distinct.plain other there second calls) same
  exact differ (eq_of_nodup_filterMap distinct.names there here calls called)

theorem DistinctCalls.callPaths_nodup :
    ((blocks.filter (·.kind.isReplicable)).flatMap (callPaths env)).Nodup := by
  refine List.nodup_flatMap.mpr ⟨fun block _ => ?_, ?_⟩
  · unfold callPaths
    split
    · have suffixes := (instancesOrSingle_replicated env block.body).suffixes_nodup
      rw [List.Nodup, List.pairwise_map] at suffixes ⊢
      exact suffixes.imp fun differ same => differ (String.append_right_inj _ |>.mp same)
    · exact List.nodup_nil
  · have apart : blocks.Pairwise (Function.onFun List.Disjoint (callPaths env)) := by
      refine (List.pairwise_filterMap.mp distinct.names).imp_of_mem ?_
      intro block other here there differ path inside outside
      obtain ⟨name, called, inst, -, rfl⟩ := mem_callPaths.mp inside
      obtain ⟨second, calls, twin, -, same⟩ := mem_callPaths.mp outside
      exact differ name called second calls (callName_of_instancePath called calls
        (distinct.plain block here name called) (distinct.plain other there second calls) same)
    exact apart.filter _

end

end Terradoc
