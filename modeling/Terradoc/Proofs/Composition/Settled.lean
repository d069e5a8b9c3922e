import Terradoc.Proofs.Composition.Paths
import Terradoc.Proofs.Document.References

/-! The instances of a block in a module that has settled: the values that the scope has for them, and the
blocks that the module makes for them. -/

namespace Terradoc

/-- An instance of a block, with a value and a block for it. -/
structure SettledInstance where
  inst : Instance
  value : Value
  shown : Block

/-- The value that instances make together. -/
def SettledInstance.collected (rows : List SettledInstance) : Value :=
  collectInstances (rows.map fun row => (row.inst.key, row.value))

/-- The instances of a block, each with the value that it settles to in a scope and with the block that is
made for it. These blocks stand in their order among the blocks of the module. -/
structure SettledInstances (session : Session) (run : Runner) (stack : List Path) (call : ModuleCall)
    (scope : Scope) (block : SourceBlock) (own : List Block) (rows : List SettledInstance) : Prop where
  all : rows.map SettledInstance.inst = instancesOrSingle (session.environment scope) block.body
  settled : ∀ row ∈ rows, ∃ children kept start finish,
    settleInstance session run stack call (session.environment scope) block row.inst children start =
      .ok ((row.value, kept), finish)
  made : ∀ row ∈ rows, MadeFrom call block row.inst row.shown
  among : ∃ earlier later, own = earlier ++ rows.map SettledInstance.shown ++ later

theorem SettledInstances.mem_own {session : Session} {run : Runner} {stack : List Path} {call : ModuleCall}
    {scope : Scope} {block : SourceBlock} {own : List Block} {rows : List SettledInstance}
    (settled : SettledInstances session run stack call scope block own rows) {row : SettledInstance}
    (member : row ∈ rows) : row.shown ∈ own := by
  obtain ⟨earlier, later, same⟩ := settled.among
  rw [same]
  exact List.mem_append_left _ (List.mem_append_right _ (List.mem_map_of_mem member))

section Rows

variable {rows : List SettledInstance} (replicated : Replicated (rows.map SettledInstance.inst))
  (keyed : ∀ row ∈ rows, row.inst.key.isSome)
include replicated

theorem SettledInstance.eq_of_key {row other : SettledInstance} (member : row ∈ rows) (among : other ∈ rows)
    (same : row.inst.key = other.inst.key) : row = other := by
  have distinct := replicated.keys_nodup
  rw [List.map_map] at distinct
  exact List.inj_on_of_nodup_map distinct member among same

include keyed

/-- The value of instances with keys is a list of their values, each at its index, or a map of them by their
names. -/
theorem SettledInstance.collected_cases :
    (collected rows = .list (rows.map SettledInstance.value) ∧
      ∀ (place : Nat) (row : SettledInstance), rows[place]? = some row →
        row.inst.key = some (.index place)) ∨
    ∃ fields, collected rows = .map (Entries.ofList fields) ∧
      (∀ row ∈ rows, ∃ name, row.inst.key = some (.key name)) ∧
      ∀ name value, (name, value) ∈ fields ↔
        ∃ row ∈ rows, row.inst.key = some (.key name) ∧ row.value = value := by
  obtain indexed | named := replicated.indexed_or_named (by simpa using keyed)
  · left
    have places (place : Nat) (row : SettledInstance) (found : rows[place]? = some row) :
        row.inst.key = some (.index place) := by
      apply indexed
      rw [List.getElem?_map, found]
      rfl
    refine ⟨?_, places⟩
    rw [collected, collectInstances_of_indices, List.map_map]
    · rfl
    · intro entry among
      obtain ⟨row, member, rfl⟩ := List.mem_map.mp among
      obtain ⟨place, found⟩ := List.getElem?_of_mem member
      exact ⟨place, places place row found⟩
  · have names : ∀ row ∈ rows, ∃ name, row.inst.key = some (.key name) := by
      intro row member
      exact named row.inst (List.mem_map_of_mem member)
    cases rows with
    | nil => exact .inl ⟨rfl, fun _ _ found => nomatch found⟩
    | cons first rest =>
      right
      have entries : ∀ entry ∈ (first :: rest).map (fun row => (row.inst.key, row.value)),
          ∃ name, entry.1 = some (.key name) := by
        simpa using names
      obtain ⟨fields, map, entries⟩ := collectInstances_of_names (by simp) entries
      refine ⟨fields, map, names, fun name value => ?_⟩
      simp only [entries, List.mem_map, Prod.mk.injEq]

end Rows

/-- Entries and blocks for the same instances, one instance after the other. -/
theorem exists_rows {kept : Instance → Option InstanceKey × Value → Prop} {made : Instance → Block → Prop}
    {all : List Instance} {entries : List (Option InstanceKey × Value)} {blocks : List Block}
    (values : List.Forall₂ (fun inst entry => entry.1 = inst.key ∧ kept inst entry) all entries)
    (shown : List.Forall₂ made all blocks) :
    ∃ rows : List SettledInstance, rows.map SettledInstance.inst = all ∧
      SettledInstance.collected rows = collectInstances entries ∧
      rows.map SettledInstance.shown = blocks ∧
      ∀ row ∈ rows, kept row.inst (row.inst.key, row.value) ∧ made row.inst row.shown := by
  suffices found : ∃ rows : List SettledInstance, rows.map SettledInstance.inst = all ∧
      (rows.map fun row => (row.inst.key, row.value)) = entries ∧
      rows.map SettledInstance.shown = blocks ∧
      ∀ row ∈ rows, kept row.inst (row.inst.key, row.value) ∧ made row.inst row.shown by
    obtain ⟨rows, same, collected, rest⟩ := found
    exact ⟨rows, same, congrArg collectInstances collected, rest⟩
  induction values generalizing blocks with
  | nil =>
    cases shown
    exact ⟨[], rfl, rfl, rfl, fun _ member => nomatch member⟩
  | @cons inst entry _ _ here _ ih =>
    obtain ⟨key, value⟩ := entry
    obtain ⟨rfl, valued⟩ := here
    cases shown with
    | @cons _ block _ _ one others =>
      obtain ⟨rows, rfl, rfl, rfl, each⟩ := ih others
      refine ⟨⟨inst, value, block⟩ :: rows, rfl, rfl, rfl, ?_⟩
      exact List.forall_mem_cons.mpr ⟨⟨valued, one⟩, each⟩

section Passes

variable {session : Session} {run : Runner} {stack : List Path} {caller : ModuleCall}

/-- The value of a block collects what its instances settle to. -/
theorem settleBlock_entries {env : Environment} {block : SourceBlock} {children kept : Children}
    {state after : RunState} {result : String × Value}
    (done : settleBlock session run stack caller env block children state = .ok ((result, kept), after)) :
    ∃ entries, result = (block.address, collectInstances entries) ∧
      List.Forall₂ (fun inst (entry : Option InstanceKey × Value) => entry.1 = inst.key ∧
        ∃ known left start finish, settleInstance session run stack caller env block inst known start =
          .ok ((entry.2, left), finish)) (instancesOrSingle env block.body) entries := by
  obtain ⟨entries, _, _, each, last⟩ := Settling.bind_eq_ok.mp done
  cases last
  refine ⟨entries, rfl, (Settling.mapM_forall₂ each).imp ?_⟩
  intro inst entry one
  obtain ⟨known, start, left, finish, keyed⟩ := one
  obtain ⟨value, _, _, settled, last⟩ := Settling.bind_eq_ok.mp keyed
  cases last
  exact ⟨rfl, _, _, _, _, settled⟩

end Passes

/-- The blocks that are made for the instances of a block stand together. -/
theorem MadeInOrder.among {session : Session} {call : ModuleCall} {scope : Scope}
    {before rest : List SourceBlock} {block : SourceBlock} {own : List Block}
    (made : MadeInOrder session call scope (before ++ block :: rest) own) :
    ∃ earlier row later, own = earlier ++ row ++ later ∧
      List.Forall₂ (MadeFrom call block) (session.instancesIn scope block) row := by
  obtain ⟨rows, rfl, each⟩ := made
  induction before generalizing rows with
  | nil =>
    cases each with
    | @cons _ row _ later here _ => exact ⟨[], row, later.flatten, rfl, here⟩
  | cons first before ih =>
    cases each with
    | @cons _ row _ rows _ others =>
      obtain ⟨earlier, own, later, same, here⟩ := ih rows others
      refine ⟨row ++ earlier, own, later, ?_, here⟩
      rw [List.flatten_cons, same, List.append_assoc, List.append_assoc, List.append_assoc]

section Runs

variable {session : Session} {run : Runner} {stack : List Path} {call : ModuleCall}
  {blocks : List SourceBlock} {state settled after : RunState} {declarations : List VariableDeclaration}
  {final : Scope} {children : Children} {result : ModuleRun}
  (settles : settleModule session run stack call blocks state =
    .ok ((declarations, final, children), settled))
  (done : evaluateModule session run stack call blocks state = .ok (result, after))
include settles done

/-- The own blocks of a run have different ids. -/
theorem evaluateModule_ids_nodup {own : List Block} (parts : result.blocks = own ++ children.blocks) :
    (own.map Block.id).Nodup := by
  obtain ⟨_, _, _, _, made, same, makes, rfl⟩ := (evaluateModule_eq_ok ..).mp done
  rw [settles] at same
  cases same
  obtain rfl : linkBlocks made.flatten = own := List.append_cancel_right parts
  exact (makeBlocks_draws _ _ _ _ _ _ _ _ makes).distinct.sublist (blockIds_sublist _)

end Runs

section Settled

variable {session : Session} {run : Runner} {stack : List Path} {call : ModuleCall}
  {before rest : List SourceBlock} {block : SourceBlock}

/-- In a module whose scope no further pass changes, the value of a block collects those of the instances
that the module makes of it. -/
theorem evaluateModule_settledInstances (replicable : block.kind.isReplicable = true)
    (last : ∀ other ∈ rest, other.kind.isReplicable = true → other.address ≠ block.address)
    {state settled after : RunState} {declarations : List VariableDeclaration} {final : Scope}
    {children : Children} {result : ModuleRun}
    (settles : settleModule session run stack call (before ++ block :: rest) state =
      .ok ((declarations, final, children), settled))
    (fixed : ∃ known start kept finish,
      settlePass session run stack call (before ++ block :: rest) final known start =
        .ok ((final, kept), finish))
    (done : evaluateModule session run stack call (before ++ block :: rest) state =
      .ok (result, after)) :
    ∃ own rows, result.blocks = own ++ children.blocks ∧
      SettledInstances session run stack call final block own rows ∧
      Entries.get? final.blocks block.address = some (SettledInstance.collected rows) := by
  obtain ⟨own, inOrder, parts, -⟩ := evaluateModule_own settles done
  obtain ⟨earlier, row, later, place, shown⟩ := inOrder.among
  obtain ⟨known, start, kept, finish, fixed⟩ := fixed
  obtain ⟨_, _, _, _, _, settled, found⟩ := get?_settlePass_last _ _ _ _ replicable last fixed
  rw [blockScope_of_fixed _ _ _ _ _ fixed] at settled
  obtain ⟨entries, rfl, values⟩ := settleBlock_entries settled
  rw [Session.instancesIn, if_pos replicable] at shown
  obtain ⟨rows, all, collected, rfl, each⟩ := exists_rows values shown
  refine ⟨own, rows, parts, ⟨all, ?_, ?_, earlier, later, place⟩, collected ▸ found⟩
  · intro row member
    obtain ⟨children, kept, start, finish, one⟩ := (each row member).1
    exact ⟨children, kept, start, finish, one⟩
  · intro row member
    exact (each row member).2

end Settled

end Terradoc
