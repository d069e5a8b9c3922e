import Terradoc.Proofs.Settling.Invariants

/-! The blocks that a module run shows: the instances of its own blocks in order, each evaluated in the
scope that the module settles to, and then the blocks of the called modules. -/

namespace Terradoc

theorem Session.accept_value {session : Session} {α : Type} {noted : Noted α} {value : α}
    {state after : RunState} (done : session.accept noted state = .ok (value, after)) :
    value = noted.value := by
  rw [Session.accept_eq] at done
  unfold Noted.result at done
  split at done
  · rename_i accepted
    cases done
    split at accepted
    · cases accepted
    · cases accepted
      rfl
  · cases done

theorem drawAll_identifiers (drawn : Nat) (blocks : List (NestedBlock Unit)) :
    (drawAll drawn blocks).1.map NestedBlock.identifier = blocks.map NestedBlock.identifier := by
  induction blocks generalizing drawn with
  | nil => rfl
  | cons block rest ih =>
    cases block
    simp only [drawAll, NestedBlock.draw, List.map_cons, ih, NestedBlock.identifier]

/-- A block is shown as an instance of a resource or data source. -/
structure Shows (session : Session) (call : ModuleCall) (scope : Scope) (source : SourceBlock)
    (inst : Instance) (shown : Block) : Prop where
  key : shown.key = inst.key
  path : shown.path = call.lead ++ source.address ++ keySuffix inst.key
  attributes : shown.attributes = (evaluateAttributes ⟨source.filename, shown.path⟩
    (inst.environment (session.environment scope)) source.body.attributes).value
  identifiers : shown.blocks.map NestedBlock.identifier = (evaluateBlocks ⟨source.filename, shown.path⟩
    (inst.environment (session.environment scope)) source.spans 0 source.body).value.map
      NestedBlock.identifier

section Making

variable {session : Session} {call : ModuleCall} {scope : Scope}
  {declarations : List VariableDeclaration} {source : SourceBlock}

theorem makeInstance_address {env : Environment} {inst : Instance} {shown : Block}
    {state after : RunState}
    (made : makeInstance session call env declarations source inst state = .ok (shown, after)) :
    shown.address = source.address := by
  obtain ⟨id, _, _, drawn⟩ := Running.bind_eq_ok.mp made
  obtain ⟨body, _, _, accepted⟩ := Running.bind_eq_ok.mp drawn
  obtain ⟨nested, _, _, last⟩ := Running.bind_eq_ok.mp accepted
  cases last
  rfl

theorem makeInstance_shows (replicable : source.kind.isReplicable = true) {inst : Instance}
    {shown : Block} {state after : RunState}
    (made : makeInstance session call (session.environment scope) declarations source inst state =
      .ok (shown, after)) : Shows session call scope source inst shown := by
  obtain ⟨id, _, _, drawn⟩ := Running.bind_eq_ok.mp made
  obtain ⟨body, _, evaluated, accepted⟩ := Running.bind_eq_ok.mp drawn
  obtain ⟨nested, _, numbered, last⟩ := Running.bind_eq_ok.mp accepted
  have plain (context : BodyContext) (env : Environment) :
      evaluateInstance context env declarations source =
        evaluateBody context env source.body source.spans := by
    unfold evaluateInstance
    split
    · rename_i name kind
      rw [kind] at replicable
      cases replicable
    · rfl
  rw [plain] at evaluated
  have value := Session.accept_value evaluated
  cases last
  cases numbered
  subst value
  exact ⟨rfl, rfl, rfl, drawAll_identifiers _ _⟩

theorem makeBlock_address {env : Environment} {made : List (SourceBlock × Block)}
    {state after : RunState}
    (done : makeBlock session call env declarations source state = .ok (made, after)) :
    ∀ entry ∈ made, entry.2.address = source.address := by
  obtain ⟨all, _, _, rest⟩ := Running.bind_eq_ok.mp done
  intro entry member
  obtain ⟨inst, -, _, _, one⟩ := exists_of_forall₂ (Running.mapM_forall₂ rest) member
  obtain ⟨shown, _, here, last⟩ := Running.bind_eq_ok.mp one
  cases last
  exact makeInstance_address here

/-- A block that can be made several times is shown once for each of its instances, in order. -/
theorem makeBlock_shows (replicable : source.kind.isReplicable = true)
    {made : List (SourceBlock × Block)} {state after : RunState}
    (done : makeBlock session call (session.environment scope) declarations source state =
      .ok (made, after)) :
    List.Forall₂ (fun inst entry => Shows session call scope source inst entry.2)
      (instancesOrSingle (session.environment scope) source.body) made := by
  obtain ⟨all, _, replicated, rest⟩ := Running.bind_eq_ok.mp done
  have instances : all = instancesOrSingle (session.environment scope) source.body := by
    rw [Session.accept_value replicated, notedInstances, if_pos replicable, instancesOrSingle]
    cases instances source.body (session.environment scope) <;> rfl
  rw [← instances]
  refine (Running.mapM_forall₂ rest).imp fun inst entry one => ?_
  obtain ⟨_, _, one⟩ := one
  obtain ⟨shown, _, here, last⟩ := Running.bind_eq_ok.mp one
  cases last
  exact makeInstance_shows replicable here

theorem makeBlocks_addresses {env : Environment} {sources : List SourceBlock}
    {made : List (List (SourceBlock × Block))} {state after : RunState}
    (done : sources.mapM (makeBlock session call env declarations) state = .ok (made, after)) :
    ∀ entry ∈ made.flatten, ∃ other ∈ sources, entry.2.address = other.address := by
  intro entry member
  obtain ⟨row, present, inside⟩ := List.mem_flatten.mp member
  obtain ⟨other, among, _, _, one⟩ := exists_of_forall₂ (Running.mapM_forall₂ done) present
  exact ⟨other, among, makeBlock_address one entry inside⟩

/-- Links leave all else of a block as it is. -/
theorem Shows.linked {inst : Instance} {shown : Block}
    (shows : Shows session call scope source inst shown) (references : List Reference) :
    Shows session call scope source inst { shown with references := references } :=
  ⟨shows.key, shows.path, shows.attributes, shows.identifiers⟩

private theorem filter_linkBlocks (made : List (SourceBlock × Block)) (address : String) :
    (linkBlocks made).filter (·.address == address) =
      (made.filter (·.2.address == address)).map fun entry =>
        { entry.2 with references :=
            linkTargets (candidates entry.1 entry.2) (made.map Prod.snd) entry.2.id } := by
  rw [linkBlocks, List.filter_map]
  rfl

/-- Among the blocks that a module shows, those with the address of a block that has it for itself are
the instances of that block. -/
theorem linkBlocks_shows {before rest : List SourceBlock}
    (replicable : source.kind.isReplicable = true)
    (alone : ∀ other ∈ before ++ rest, other.address ≠ source.address)
    {made : List (List (SourceBlock × Block))} {state after : RunState}
    (done : (before ++ source :: rest).mapM
      (makeBlock session call (session.environment scope) declarations) state = .ok (made, after)) :
    List.Forall₂ (Shows session call scope source)
      (instancesOrSingle (session.environment scope) source.body)
      ((linkBlocks made.flatten).filter (·.address == source.address)) := by
  rw [List.mapM_append, Running.bind_eq_ok] at done
  obtain ⟨earlier, _, first, others⟩ := done
  obtain ⟨more, _, tail, last⟩ := Running.bind_eq_ok.mp others
  cases last
  rw [List.mapM_cons, Running.bind_eq_ok] at tail
  obtain ⟨own, _, here, others⟩ := tail
  obtain ⟨later, _, third, last⟩ := Running.bind_eq_ok.mp others
  cases last
  have none {sources : List SourceBlock} {rows : List (List (SourceBlock × Block))}
      {state after : RunState} (subset : sources ⊆ before ++ rest)
      (made : sources.mapM (makeBlock session call (session.environment scope) declarations) state =
        .ok (rows, after)) : rows.flatten.filter (·.2.address == source.address) = [] := by
    refine List.filter_eq_nil_iff.mpr fun entry member same => ?_
    obtain ⟨other, present, equal⟩ := makeBlocks_addresses made entry member
    exact alone other (subset present) (equal ▸ beq_iff_eq.mp same)
  have all : own.filter (·.2.address == source.address) = own :=
    List.filter_eq_self.mpr fun entry member => beq_iff_eq.mpr (makeBlock_address here entry member)
  rw [filter_linkBlocks, List.flatten_append, List.flatten_cons, List.filter_append,
    List.filter_append, none (List.subset_append_left _ _) first,
    none (List.subset_append_right _ _) third, all, List.nil_append, List.append_nil,
    List.forall₂_map_right_iff]
  exact (makeBlock_shows replicable here).imp fun inst entry shows => shows.linked _

end Making

section Runs

variable (session : Session) (run : Runner) (stack : List Path) (call : ModuleCall)
  (blocks : List SourceBlock)

def settleModule : Running (List VariableDeclaration × Scope × Children) := do
  let scope := session.scopeOf call blocks
  let env := session.environment scope
  let declarations := VariableDeclaration.ofBlocks env blocks
  let inputs ← Running.ofExcept (session.inputsOf call env)
  let scope := { scope with vars := resolveVariables declarations inputs }
  let (scope, children) ← (settle session run stack call blocks maxPasses scope).run .empty
  return (declarations, scope, children)

/-- Passes keep the addresses that a module declares. -/
theorem settleModule_declared {declarations : List VariableDeclaration} {final : Scope}
    {children : Children} {state settled : RunState}
    (done : settleModule session run stack call blocks state =
      .ok ((declarations, final, children), settled)) :
    final.declared = (blocks.filter (·.kind.isReplicable)).map SourceBlock.address := by
  obtain ⟨inputs, _, _, rest⟩ := Running.bind_eq_ok.mp done
  obtain ⟨⟨scope, kept⟩, _, passes, last⟩ := Running.bind_eq_ok.mp rest
  cases last
  obtain ⟨locals, values, rfl⟩ := settle_scope session run stack call blocks passes
  rfl

theorem settleModule_ran {session : Session} {run : Runner} {stack : List Path} {call : ModuleCall}
    {blocks : List SourceBlock} {declarations : List VariableDeclaration} {final : Scope}
    {children : Children} {state settled : RunState}
    (done : settleModule session run stack call blocks state =
      .ok ((declarations, final, children), settled)) : children.Ran session run stack call := by
  obtain ⟨inputs, _, _, rest⟩ := Running.bind_eq_ok.mp done
  obtain ⟨⟨scope, kept⟩, _, passes, last⟩ := Running.bind_eq_ok.mp rest
  cases last
  exact settle_ran passes

/-- A module settles first, and then makes and links its blocks. -/
theorem evaluateModule_eq_ok {state after : RunState} {result : ModuleRun} :
    evaluateModule session run stack call blocks state = .ok (result, after) ↔
      ∃ declarations scope children settled made,
        settleModule session run stack call blocks state =
          .ok ((declarations, scope, children), settled) ∧
        blocks.mapM (makeBlock session call (session.environment scope) declarations) settled =
          .ok (made, after) ∧
        result = ⟨linkBlocks made.flatten ++ children.blocks,
          outputValues (linkBlocks made.flatten)⟩ := by
  have parts : evaluateModule session run stack call blocks =
      settleModule session run stack call blocks >>= fun settled =>
        blocks.mapM (makeBlock session call (session.environment settled.2.1) settled.1) >>= fun made =>
          pure ⟨linkBlocks made.flatten ++ settled.2.2.blocks,
            outputValues (linkBlocks made.flatten)⟩ := by
    simp only [evaluateModule, settleModule, bind_assoc, pure_bind]
  rw [parts, Running.bind_eq_ok]
  constructor
  · rintro ⟨⟨declarations, scope, children⟩, settled, here, there⟩
    obtain ⟨made, _, second, last⟩ := Running.bind_eq_ok.mp there
    cases last
    exact ⟨declarations, scope, children, settled, made, here, second, rfl⟩
  · rintro ⟨declarations, scope, children, settled, made, here, there, rfl⟩
    exact ⟨_, settled, here, Running.bind_eq_ok.mpr ⟨made, after, there, rfl⟩⟩

end Runs

end Terradoc
