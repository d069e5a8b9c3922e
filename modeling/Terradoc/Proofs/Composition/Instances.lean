import Terradoc.Proofs.Settling.Shown

/-! The blocks that a module makes of its own: each block of its files once for each of its instances,
in order. Among them, one for each instance of a module call. -/

namespace Terradoc

def Session.instancesIn (session : Session) (scope : Scope) (source : SourceBlock) : List Instance :=
  if source.kind.isReplicable then instancesOrSingle (session.environment scope) source.body
  else [.single]

/-- The instances of module calls in a scope, in the order of the blocks and then of the instances. -/
def Session.callsIn (session : Session) (scope : Scope) (blocks : List SourceBlock) :
    List (SourceBlock × Instance) :=
  blocks.flatMap fun block =>
    if block.kind.callName?.isSome then (session.instancesIn scope block).map fun inst => (block, inst)
    else []

/-- A block is made for an instance of a block that is written in a module. -/
structure MadeFrom (call : ModuleCall) (source : SourceBlock) (inst : Instance) (block : Block) :
    Prop where
  kind : block.kind = source.kind
  address : block.address = source.address
  key : block.key = inst.key
  place : block.source = ⟨source.filename, source.lines⟩
  path : block.path = call.lead ++ source.address ++ keySuffix inst.key

/-- Blocks are those that are made for the instances of written blocks, in order. -/
def MadeInOrder (session : Session) (call : ModuleCall) (scope : Scope) (blocks : List SourceBlock)
    (own : List Block) : Prop :=
  ∃ rows : List (List Block), own = rows.flatten ∧
    List.Forall₂ (fun source row =>
      List.Forall₂ (MadeFrom call source) (session.instancesIn scope source) row) blocks rows

section Making

variable {session : Session} {call : ModuleCall} {scope : Scope}
  {declarations : List VariableDeclaration} {source : SourceBlock}

theorem makeInstance_madeFrom {env : Environment} {inst : Instance} {block : Block}
    {state after : RunState}
    (made : makeInstance session call env declarations source inst state = .ok (block, after)) :
    MadeFrom call source inst block := by
  obtain ⟨id, _, _, drawn⟩ := Running.bind_eq_ok.mp made
  obtain ⟨body, _, _, accepted⟩ := Running.bind_eq_ok.mp drawn
  obtain ⟨nested, _, _, last⟩ := Running.bind_eq_ok.mp accepted
  cases last
  exact ⟨rfl, rfl, rfl, rfl, rfl⟩

theorem makeBlock_madeFrom {made : List (SourceBlock × Block)} {state after : RunState}
    (done : makeBlock session call (session.environment scope) declarations source state =
      .ok (made, after)) :
    List.Forall₂ (fun inst entry => MadeFrom call source inst entry.2)
      (session.instancesIn scope source) made := by
  obtain ⟨all, _, replicated, rest⟩ := Running.bind_eq_ok.mp done
  have instances : all = session.instancesIn scope source := by
    rw [Session.accept_value replicated, notedInstances, Session.instancesIn, instancesOrSingle]
    split
    · cases instances source.body (session.environment scope) <;> rfl
    · rfl
  rw [← instances]
  refine (Running.mapM_forall₂ rest).imp fun inst entry one => ?_
  obtain ⟨_, _, one⟩ := one
  obtain ⟨block, _, here, last⟩ := Running.bind_eq_ok.mp one
  cases last
  exact makeInstance_madeFrom here

theorem linkBlocks_madeInOrder {blocks : List SourceBlock} {made : List (List (SourceBlock × Block))}
    {state after : RunState}
    (done : blocks.mapM (makeBlock session call (session.environment scope) declarations) state =
      .ok (made, after)) : MadeInOrder session call scope blocks (linkBlocks made.flatten) := by
  let link (entry : SourceBlock × Block) : Block :=
    { entry.2 with references :=
        linkTargets (candidates entry.1 entry.2) (made.flatten.map Prod.snd) entry.2.id }
  refine ⟨made.map (List.map link), List.map_flatten.symm ▸ rfl, ?_⟩
  rw [List.forall₂_map_right_iff]
  refine (Running.mapM_forall₂ done).imp fun source row one => ?_
  obtain ⟨_, _, here⟩ := one
  rw [List.forall₂_map_right_iff]
  exact (makeBlock_madeFrom here).imp fun inst entry made =>
    ⟨made.kind, made.address, made.key, made.place, made.path⟩

end Making

section Calls

variable {session : Session} {call : ModuleCall} {scope : Scope} {blocks : List SourceBlock}
  {own : List Block}

private theorem filter_of_row {source : SourceBlock} {insts : List Instance} {row : List Block}
    (made : List.Forall₂ (MadeFrom call source) insts row) (test : BlockKind → Bool) :
    row.filter (fun block => test block.kind) = if test source.kind then row else [] := by
  have kinds : ∀ block ∈ row, block.kind = source.kind := fun block member => by
    obtain ⟨inst, -, from_⟩ := exists_of_forall₂ made member
    exact from_.kind
  split
  · rename_i passes
    exact List.filter_eq_self.mpr fun block member => kinds block member ▸ passes
  · rename_i fails
    exact List.filter_eq_nil_iff.mpr fun block member => kinds block member ▸ fails

/-- The blocks of module calls that a module makes are one for each instance of a call, in order. -/
theorem MadeInOrder.calls (made : MadeInOrder session call scope blocks own) :
    List.Forall₂ (fun turn block => MadeFrom call turn.1 turn.2 block) (session.callsIn scope blocks)
      (own.filter fun block => block.kind.callName?.isSome) := by
  obtain ⟨rows, rfl, all⟩ := made
  induction all with
  | nil => exact .nil
  | @cons source row blocks rows here _ ih =>
    rw [List.flatten_cons, List.filter_append, Session.callsIn, List.flatMap_cons,
      filter_of_row here (·.callName?.isSome)]
    refine List.rel_append ?_ ih
    split
    · rwa [List.forall₂_map_left_iff]
    · exact .nil

def BlockKind.outputName? : BlockKind → Option String
  | .output name => some name
  | _ => none

/-- The outputs that a module makes are those that are written in it, in order. -/
theorem MadeInOrder.outputs (made : MadeInOrder session call scope blocks own) :
    own.filterMap (·.kind.outputName?) = blocks.filterMap (·.kind.outputName?) := by
  obtain ⟨rows, rfl, all⟩ := made
  induction all with
  | nil => rfl
  | @cons source row blocks rows here _ ih =>
    rw [List.flatten_cons, List.filterMap_append, ih, List.filterMap_cons]
    cases kind : source.kind with
    | output name =>
      have single : session.instancesIn scope source = [.single] := by
        rw [Session.instancesIn, kind]
        rfl
      rw [single] at here
      cases here with
      | cons one none =>
        cases none
        simp [BlockKind.outputName?, one.kind, kind]
    | _ =>
      have silent : row.filterMap (·.kind.outputName?) = [] := by
        refine List.filterMap_eq_nil_iff.mpr fun block member => ?_
        obtain ⟨inst, -, from_⟩ := exists_of_forall₂ here member
        rw [from_.kind, kind]
        rfl
      rw [silent]
      rfl

/-- The outputs of a module are the values of its output blocks. -/
theorem get?_outputValues (distinct : (own.filterMap (·.kind.outputName?)).Nodup) {block : Block}
    (member : block ∈ own) {name : String} (output : block.kind = .output name) :
    Entries.get? (outputValues own) name =
      some ((Entries.get? block.attributes "value").getD .null) := by
  refine Entries.get?_ofList_of_single ?_ fun value found => ?_
  · exact List.mem_filterMap.mpr ⟨block, member, by rw [output]⟩
  · obtain ⟨other, present, same⟩ := List.mem_filterMap.mp found
    split at same
    · rename_i second kind
      obtain ⟨rfl, rfl⟩ := Prod.mk.inj (Option.some.inj same)
      rw [eq_of_nodup_filterMap distinct present member (by rw [kind]; rfl) (by rw [output]; rfl)]
    · cases same

end Calls

end Terradoc
