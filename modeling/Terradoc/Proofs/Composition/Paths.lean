import Terradoc.Proofs.Composition.Instances
import Terradoc.Proofs.Settling.Reuse

namespace Terradoc

theorem BlockKind.callName?_eq_some {kind : BlockKind} {name : String} :
    kind.callName? = some name ↔ kind = .module name := by
  cases kind <;> simp [BlockKind.callName?]

/-- Where a block stands inside of a module: at its own address and key, or in a called module, after
the name and key of the call. -/
inductive StandsAt : Block → String → Prop where
  | own (block : Block) : StandsAt block (block.address ++ keySuffix block.key)
  | called {block : Block} {inside : String} (name : String) (key : Option InstanceKey)
      (stands : StandsAt block inside) :
      StandsAt block ("module." ++ name ++ keySuffix key ++ "." ++ inside)

/-- Where blocks are in a module whose own blocks have paths that begin with a lead. -/
def AllStand (lead : String) (blocks : List Block) : Prop :=
  ∀ block ∈ blocks, ∃ inside, StandsAt block inside ∧ block.path = lead ++ inside

theorem MadeFrom.stands {call : ModuleCall} {source : SourceBlock} {inst : Instance} {block : Block}
    (made : MadeFrom call source inst block) :
    block.path = call.lead ++ (block.address ++ keySuffix block.key) := by
  rw [made.path, made.address, made.key, String.append_assoc]

theorem MadeInOrder.mem {session : Session} {call : ModuleCall} {scope : Scope}
    {blocks : List SourceBlock} {own : List Block} (made : MadeInOrder session call scope blocks own)
    {block : Block} (member : block ∈ own) : ∃ source inst, MadeFrom call source inst block := by
  obtain ⟨rows, rfl, all⟩ := made
  obtain ⟨row, present, inside⟩ := List.mem_flatten.mp member
  obtain ⟨source, -, here⟩ := exists_of_forall₂ all present
  obtain ⟨inst, -, from_⟩ := exists_of_forall₂ here inside
  exact ⟨source, inst, from_⟩

theorem MadeInOrder.stand {session : Session} {call : ModuleCall} {scope : Scope}
    {blocks : List SourceBlock} {own : List Block}
    (made : MadeInOrder session call scope blocks own) : AllStand call.lead own := by
  intro block member
  obtain ⟨source, inst, from_⟩ := made.mem member
  exact ⟨_, .own block, from_.stands⟩

/-- A call of a module leads to its blocks by the path of its instance. -/
theorem childCall_lead {session : Session} {stack : List Path} {caller call : ModuleCall}
    {env : Environment} {name path : String} {inputs : Inputs} {body : Body}
    (made : childCall session stack caller env name path inputs body = .ok call) :
    call.lead = caller.lead ++ path ++ "." := by
  obtain ⟨source, directory, -, -, -, rfl⟩ := childCall_eq_ok.mp made
  rfl

theorem instancePath_of_call {block : SourceBlock} {name : String} (called : block.kind = .module name)
    (inst : Instance) : instancePath block inst = "module." ++ name ++ keySuffix inst.key := by
  rw [instancePath, SourceBlock.address,
    BlockKind.address_of_call (BlockKind.callName?_eq_some.mpr called)]

theorem Children.mem_blocks {children : Children} {block : Block} (member : block ∈ children.blocks) :
    ∃ path child made, Entries.get? children.runs path = some child ∧ child.run = some made ∧
      block ∈ made.blocks := by
  obtain ⟨path, -, inside⟩ := List.mem_flatMap.mp member
  cases found : Entries.get? children.runs path with
  | none => rw [found] at inside; cases inside
  | some child =>
    cases outcome : child.run with
    | none => simp [found, outcome] at inside
    | some made => exact ⟨path, child, made, found, outcome, by simpa [found, outcome] using inside⟩

section Runs

variable {session : Session}

/-- The own blocks of a run come first, and its outputs are theirs. -/
theorem evaluateModule_own {run : Runner} {stack : List Path} {call : ModuleCall}
    {blocks : List SourceBlock} {declarations : List VariableDeclaration} {final : Scope}
    {children : Children} {state settled after : RunState} {result : ModuleRun}
    (settles : settleModule session run stack call blocks state =
      .ok ((declarations, final, children), settled))
    (done : evaluateModule session run stack call blocks state = .ok (result, after)) :
    ∃ own, MadeInOrder session call final blocks own ∧ result.blocks = own ++ children.blocks ∧
      result.outputs = outputValues own := by
  obtain ⟨_, _, _, _, made, same, makes, rfl⟩ := (evaluateModule_eq_ok ..).mp done
  rw [settles] at same
  cases same
  exact ⟨_, linkBlocks_madeInOrder makes, rfl, rfl⟩

theorem Children.Ran.stand {run : Runner} {stack : List Path} {call : ModuleCall} {children : Children}
    (runs : ∀ next state made after, run next state = .ok (made, after) → AllStand next.lead made.blocks)
    (ran : children.Ran session run stack call) : AllStand call.lead children.blocks := by
  intro block member
  obtain ⟨path, child, made, found, outcome, inside⟩ := Children.mem_blocks member
  obtain ⟨env, source, name, inst, next, start, finish, called, rfl, calls, begun⟩ :=
    ran.call found outcome
  obtain ⟨place, stands, path⟩ := runs next start made finish begun block inside
  refine ⟨_, stands.called name inst.key, ?_⟩
  rw [path, childCall_lead calls, instancePath_of_call called]
  simp only [String.append_assoc]

/-- The path of a block of a run is where it stands in the module, after what leads to the module. -/
theorem runModule_stand (fuel : Nat) (stack : List Path) (call : ModuleCall) {state after : RunState}
    {result : ModuleRun} (done : runModule session fuel stack call state = .ok (result, after)) :
    AllStand call.lead result.blocks := by
  induction fuel generalizing stack call state after result with
  | zero => cases done
  | succ fuel ih =>
    obtain ⟨sources, _, _, evaluated⟩ := Running.bind_eq_ok.mp done
    obtain ⟨declarations, scope, children, settled, made, settles, -, -⟩ :=
      (evaluateModule_eq_ok ..).mp evaluated
    obtain ⟨own, inOrder, blocks, -⟩ := evaluateModule_own settles evaluated
    intro block member
    rw [blocks] at member
    rcases List.mem_append.mp member with here | there
    · exact inOrder.stand block here
    · exact (settleModule_ran settles).stand (fun next _ _ _ ran => ih _ next ran) block there

end Runs

end Terradoc
