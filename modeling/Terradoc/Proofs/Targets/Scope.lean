import Mathlib.Data.List.Basic
import Terradoc.Proofs.Targets.Mention

namespace Terradoc

/-- The address of a block without an instance key. -/
def BlockTarget.address (target : BlockTarget) : String :=
  match target.kind with
  | .resource => target.label ++ "." ++ target.name
  | .data => "data." ++ target.label ++ "." ++ target.name
  | .module => "module." ++ target.name

/-- Two scopes that are the same but for blocks that none of the targets addresses. -/
structure Scope.AgreeAt (targets : List BlockTarget) (left right : Scope) : Prop where
  moduleDirectory : left.moduleDirectory = right.moduleDirectory
  rootDirectory : left.rootDirectory = right.rootDirectory
  workingDirectory : left.workingDirectory = right.workingDirectory
  workspace : left.workspace = right.workspace
  vars : left.vars = right.vars
  locals : left.locals = right.locals
  blocks : ∀ target ∈ targets,
    Entries.get? left.blocks target.address = Entries.get? right.blocks target.address
  declared : ∀ target ∈ targets, target.address ∈ left.declared ↔ target.address ∈ right.declared

namespace Scope.AgreeAt

variable {targets others : List BlockTarget} {left right : Scope}

theorem subset (agree : left.AgreeAt targets right) (fewer : others ⊆ targets) :
    left.AgreeAt others right :=
  { agree with
    blocks := fun target member => agree.blocks target (fewer member)
    declared := fun target member => agree.declared target (fewer member) }

end Scope.AgreeAt

namespace Environment

def inScope (env : Environment) (scope : Scope) : Environment := { env with scope := scope }

/-- Every name on a list has a value in an environment. -/
def Binds (env : Environment) (names : List String) : Prop :=
  ∀ name ∈ names, (Entries.get? env.bindings name).isSome

variable (env : Environment) (other : Scope)

@[simp] theorem inScope_bind (name : String) (value : Value) :
    (env.inScope other).bind name value = (env.bind name value).inScope other := rfl

variable {env} {names : List String}

theorem Binds.bind (binds : env.Binds names) (name : String) (value : Value) :
    (env.bind name value).Binds (name :: names) := by
  intro searched member
  simp only [Environment.bind, Entries.get?_insert]
  split
  · rfl
  · rename_i differ
    rcases List.mem_cons.mp member with rfl | before
    · exact absurd (beq_self_eq_true _) differ
    · exact binds searched before

theorem Binds.bindEntry (binds : env.Binds names) (key : Option String) (value : String)
    (entry : Value × Value) :
    (env.bindEntry key value entry).Binds (bindNames key value names) := by
  have inner := binds.bind value entry.2
  cases key with
  | none => exact inner
  | some name =>
    intro searched member
    refine inner.bind name entry.1 searched ?_
    simpa [bindNames, or_left_comm] using member

end Environment

section References

variable {env : Environment} {other : Scope}

theorem blockOrigin_inScope {scope : Scope} {target found : BlockTarget}
    (agree : scope.AgreeAt [found] other) (address : String) (taken : Nat) (rest : List Step) :
    blockOrigin other found.address target address taken rest =
      blockOrigin scope found.address target address taken rest := by
  have declared : other.declared.contains found.address = scope.declared.contains found.address := by
    rw [Bool.eq_iff_iff, List.contains_iff_mem, List.contains_iff_mem]
    exact (agree.declared found (List.mem_singleton_self found)).symm
  simp only [blockOrigin, declared, agree.blocks found (List.mem_singleton_self found)]

/-- A reference starts at the same place in a scope that agrees at the block it addresses. -/
theorem originOf_inScope {root : String} {steps : List Step}
    (agree : env.scope.AgreeAt (traversalTarget? root steps).toList other) :
    originOf (env.inScope other) root steps = originOf env root steps := by
  unfold originOf
  refine ite_congr rfl (fun _ => rfl) fun self => ?_
  cases steps with
  | nil => rfl
  | cons step rest =>
    cases step with
    | index | position | eachAttribute | each => rfl
    | «attribute» name =>
      refine ite_congr rfl (fun _ => ?_) fun var => ?_
      · simp only [Environment.inScope, agree.vars]
      refine ite_congr rfl (fun _ => ?_) fun loc => ?_
      · simp only [Environment.inScope, agree.locals]
      refine ite_congr rfl (fun call => ?_) fun call => ?_
      · obtain rfl : root = "module" := by simpa using call
        exact congrArg Except.ok (blockOrigin_inScope agree _ 1 rest)
      refine ite_congr rfl (fun data => ?_) fun data => ?_
      · obtain rfl : root = "data" := by simpa using data
        split
        · exact congrArg Except.ok (blockOrigin_inScope agree _ 2 _)
        · rfl
      refine ite_congr rfl (fun _ => rfl) fun each => ?_
      refine ite_congr rfl (fun _ => rfl) fun count => ?_
      refine ite_congr rfl (fun _ => ?_) fun path => ?_
      · simp only [Environment.inScope, pathValue, Scope.modulePath, agree.moduleDirectory,
          agree.rootDirectory, agree.workingDirectory]
      refine ite_congr rfl (fun _ => ?_) fun terraform => ?_
      · simp only [Environment.inScope, agree.workspace]
      have target : traversalTarget? root (.attribute name :: rest) =
          some { BlockTarget.resource root name with key := literalKey? rest } := by
        simp only [beq_iff_eq] at self var loc call data each count path terraform
        simp [traversalTarget?, reservedRoots, self, var, loc, call, data, each, count, path,
          terraform]
      rw [target] at agree
      exact congrArg Except.ok (blockOrigin_inScope agree _ 1 rest)

end References

/-- Two scopes in which all references on a list start at the same places. -/
def Scope.SameOrigins (mentions : List Mention) (left right : Scope) : Prop :=
  ∀ mention ∈ mentions, ∀ env : Environment, env.scope = left →
    originOf (env.inScope right) mention.root mention.steps = originOf env mention.root mention.steps

namespace Scope.SameOrigins

variable {mentions others : List Mention} {left right : Scope}

theorem subset (same : left.SameOrigins mentions right) (fewer : others ⊆ mentions) :
    left.SameOrigins others right := fun mention member => same mention (fewer member)

theorem append_iff : left.SameOrigins (mentions ++ others) right ↔
    left.SameOrigins mentions right ∧ left.SameOrigins others right := List.forall_mem_append

theorem trans {middle : Scope} (first : left.SameOrigins mentions middle)
    (second : middle.SameOrigins mentions right) : left.SameOrigins mentions right := by
  rintro mention member env rfl
  exact (second mention member (env.inScope middle) rfl).trans (first mention member env rfl)

end Scope.SameOrigins

/-- References start at the same places where scopes agree at the blocks that are addressed. -/
theorem Scope.AgreeAt.sameOrigins {mentions : List Mention} {left right : Scope}
    (agree : left.AgreeAt (mentions.filterMap Mention.target?) right) :
    left.SameOrigins mentions right := by
  rintro mention member env rfl
  refine originOf_inScope (agree.subset fun target found => ?_)
  exact List.mem_filterMap.mpr ⟨mention, member, Option.mem_toList.mp found⟩

end Terradoc
