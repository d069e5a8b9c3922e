import Terradoc.Proofs.Dependency.Order

/-! References to what comes later. In a module that calls no others, a definition has its final value
after as many passes as there are steps in the longest chain of references from it, and one more. -/

namespace Terradoc

/-- The scope that a pass makes of another one in a module that calls no others. -/
def Session.nextScope (session : Session) (blocks : List SourceBlock) (scope : Scope) : Scope :=
  let inner := session.blockScope blocks scope
  { inner with blocks := Entries.ofList ((blocks.filter (·.kind.isReplicable)).map fun block =>
      (block.address, blockValue (session.environment inner) block)) }

section Pass

variable (session : Session) {blocks : List SourceBlock}

theorem settlePass_of_resources (run : Runner) (stack : List Path) (caller : ModuleCall)
    (resources : ∀ block ∈ blocks, block.kind.callName? = none) (scope : Scope) (children : Children)
    (state : RunState) :
    settlePass session run stack caller blocks scope children state =
      .ok ((session.nextScope blocks scope, ⟨children.runs, []⟩), state) := by
  have pass := Settling.mapM_of_pure fun block member =>
    settleBlock_of_resource session run stack caller
      (session.environment (session.blockScope blocks scope))
      (resources block (List.mem_of_mem_filter (p := (·.kind.isReplicable)) member))
  refine (settlePass_eq_ok session run stack caller blocks).mpr ⟨_, rfl, ?_⟩
  rw [pass]
  rfl

theorem settleLocals_eq (env : Environment) :
    settleLocals env blocks =
      Entries.ofList ((localAttributes blocks).map fun attr => (attr.name, localValue env attr)) := by
  rw [settleLocals, localAttributes, List.map_flatMap]

theorem names_eq : (definitions blocks).map Definition.name =
    ((localAttributes blocks).map Attribute.name).map DefinitionName.local ++
      ((blocks.filter (·.kind.isReplicable)).map SourceBlock.address).map DefinitionName.block := by
  rw [definitions, List.map_append, List.map_map, List.map_map, List.map_map, List.map_map]
  rfl

section

variable (distinct : ((definitions blocks).map Definition.name).Nodup) (scope : Scope)
include distinct

/-- A pass gives each local its value in the scope of before. -/
theorem lookup_nextScope_local {attr : Attribute} (member : attr ∈ localAttributes blocks) :
    (session.nextScope blocks scope).lookup (.local attr.name) =
      some (localValue (session.environment scope) attr) := by
  rw [names_eq] at distinct
  have names := (List.nodup_append.mp distinct).1.of_map
  show Entries.get? (settleLocals _ blocks) attr.name = _
  rw [settleLocals_eq]
  exact Entries.get?_ofList_map names member

/-- A pass gives each block its value in the scope with the new locals. -/
theorem lookup_nextScope_block {block : SourceBlock}
    (member : block ∈ blocks.filter (·.kind.isReplicable)) :
    (session.nextScope blocks scope).lookup (.block block.address) =
      some (blockValue (session.environment (session.blockScope blocks scope)) block) := by
  rw [names_eq] at distinct
  have addresses := (List.nodup_append.mp distinct).2.1.of_map
  exact Entries.get?_ofList_map addresses member

end

theorem lookup_nextScope_undefined {name : DefinitionName}
    (absent : ∀ definition ∈ definitions blocks, definition.name ≠ name) (scope : Scope) :
    (session.nextScope blocks scope).lookup name = none := by
  have outside : name ∉ (definitions blocks).map Definition.name := by
    intro among
    obtain ⟨definition, member, same⟩ := List.mem_map.mp among
    exact absent definition member same
  rw [names_eq, List.mem_append, not_or] at outside
  cases name with
  | «local» name =>
    show Entries.get? (settleLocals _ blocks) name = none
    rw [settleLocals_eq]
    refine Entries.get?_ofList_eq_none fun key => outside.1 (List.mem_map.mpr ⟨name, ?_, rfl⟩)
    rw [Entries.keys, List.map_map] at key
    exact key
  | block address =>
    refine Entries.get?_ofList_eq_none fun key => outside.2 (List.mem_map.mpr ⟨address, ?_, rfl⟩)
    rw [Entries.keys, List.map_map] at key
    exact key

end Pass

/-- After a number of passes the definitions from which no longer chain leads have the values of a
solution. -/
structure Reached (blocks : List SourceBlock) (start solution : Scope) (passes : Nat) (scope : Scope) :
    Prop where
  bare : scope.bare = start.bare
  defined : ∀ definition ∈ definitions blocks, ChainsBelow blocks definition passes →
    scope.lookup definition.name = solution.lookup definition.name
  undefined : ∀ name, (∀ definition ∈ definitions blocks, definition.name ≠ name) →
    scope.lookup name = none

section Passes

variable {session : Session} {blocks : List SourceBlock} {start solution : Scope}
  (solves : Solves session blocks start solution)
include solves

/-- A name has its final value unless a definition of that name starts a longer chain. -/
theorem Reached.lookup_eq {passes : Nat} {scope : Scope}
    (reached : Reached blocks start solution passes scope) {name : DefinitionName}
    (below : ∀ definition ∈ definitions blocks, definition.name = name →
      ChainsBelow blocks definition passes) : scope.lookup name = solution.lookup name := by
  by_cases known : ∃ definition ∈ definitions blocks, definition.name = name
  · obtain ⟨definition, member, rfl⟩ := known
    exact reached.defined definition member (below definition member rfl)
  · have absent : ∀ definition ∈ definitions blocks, definition.name ≠ name :=
      fun definition member same => known ⟨definition, member, same⟩
    rw [reached.undefined name absent, solves.undefined name absent]

/-- What a definition refers to has its value one pass before. -/
theorem Reached.lookup_reference {passes : Nat} {scope : Scope}
    (reached : Reached blocks start solution passes scope) {definition : Definition}
    (member : definition ∈ definitions blocks)
    (below : ChainsBelow blocks definition (passes + 1)) {name : DefinitionName}
    (named : name ∈ definition.references) : scope.lookup name = solution.lookup name :=
  reached.lookup_eq solves fun _ among same => below.of_refers ⟨member, among, same ▸ named⟩

variable (distinct : ((definitions blocks).map Definition.name).Nodup)
include distinct

theorem Reached.nextScope_local {passes : Nat} {scope : Scope}
    (reached : Reached blocks start solution passes scope) {attr : Attribute}
    (member : attr ∈ localAttributes blocks)
    (below : ChainsBelow blocks (.local attr) (passes + 1)) :
    (session.nextScope blocks scope).lookup (.local attr.name) = solution.lookup (.local attr.name) := by
  have among : Definition.local attr ∈ definitions blocks := mem_definitions.mpr (.inl ⟨attr, member, rfl⟩)
  have same := (Definition.local attr).value_of_lookup session
    (reached.bare.trans solves.bare.symm) fun name named =>
      reached.lookup_reference solves among below named
  rw [lookup_nextScope_local session distinct scope member]
  exact (congrArg some same).trans (solves.defined (.local attr) among).symm

theorem Reached.nextScope_block {passes : Nat} {scope : Scope}
    (reached : Reached blocks start solution passes scope) {block : SourceBlock}
    (member : block ∈ blocks.filter (·.kind.isReplicable))
    (below : ChainsBelow blocks (.block block) (passes + 1)) :
    (session.nextScope blocks scope).lookup (.block block.address) =
      solution.lookup (.block block.address) := by
  have among : Definition.block block ∈ definitions blocks := mem_definitions.mpr (.inr ⟨block, member, rfl⟩)
  have agree : ∀ name ∈ (Definition.block block).references,
      (session.blockScope blocks scope).lookup name = solution.lookup name := by
    intro name named
    cases name with
    | block address => exact reached.lookup_reference solves among below named
    | «local» name =>
      -- The locals are those of this pass already.
      show (session.nextScope blocks scope).lookup (.local name) = _
      by_cases known : ∃ attr ∈ localAttributes blocks, attr.name = name
      · obtain ⟨attr, inside, rfl⟩ := known
        have referred : Refers blocks (.block block) (.local attr) :=
          ⟨among, mem_definitions.mpr (.inl ⟨attr, inside, rfl⟩), named⟩
        exact reached.nextScope_local solves distinct inside (below.of_refers referred).succ
      · have absent : ∀ other ∈ definitions blocks, other.name ≠ .local name := by
          intro other member same
          rcases mem_definitions.mp member with ⟨attr, inside, rfl⟩ | ⟨block, -, rfl⟩
          · exact known ⟨attr, inside, DefinitionName.local.inj same⟩
          · cases same
        rw [lookup_nextScope_undefined session absent, solves.undefined _ absent]
  have bare : (session.blockScope blocks scope).bare = solution.bare :=
    reached.bare.trans solves.bare.symm
  have same := (Definition.block block).value_of_lookup session bare agree
  rw [lookup_nextScope_block session distinct scope member]
  exact (congrArg some same).trans (solves.defined (.block block) among).symm

theorem Reached.nextScope {passes : Nat} {scope : Scope}
    (reached : Reached blocks start solution passes scope) :
    Reached blocks start solution (passes + 1) (session.nextScope blocks scope) where
  bare := reached.bare
  defined := by
    intro definition member below
    rcases mem_definitions.mp member with ⟨attr, inside, rfl⟩ | ⟨block, inside, rfl⟩
    · exact reached.nextScope_local solves distinct inside below
    · exact reached.nextScope_block solves distinct inside below
  undefined name absent := lookup_nextScope_undefined session absent scope

theorem settlePasses_reached (run : Runner) (stack : List Path) (caller : ModuleCall)
    (resources : ∀ block ∈ blocks, block.kind.callName? = none) (locals : start.locals = [])
    (values : start.blocks = []) (passes : Nat) (children : Children) (state : RunState) :
    ∃ final kept, settlePasses session run stack caller blocks passes start children state =
      .ok ((final, kept), state) ∧ Reached blocks start solution passes final := by
  induction passes with
  | zero =>
    refine ⟨start, children, rfl, rfl, fun definition member below => ?_, fun name _ => ?_⟩
    · exact absurd (below [] (.singleton _)) (Nat.not_lt_zero _)
    · exact Scope.lookup_of_empty locals values name
  | succ passes ih =>
    obtain ⟨scope, kept, done, reached⟩ := ih
    refine ⟨session.nextScope blocks scope, ⟨kept.runs, []⟩,
      Settling.bind_eq_ok.mpr ⟨scope, kept, state, done, ?_⟩, reached.nextScope solves distinct⟩
    exact settlePass_of_resources session run stack caller resources scope kept state

/-- Settling reaches what some number of passes reaches: as many as are allowed, or fewer if the last of them
changed nothing. -/
theorem settle_reached (run : Runner) (stack : List Path) (caller : ModuleCall)
    (resources : ∀ block ∈ blocks, block.kind.callName? = none) (locals : start.locals = [])
    (values : start.blocks = []) {passes : Nat} {children kept : Children} {state after : RunState}
    {final : Scope}
    (done : settle session run stack caller blocks passes start children state =
      .ok ((final, kept), after)) :
    ∃ count ≤ passes, Reached blocks start solution count final ∧
      (count < passes → ∃ fewer before, count = fewer + 1 ∧ Reached blocks start solution fewer before ∧
        final.settledFrom before = true) := by
  have reaches {count : Nat} {scope : Scope} {known : Children} {middle : RunState}
      (passed : settlePasses session run stack caller blocks count start children state =
        .ok ((scope, known), middle)) : Reached blocks start solution count scope := by
    obtain ⟨reached, left, made, holds⟩ := settlePasses_reached solves distinct run stack caller resources
      locals values count children state
    cases passed.symm.trans made
    exact holds
  obtain ⟨count, bound, made, early⟩ := settle_eq_passes session run stack caller blocks done
  refine ⟨count, bound, reaches made, fun less => ?_⟩
  obtain ⟨fewer, before, known, middle, same, passed, settled⟩ := early less
  exact ⟨fewer, before, same, reaches passed, settled⟩

end Passes

/-- A module with the definitions of one that calls no others calls no others. -/
theorem callName?_of_perm {blocks others : List SourceBlock}
    (same : (definitions others).Perm (definitions blocks))
    (resources : ∀ block ∈ blocks, block.kind.callName? = none) :
    ∀ block ∈ others, block.kind.callName? = none := by
  intro block member
  rw [Option.eq_none_iff_forall_ne_some]
  intro name called
  have replicable := BlockKind.isReplicable_of_call called
  have among : Definition.block block ∈ definitions others :=
    mem_definitions.mpr (.inr ⟨block, List.mem_filter.mpr ⟨member, replicable⟩, rfl⟩)
  rcases mem_definitions.mp (same.mem_iff.mp among) with ⟨_, -, unlike⟩ | ⟨_, inside, alike⟩
  · cases unlike
  · cases alike
    rw [resources block (List.mem_of_mem_filter inside)] at called
    cases called

/-- In a module that calls no others, whose locals and blocks have different names and do not refer to
themselves in a circle, passes do what evaluation in the order of references does, in whatever order
definitions are written: after a number of passes, each definition from which no chain of that many
references leads has the value that it gives when all definitions are evaluated after those that they refer
to. -/
theorem settlePasses_in_dependency_order (session : Session) (run : Runner) (stack : List Path)
    (caller : ModuleCall) {blocks : List SourceBlock}
    (resources : ∀ block ∈ blocks, block.kind.callName? = none)
    (distinct : ((definitions blocks).map Definition.name).Nodup) (acyclic : Acyclic blocks)
    {start : Scope} (locals : start.locals = []) (values : start.blocks = []) :
    (∃ order, DependencyOrder blocks order) ∧
      ∀ order, DependencyOrder blocks order → (∃ solution, InOrder session order start solution) ∧
        ∀ solution, InOrder session order start solution →
          ∀ others, (definitions others).Perm (definitions blocks) → ∀ passes children state, ∃ final kept,
            settlePasses session run stack caller others passes start children state =
                .ok ((final, kept), state) ∧
              ∀ definition ∈ definitions blocks, ChainsBelow blocks definition passes →
                ∃ value, definition.Gives (session.environment solution) value ∧
                  solution.lookup definition.name = some value ∧
                  final.lookup definition.name = some value := by
  refine ⟨acyclic.exists_order, fun order ordered => ⟨⟨_, (inOrder_iff session).mpr rfl⟩, ?_⟩⟩
  intro solution evaluated others same passes children state
  have solves : Solves session blocks start solution := by
    rw [(inOrder_iff session).mp evaluated]
    exact ordered.solves session acyclic distinct locals values
  obtain ⟨final, kept, done, reached⟩ := settlePasses_reached (solves.of_perm same)
    ((same.map Definition.name).nodup_iff.mpr distinct) run stack caller (callName?_of_perm same resources)
    locals values passes children state
  refine ⟨final, kept, done, fun definition member below => ?_⟩
  have defined := solves.defined definition member
  have found := reached.defined definition (same.mem_iff.mpr member) (below.of_perm same)
  exact ⟨_, Definition.gives_iff.mpr rfl, defined, found.trans defined⟩

/-- A resource that reads a local, which reads another local that is written after it. -/
theorem settlePasses_in_dependency_order_of_three :
    let session := Session.start (Host.withModule "" "") ⟨"/"⟩ Options.standard
    let reference (name : String) : Expr := .traversal (.variable "local") [.attribute name]
    let block : SourceBlock :=
      ⟨.resource "t" "r", [.attribute "name" (reference "late")], "main.tf", ⟨⟨1, 3⟩, []⟩⟩
    let blocks : List SourceBlock := [block,
      ⟨.locals, [.attribute "late" (reference "base"), .attribute "base" (.string "x")], "main.tf",
        ⟨⟨5, 8⟩, []⟩⟩]
    let start := session.scopeOf session.rootCall blocks
    let value : Value := .map [("name", .string "x")]
    ∃ order solution final kept, DependencyOrder blocks order ∧ InOrder session order start solution ∧
      settlePasses session (fun _ => throw .tooDeep) [] session.rootCall blocks 3 start .empty .start =
        .ok ((final, kept), .start) ∧
      (Definition.block block).Gives (session.environment solution) value ∧
      solution.lookup (.block "t.r") = some value ∧ final.lookup (.block "t.r") = some value := by
  intro session reference block blocks start value
  let rank (definition : Definition) : Nat :=
    match definition.name with
    | .block _ => 2
    | .local name => if name == "late" then 1 else 0
  have descends : ∀ first second, Refers blocks first second → rank second < rank first := by
    rintro first second ⟨source, target, named⟩
    have all : definitions blocks = [.local ⟨"late", reference "base"⟩, .local ⟨"base", .string "x"⟩,
      .block block] := rfl
    have late : (Definition.local ⟨"late", reference "base"⟩).references = [.local "base"] := by
      simp [Definition.references, Definition.mentions, reference, Expr.mentions, stepMentions,
        Mention.name?]
    have base : (Definition.local ⟨"base", .string "x"⟩).references = [] := by
      simp [Definition.references, Definition.mentions, Expr.mentions]
    have resource : (Definition.block block).references = [.local "late"] := by
      simp [Definition.references, Definition.mentions, block, reference, Body.mentions, Body.attributes,
        attributeMentions, blockMentions, Expr.mentions, stepMentions, Mention.name?]
    rw [all] at source target
    simp only [List.mem_cons, List.not_mem_nil, or_false] at source target
    rcases source with rfl | rfl | rfl
    · rw [late, List.mem_singleton] at named
      rcases target with rfl | rfl | rfl
      · exact absurd named (by decide)
      · decide
      · exact absurd named (by decide)
    · rw [base] at named
      cases named
    · rw [resource, List.mem_singleton] at named
      rcases target with rfl | rfl | rfl
      · decide
      · exact absurd named (by decide)
      · exact absurd named (by decide)
  have member : Definition.block block ∈ definitions blocks :=
    mem_definitions.mpr (.inr ⟨block, List.mem_cons_self, rfl⟩)
  have empty : start.locals = [] := rfl
  obtain ⟨⟨order, ordered⟩, evaluations⟩ := settlePasses_in_dependency_order session
    (fun _ => throw .tooDeep) [] session.rootCall (by decide) (by decide) (.of_rank rank descends)
    empty rfl
  obtain ⟨⟨solution, evaluated⟩, passes⟩ := evaluations order ordered
  obtain ⟨final, kept, done, values⟩ := passes solution evaluated blocks (.refl _) 3 .empty .start
  obtain ⟨given, gives, solved, shown⟩ := values (.block block) member (.of_rank rank descends (by decide))
  have third : ((settlePasses session (fun _ => throw .tooDeep) [] session.rootCall blocks 3 start .empty
      .start).map fun result => result.1.1.lookup (.block "t.r")).toOption = some (some value) := by
    decide +kernel
  obtain ⟨result, again, read⟩ := Except.ok_of_map third
  cases done.symm.trans again
  obtain rfl : given = value := Option.some.inj (shown.symm.trans read)
  exact ⟨order, solution, final, kept, ordered, evaluated, done, gives, solved, shown⟩

end Terradoc
