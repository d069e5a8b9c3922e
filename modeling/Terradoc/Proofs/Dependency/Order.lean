import Mathlib.Data.List.Perm.Basic
import Mathlib.Logic.Relation
import Terradoc.Proofs.Dependency.Definition

/-! Definitions in the order of their references. A module whose definitions do not refer to themselves
in a circle has such an order, and evaluated in that order all its definitions hold at once. -/

namespace Terradoc

/-- A definition of a module refers to another one. -/
structure Refers (blocks : List SourceBlock) (first second : Definition) : Prop where
  source : first ∈ definitions blocks
  target : second ∈ definitions blocks
  named : second.name ∈ first.references

/-- No definition leads back to itself. -/
def Acyclic (blocks : List SourceBlock) : Prop :=
  ∀ definition, ¬ Relation.TransGen (Refers blocks) definition definition

/-- All definitions of a module, none of which refers to a later one. -/
structure DependencyOrder (blocks : List SourceBlock) (order : List Definition) : Prop where
  complete : order.Perm (definitions blocks)
  backward : order.Pairwise fun first second => ¬ Refers blocks first second

/-- All chains of references from a definition have fewer steps than a bound. -/
def ChainsBelow (blocks : List SourceBlock) (definition : Definition) (bound : Nat) : Prop :=
  ∀ chain, List.IsChain (Refers blocks) (definition :: chain) → chain.length < bound

namespace ChainsBelow

variable {blocks : List SourceBlock} {first second : Definition} {bound : Nat}

theorem succ (below : ChainsBelow blocks first bound) : ChainsBelow blocks first (bound + 1) :=
  fun chain linked => Nat.lt_succ_of_lt (below chain linked)

theorem of_refers (below : ChainsBelow blocks first (bound + 1)) (refers : Refers blocks first second) :
    ChainsBelow blocks second bound :=
  fun chain linked => Nat.lt_of_succ_lt_succ (below (second :: chain) (linked.cons_cons refers))

/-- How long chains are does not depend on the order in which definitions are written. -/
theorem of_perm {others : List SourceBlock} (same : (definitions others).Perm (definitions blocks))
    (below : ChainsBelow blocks first bound) : ChainsBelow others first bound := by
  have refers {left right : Definition} (refers : Refers others left right) : Refers blocks left right :=
    ⟨same.mem_iff.mp refers.source, same.mem_iff.mp refers.target, refers.named⟩
  exact fun chain linked => below chain (linked.imp fun _ _ => refers)

end ChainsBelow

section Ranks

variable {blocks : List SourceBlock} (rank : Definition → Nat)
  (descends : ∀ first second, Refers blocks first second → rank second < rank first)
include descends

/-- Definitions with a rank that goes down along references make no circle. -/
theorem Acyclic.of_rank : Acyclic blocks := by
  have below {first second : Definition} (reaches : Relation.TransGen (Refers blocks) first second) :
      rank second < rank first := by
    induction reaches with
    | single refers => exact descends _ _ refers
    | tail _ refers ih => exact Nat.lt_trans (descends _ _ refers) ih
  exact fun definition circle => Nat.lt_irrefl _ (below circle)

/-- No chain of references is longer than the rank that it starts from. -/
theorem ChainsBelow.of_rank {definition : Definition} {bound : Nat} (small : rank definition < bound) :
    ChainsBelow blocks definition bound := by
  have short : ∀ (chain : List Definition) (definition : Definition),
      List.IsChain (Refers blocks) (definition :: chain) → chain.length ≤ rank definition := by
    intro chain
    induction chain with
    | nil => exact fun _ _ => Nat.zero_le _
    | cons next rest ih =>
      intro definition linked
      obtain ⟨refers, linked⟩ := List.isChain_cons_cons.mp linked
      exact Nat.succ_le_of_lt (Nat.lt_of_le_of_lt (ih next linked) (descends _ _ refers))
  exact fun chain linked => Nat.lt_of_le_of_lt (short chain definition linked) small

end Ranks

section Existence

variable {blocks : List SourceBlock}

variable (acyclic : Acyclic blocks)
include acyclic

/-- Among definitions there is one that leads to none of them. -/
theorem Acyclic.exists_independent {rest : List Definition} (some : rest ≠ []) :
    ∃ definition ∈ rest, ∀ other ∈ rest, ¬ Relation.TransGen (Refers blocks) definition other := by
  induction rest with
  | nil => exact absurd rfl some
  | cons first rest ih =>
    by_cases alone : rest = []
    · subst alone
      refine ⟨first, List.mem_cons_self, fun other member => ?_⟩
      obtain rfl := List.mem_singleton.mp member
      exact acyclic other
    · obtain ⟨definition, member, free⟩ := ih alone
      by_cases reaches : Relation.TransGen (Refers blocks) definition first
      · refine ⟨first, List.mem_cons_self, fun other among further => ?_⟩
        rcases List.mem_cons.mp among with rfl | inside
        · exact acyclic other further
        · exact free other inside (reaches.trans further)
      · refine ⟨definition, List.mem_cons_of_mem _ member, fun other among further => ?_⟩
        rcases List.mem_cons.mp among with rfl | inside
        · exact reaches further
        · exact free other inside further

theorem Acyclic.exists_order : ∃ order, DependencyOrder blocks order := by
  classical
  have orders : ∀ (size : Nat) (rest : List Definition), rest.length = size →
      ∃ order : List Definition, order.Perm rest ∧
        order.Pairwise fun first second => ¬ Refers blocks first second := by
    intro size
    induction size with
    | zero =>
      intro rest empty
      exact ⟨[], List.length_eq_zero_iff.mp empty ▸ .nil, .nil⟩
    | succ size ih =>
      intro rest length
      have some : rest ≠ [] := by
        rintro rfl
        cases length
      obtain ⟨definition, member, free⟩ := acyclic.exists_independent some
      have shorter : (rest.erase definition).length = size := by
        rw [List.length_erase_of_mem member, length, Nat.add_sub_cancel]
      obtain ⟨order, permuted, backward⟩ := ih (rest.erase definition) shorter
      refine ⟨definition :: order, (permuted.cons definition).trans (List.perm_cons_erase member).symm,
        List.pairwise_cons.mpr ⟨fun other later refers => ?_, backward⟩⟩
      exact free other (List.mem_of_mem_erase (permuted.mem_iff.mp later)) (.single refers)
  obtain ⟨order, complete, backward⟩ := orders _ (definitions blocks) rfl
  exact ⟨order, complete, backward⟩

end Existence

namespace Scope

def assign (scope : Scope) (name : DefinitionName) (value : Value) : Scope :=
  match name with
  | .local name => { scope with locals := Entries.insert scope.locals name value }
  | .block address => { scope with blocks := Entries.insert scope.blocks address value }

@[simp] theorem assign_bare (scope : Scope) (name : DefinitionName) (value : Value) :
    (scope.assign name value).bare = scope.bare := by
  cases name <;> rfl

theorem lookup_of_empty {scope : Scope} (locals : scope.locals = []) (values : scope.blocks = [])
    (name : DefinitionName) : scope.lookup name = none := by
  cases name with
  | «local» name => rw [lookup, locals, Entries.get?_nil]
  | block address => rw [lookup, values, Entries.get?_nil]

theorem lookup_assign (scope : Scope) (name other : DefinitionName) (value : Value) :
    (scope.assign name value).lookup other =
      if other = name then some value else scope.lookup other := by
  cases name <;> cases other <;> simp [assign, lookup, Entries.get?_insert]

end Scope

/-- The scope in which all definitions have the values that they give in it. -/
structure Solves (session : Session) (blocks : List SourceBlock) (start scope : Scope) : Prop where
  bare : scope.bare = start.bare
  defined : ∀ definition ∈ definitions blocks,
    scope.lookup definition.name = some (definition.value (session.environment scope))
  undefined : ∀ name, (∀ definition ∈ definitions blocks, definition.name ≠ name) →
    scope.lookup name = none

theorem Solves.of_perm {session : Session} {blocks others : List SourceBlock} {start scope : Scope}
    (same : (definitions others).Perm (definitions blocks))
    (solves : Solves session blocks start scope) : Solves session others start scope where
  bare := solves.bare
  defined definition member := solves.defined definition (same.mem_iff.mp member)
  undefined name absent := solves.undefined name fun definition member =>
    absent definition (same.mem_iff.mpr member)

/-- Definitions are evaluated one after the other: each is given the value that it gives in the scope with
the values of those before it. -/
inductive InOrder (session : Session) : List Definition → Scope → Scope → Prop where
  | done (scope : Scope) : InOrder session [] scope scope
  | step {definition : Definition} {rest : List Definition} {scope final : Scope} {value : Value}
      (gives : definition.Gives (session.environment scope) value)
      (later : InOrder session rest (scope.assign definition.name value) final) :
      InOrder session (definition :: rest) scope final

def evaluateInOrder (session : Session) : List Definition → Scope → Scope
  | [], scope => scope
  | definition :: rest, scope =>
    evaluateInOrder session rest
      (scope.assign definition.name (definition.value (session.environment scope)))

section Evaluation

variable (session : Session)

theorem inOrder_iff {order : List Definition} {scope final : Scope} :
    InOrder session order scope final ↔ final = evaluateInOrder session order scope := by
  constructor
  · intro evaluated
    induction evaluated with
    | done => rfl
    | step gives _ ih => rw [ih, evaluateInOrder, Definition.gives_iff.mp gives]
  · rintro rfl
    induction order generalizing scope with
    | nil => exact .done scope
    | cons definition rest ih => exact .step (Definition.gives_iff.mpr rfl) ih

theorem evaluateInOrder_bare (order : List Definition) (scope : Scope) :
    (evaluateInOrder session order scope).bare = scope.bare := by
  induction order generalizing scope with
  | nil => rfl
  | cons definition rest ih => rw [evaluateInOrder, ih, Scope.assign_bare]

theorem lookup_evaluateInOrder {order : List Definition} {name : DefinitionName}
    (absent : name ∉ order.map Definition.name) (scope : Scope) :
    (evaluateInOrder session order scope).lookup name = scope.lookup name := by
  induction order generalizing scope with
  | nil => rfl
  | cons definition rest ih =>
    rw [List.map_cons, List.mem_cons, not_or] at absent
    rw [evaluateInOrder, ih absent.2, Scope.lookup_assign, if_neg absent.1]

/-- Where no definition refers to itself or a later one, each keeps the value that it gives. -/
theorem evaluateInOrder_defined {order : List Definition}
    (distinct : (order.map Definition.name).Nodup)
    (proper : ∀ definition ∈ order, definition.name ∉ definition.references)
    (backward : order.Pairwise fun first second => second.name ∉ first.references) (scope : Scope) :
    ∀ definition ∈ order, (evaluateInOrder session order scope).lookup definition.name =
      some (definition.value (session.environment (evaluateInOrder session order scope))) := by
  induction order generalizing scope with
  | nil => exact fun _ member => nomatch member
  | cons first rest ih =>
    rw [List.map_cons, List.nodup_cons] at distinct
    obtain ⟨ahead, backward⟩ := List.pairwise_cons.mp backward
    intro definition member
    rcases List.mem_cons.mp member with rfl | later
    · have kept : ∀ name ∈ definition.references,
          (evaluateInOrder session (definition :: rest) scope).lookup name = scope.lookup name := by
        intro name referred
        have itself : name ≠ definition.name := fun same =>
          proper definition List.mem_cons_self (same ▸ referred)
        have others : name ∉ rest.map Definition.name := by
          intro among
          obtain ⟨other, inside, rfl⟩ := List.mem_map.mp among
          exact ahead other inside referred
        rw [evaluateInOrder, lookup_evaluateInOrder session others, Scope.lookup_assign, if_neg itself]
      have bare := evaluateInOrder_bare session (definition :: rest) scope
      rw [definition.value_of_lookup session bare kept, evaluateInOrder,
        lookup_evaluateInOrder session distinct.1, Scope.lookup_assign, if_pos rfl]
    · exact ih distinct.2 (fun other among => proper other (List.mem_cons_of_mem _ among)) backward _
        definition later

/-- Evaluated in the order of their references, all definitions hold at once. -/
theorem DependencyOrder.solves {blocks : List SourceBlock} {order : List Definition}
    (ordered : DependencyOrder blocks order) (acyclic : Acyclic blocks)
    (distinct : ((definitions blocks).map Definition.name).Nodup) {start : Scope}
    (locals : start.locals = []) (values : start.blocks = []) :
    Solves session blocks start (evaluateInOrder session order start) where
  bare := evaluateInOrder_bare session order start
  defined := by
    have among {definition : Definition} : definition ∈ order ↔ definition ∈ definitions blocks :=
      ordered.complete.mem_iff
    have proper : ∀ definition ∈ order, definition.name ∉ definition.references :=
      fun definition member named =>
        acyclic definition (.single ⟨among.mp member, among.mp member, named⟩)
    have backward : order.Pairwise fun first second => second.name ∉ first.references :=
      ordered.backward.imp_of_mem fun first second free named =>
        free ⟨among.mp first, among.mp second, named⟩
    have names := ((ordered.complete.map Definition.name).nodup_iff).mpr distinct
    exact fun definition member =>
      evaluateInOrder_defined session names proper backward start definition (among.mpr member)
  undefined := by
    intro name absent
    have outside : name ∉ order.map Definition.name := by
      intro among
      obtain ⟨definition, member, same⟩ := List.mem_map.mp among
      exact absent definition (ordered.complete.mem_iff.mp member) same
    rw [lookup_evaluateInOrder session outside, Scope.lookup_of_empty locals values]

end Evaluation

end Terradoc
