import Terradoc.Proofs.Eval.Steps
import Terradoc.Proofs.Syntax.Names
import Terradoc.Proofs.Targets.Scope

namespace Terradoc

theorem stepMentions_cons (bound : List String) (step : Step) (rest : List Step) :
    stepMentions bound (step :: rest) = stepMentions bound [step] ++ stepMentions bound rest := by
  cases step <;> simp [stepMentions]

/-- Two environments with the same functions in which the names on a list have the same values and the
references on a list start at the same places. -/
structure Environment.Alike (names : List String) (mentions : List Mention) (env other : Environment) :
    Prop where
  functions : env.functions = other.functions
  bindings : ∀ name ∈ names, Entries.get? env.bindings name = Entries.get? other.bindings name
  origins : ∀ mention ∈ mentions,
    originOf env mention.root mention.steps = originOf other mention.root mention.steps

namespace Environment

variable {names others : List String} {mentions further : List Mention} {env other : Environment}

theorem Alike.subset (alike : env.Alike names mentions other) (fewer : others ⊆ names) :
    env.Alike others mentions other :=
  { alike with bindings := fun name member => alike.bindings name (fewer member) }

theorem Alike.append_iff : env.Alike (names ++ others) (mentions ++ further) other ↔
    env.Alike names mentions other ∧ env.Alike others further other := by
  constructor
  · rintro ⟨functions, bindings, origins⟩
    rw [List.forall_mem_append] at bindings origins
    exact ⟨⟨functions, bindings.1, origins.1⟩, ⟨functions, bindings.2, origins.2⟩⟩
  · rintro ⟨first, second⟩
    exact ⟨first.functions, List.forall_mem_append.mpr ⟨first.bindings, second.bindings⟩,
      List.forall_mem_append.mpr ⟨first.origins, second.origins⟩⟩

theorem Alike.bind (alike : env.Alike names mentions other) (name : String) (value : Value) :
    (env.bind name value).Alike names mentions (other.bind name value) where
  functions := alike.functions
  bindings := by
    intro searched member
    simp only [Environment.bind, Entries.get?_insert, alike.bindings searched member]
  origins := alike.origins

theorem Alike.bindEntry (alike : env.Alike names mentions other) (key : Option String) (value : String)
    (entry : Value × Value) :
    (env.bindEntry key value entry).Alike names mentions (other.bindEntry key value entry) := by
  cases key with
  | none => exact alike.bind value entry.2
  | some name => exact (alike.bind value entry.2).bind name entry.1

/-- A name that does not occur can have any value. -/
theorem alike_bind {name : String} (absent : name ∉ names) (mentions : List Mention) (value : Value) :
    env.Alike names mentions (env.bind name value) where
  functions := rfl
  bindings := by
    intro searched member
    rw [Environment.bind, Entries.get?_insert, if_neg]
    rw [beq_iff_eq]
    rintro rfl
    exact absent member
  origins := fun _ _ => rfl

end Environment

theorem Scope.SameOrigins.alike {mentions : List Mention} {env : Environment} {scope : Scope}
    (same : env.scope.SameOrigins mentions scope) (names : List String) :
    env.Alike names mentions (env.inScope scope) where
  functions := rfl
  bindings := fun _ _ => rfl
  origins := fun mention member => (same mention member env rfl).symm

open Environment.Alike (append_iff)

-- What is kept along the recursion is that the names counted as bound have values: the evaluator then
-- takes the value of such a name, and where its references would start does not matter.
mutual
theorem Expr.eval_alike : ∀ (expr : Expr) {bound : List String} {env other : Environment},
    env.Binds bound → env.Alike expr.names (expr.mentions bound) other →
    expr.eval env = expr.eval other
  | .null, _, _, _, _, _ | .bool _, _, _, _, _, _ | .number _, _, _, _, _, _
  | .string _, _, _, _, _, _ => by simp only [Expr.eval]
  | .variable name, _, _, _, _, alike => by
    rw [Expr.eval, Expr.eval, variableValue, variableValue,
      alike.bindings name (List.mem_singleton_self name)]
  | .parens inner, _, _, _, binds, alike => by
    simp only [Expr.names, Expr.mentions] at alike
    rw [Expr.eval, Expr.eval, inner.eval_alike binds alike]
  | .array items, _, _, _, binds, alike => by
    simp only [Expr.names, Expr.mentions] at alike
    rw [Expr.eval, Expr.eval, evalItems_alike items binds alike]
  | .object items, _, _, _, binds, alike => by
    simp only [Expr.names, Expr.mentions] at alike
    rw [Expr.eval, Expr.eval, evalObject_alike items binds alike]
  | .template form source elements, bound, env, other, binds, alike => by
    by_cases single : ∃ value, elements = [.interpolation value]
    · obtain ⟨value, rfl⟩ := single
      simp only [Expr.names, templateNames, elementNames, Expr.mentions, templateMentions, elementMentions,
        List.append_nil] at alike
      rw [Expr.eval, Expr.eval, value.eval_alike binds alike]
    · have several : ∀ value, elements ≠ [.interpolation value] := not_exists.mp single
      simp only [Expr.names, Expr.mentions] at alike
      rw [Expr.eval_template _ form source several, Expr.eval_template _ form source several,
        Template.eval, Template.eval, renderElements_alike elements binds alike]
  | .traversal root steps, bound, env, other, binds, alike => by
    by_cases named : ∃ name, root = .variable name
    · obtain ⟨name, rfl⟩ := named
      simp only [Expr.names, Expr.mentions, append_iff] at alike
      obtain ⟨first, inner⟩ := alike
      rw [Expr.eval, Expr.eval, ← first.bindings name (List.mem_singleton_self name)]
      simp only [walk_alike steps binds inner]
      cases found : Entries.get? env.bindings name with
      | some value => rfl
      | none =>
        have free : bound.contains name = false := by
          refine Bool.eq_false_iff.mpr fun member => ?_
          have value := binds name (List.contains_iff_mem.mp member)
          rw [found] at value
          cases value
        rw [free, if_neg Bool.false_ne_true] at first
        rw [first.origins ⟨name, steps⟩ (List.mem_singleton_self _)]
    · have unnamed : ∀ name, root ≠ .variable name := not_exists.mp named
      rw [Expr.names, Expr.mentions, append_iff] at alike
      · obtain ⟨first, inner⟩ := alike
        rw [Expr.eval_traversal _ unnamed, Expr.eval_traversal _ unnamed, root.eval_alike binds first]
        simp only [walk_alike steps binds inner]
      · exact unnamed
  | .call name arguments expand, _, _, _, binds, alike => by
    simp only [Expr.names, Expr.mentions] at alike
    rw [Expr.eval, Expr.eval, evalFirst_alike arguments binds alike, evalCan_alike arguments binds alike,
      evalItems_alike arguments binds alike, alike.functions]
  | .conditional condition yes no, _, _, _, binds, alike => by
    simp only [Expr.names, Expr.mentions, append_iff] at alike
    obtain ⟨⟨asked, first⟩, second⟩ := alike
    rw [Expr.eval, Expr.eval, condition.eval_alike binds asked, yes.eval_alike binds first,
      no.eval_alike binds second]
  | .unary operator operand, _, _, _, binds, alike => by
    simp only [Expr.names, Expr.mentions] at alike
    rw [Expr.eval, Expr.eval, operand.eval_alike binds alike]
  | .binary operator left right, _, _, _, binds, alike => by
    simp only [Expr.names, Expr.mentions, append_iff] at alike
    rw [Expr.eval, Expr.eval, left.eval_alike binds alike.1, right.eval_alike binds alike.2]
  | .listFor key value collection item condition, bound, env, other, binds, alike => by
    simp only [Expr.names, Expr.mentions] at alike
    replace alike := alike.subset (List.subset_append_right ..)
    simp only [append_iff] at alike
    obtain ⟨⟨outer, taken⟩, asked⟩ := alike
    have values : ∀ entry, item.eval (env.bindEntry key value entry) =
        item.eval (other.bindEntry key value entry) := fun entry =>
      item.eval_alike (binds.bindEntry key value entry) (taken.bindEntry key value entry)
    have conditions : ∀ entry, evalCondition (env.bindEntry key value entry) condition =
        evalCondition (other.bindEntry key value entry) condition := fun entry =>
      evalCondition_alike condition (binds.bindEntry key value entry) (asked.bindEntry key value entry)
    rw [Expr.eval, Expr.eval, collection.eval_alike binds outer]
    simp only [values, conditions]
  | .mapFor key value collection entryKey entryValue grouping condition, bound, env, other, binds,
      alike => by
    simp only [Expr.names, Expr.mentions] at alike
    replace alike := alike.subset (List.subset_append_right ..)
    simp only [append_iff] at alike
    obtain ⟨⟨⟨outer, named⟩, taken⟩, asked⟩ := alike
    have keys : ∀ entry, entryKey.eval (env.bindEntry key value entry) =
        entryKey.eval (other.bindEntry key value entry) := fun entry =>
      entryKey.eval_alike (binds.bindEntry key value entry) (named.bindEntry key value entry)
    have values : ∀ entry, entryValue.eval (env.bindEntry key value entry) =
        entryValue.eval (other.bindEntry key value entry) := fun entry =>
      entryValue.eval_alike (binds.bindEntry key value entry) (taken.bindEntry key value entry)
    have conditions : ∀ entry, evalCondition (env.bindEntry key value entry) condition =
        evalCondition (other.bindEntry key value entry) condition := fun entry =>
      evalCondition_alike condition (binds.bindEntry key value entry) (asked.bindEntry key value entry)
    rw [Expr.eval, Expr.eval, collection.eval_alike binds outer]
    simp only [keys, values, conditions]
termination_by expr => sizeOf expr

theorem evalItems_alike : ∀ (items : List Expr) {bound : List String} {env other : Environment},
    env.Binds bound → env.Alike (itemNames items) (itemMentions bound items) other →
    evalItems env items = evalItems other items
  | [], _, _, _, _, _ => by rw [evalItems, evalItems]
  | item :: rest, _, _, _, binds, alike => by
    simp only [itemNames, itemMentions, append_iff] at alike
    rw [evalItems, evalItems, item.eval_alike binds alike.1, evalItems_alike rest binds alike.2]
termination_by items => sizeOf items

theorem evalFirst_alike : ∀ (items : List Expr) {bound : List String} {env other : Environment}
    {last : EvalError}, env.Binds bound → env.Alike (itemNames items) (itemMentions bound items) other →
    evalFirst env last items = evalFirst other last items
  | [], _, _, _, _, _, _ => by rw [evalFirst, evalFirst]
  | item :: rest, _, _, _, _, binds, alike => by
    simp only [itemNames, itemMentions, append_iff] at alike
    rw [evalFirst, evalFirst, item.eval_alike binds alike.1]
    simp only [evalFirst_alike rest binds alike.2]
termination_by items => sizeOf items

theorem evalCan_alike : ∀ (items : List Expr) {bound : List String} {env other : Environment},
    env.Binds bound → env.Alike (itemNames items) (itemMentions bound items) other →
    evalCan env items = evalCan other items
  | [], _, _, _, _, _ => rfl
  | [item], _, _, _, binds, alike => by
    simp only [itemNames, itemMentions, List.append_nil] at alike
    rw [evalCan, evalCan, item.eval_alike binds alike]
  | _ :: _ :: _, _, _, _, _, _ => rfl
termination_by items => sizeOf items

theorem evalObject_alike : ∀ (items : List (ObjectKey × Expr)) {bound : List String}
    {env other : Environment} {before : Entries Value}, env.Binds bound →
    env.Alike (objectNames items) (objectMentions bound items) other →
    evalObject env before items = evalObject other before items
  | [], _, _, _, _, _, _ => by rw [evalObject, evalObject]
  | (key, value) :: rest, _, _, _, _, binds, alike => by
    simp only [objectNames, objectMentions, append_iff] at alike
    obtain ⟨⟨named, first⟩, inner⟩ := alike
    rw [evalObject, evalObject, key.eval_alike binds named, value.eval_alike binds first]
    simp only [evalObject_alike rest binds inner]
termination_by items => sizeOf items

theorem ObjectKey.eval_alike : ∀ (key : ObjectKey) {bound : List String} {env other : Environment},
    env.Binds bound → env.Alike (keyNames key) (keyMentions bound key) other →
    key.eval env = key.eval other
  | .name _, _, _, _, _, _ => by rw [ObjectKey.eval, ObjectKey.eval]
  | .expr key, _, _, _, binds, alike => by
    simp only [keyNames, keyMentions] at alike
    rw [ObjectKey.eval, ObjectKey.eval, key.eval_alike binds alike]
termination_by key => sizeOf key

theorem evalCondition_alike : ∀ (condition : Option Expr) {bound : List String}
    {env other : Environment}, env.Binds bound →
    env.Alike (conditionNames condition) (conditionMentions bound condition) other →
    evalCondition env condition = evalCondition other condition
  | none, _, _, _, _, _ => by rw [evalCondition, evalCondition]
  | some condition, _, _, _, binds, alike => by
    simp only [conditionNames, conditionMentions] at alike
    rw [evalCondition, evalCondition, condition.eval_alike binds alike]
termination_by condition => sizeOf condition

theorem walk_alike : ∀ (steps : List Step) {bound : List String} {env other : Environment},
    env.Binds bound → env.Alike (stepNames steps) (stepMentions bound steps) other →
    ∀ (fallback : Fallback) (taken : Nat) (value : Value),
    walk env fallback taken value steps = walk other fallback taken value steps
  | [], _, _, _, _, _, _, _, _ => by rw [walk_nil, walk_nil]
  | step :: rest, bound, env, other, binds, alike, fallback, taken, value => by
    rw [stepNames_cons, stepMentions_cons, append_iff] at alike
    obtain ⟨here, inner⟩ := alike
    cases taken with
    | succ taken => rw [walk_skip, walk_skip, walk_alike rest binds inner]
    | zero =>
      rcases value.unknown_or_known with ⟨marker, rfl⟩ | known
      · rw [walk_unknown, walk_unknown]
      by_cases splat : step = .each
      · subst splat
        rw [walk_each _ fallback known, walk_each _ fallback known]
        simp only [walk_alike rest binds inner]
      · rw [walk_step _ fallback known splat, walk_step _ fallback known splat,
          step.apply_alike binds here]
        simp only [walk_alike rest binds inner]
termination_by steps => sizeOf steps

theorem Step.apply_alike : ∀ (step : Step) {bound : List String} {env other : Environment}
    {fallback : Fallback} {value : Value}, env.Binds bound →
    env.Alike (stepNames [step]) (stepMentions bound [step]) other →
    step.apply env fallback value = step.apply other fallback value
  | .index key, _, _, _, _, _, binds, alike => by
    simp only [stepNames, stepMentions, List.append_nil] at alike
    rw [Step.apply, Step.apply, key.eval_alike binds alike]
  | .attribute _, _, _, _, _, _, _, _ | .position _, _, _, _, _, _, _, _
  | .eachAttribute _, _, _, _, _, _, _, _ | .each, _, _, _, _, _, _, _ => rfl
termination_by step => sizeOf step

theorem renderElements_alike : ∀ (elements : List TemplateElement) {bound : List String}
    {env other : Environment} {before : String}, env.Binds bound →
    env.Alike (templateNames elements) (templateMentions bound elements) other →
    renderElements env before elements = renderElements other before elements
  | [], _, _, _, _, _, _ => by rw [renderElements, renderElements]
  | element :: rest, _, _, _, _, binds, alike => by
    simp only [templateNames, templateMentions, append_iff] at alike
    rw [renderElements, renderElements, element.render_alike binds alike.1]
    simp only [renderElements_alike rest binds alike.2]
termination_by elements => sizeOf elements

theorem TemplateElement.render_alike : ∀ (element : TemplateElement) {bound : List String}
    {env other : Environment} {before : String}, env.Binds bound →
    env.Alike (elementNames element) (elementMentions bound element) other →
    element.render env before = element.render other before
  | .literal _, _, _, _, _, _, _ => by rw [TemplateElement.render, TemplateElement.render]
  | .interpolation value, _, _, _, _, binds, alike => by
    simp only [elementNames, elementMentions] at alike
    rw [TemplateElement.render, TemplateElement.render, value.eval_alike binds alike]
  | .branch condition yes no, _, _, _, _, binds, alike => by
    simp only [elementNames, elementMentions, append_iff] at alike
    obtain ⟨⟨asked, first⟩, second⟩ := alike
    rw [TemplateElement.render, TemplateElement.render, condition.eval_alike binds asked,
      renderElements_alike yes binds first, renderBranch_alike no binds second]
  | .loop key value collection body, _, env, other, _, binds, alike => by
    simp only [elementNames, elementMentions] at alike
    replace alike := alike.subset (List.subset_append_right ..)
    simp only [append_iff] at alike
    obtain ⟨outer, inner⟩ := alike
    have texts : ∀ entry text, renderElements (env.bindEntry key value entry) text body =
        renderElements (other.bindEntry key value entry) text body := fun entry text =>
      renderElements_alike body (binds.bindEntry key value entry) (inner.bindEntry key value entry)
    rw [TemplateElement.render, TemplateElement.render, collection.eval_alike binds outer]
    simp only [texts]
termination_by element => sizeOf element

theorem renderBranch_alike : ∀ (branch : Option (List TemplateElement)) {bound : List String}
    {env other : Environment} {before : String}, env.Binds bound →
    env.Alike (otherwiseNames branch) (otherwiseMentions bound branch) other →
    renderBranch env before branch = renderBranch other before branch
  | none, _, _, _, _, _, _ => by rw [renderBranch, renderBranch]
  | some elements, _, _, _, _, binds, alike => by
    simp only [otherwiseNames, otherwiseMentions] at alike
    rw [renderBranch, renderBranch, renderElements_alike elements binds alike]
termination_by branch => sizeOf branch
end

/-- An expression has the same value in a scope in which its references start at the same places. -/
theorem Expr.eval_inScope (expr : Expr) {bound : List String} {env : Environment} {other : Scope}
    (binds : env.Binds bound) (agree : env.scope.SameOrigins (expr.mentions bound) other) :
    expr.eval (env.inScope other) = expr.eval env :=
  (expr.eval_alike binds (agree.alike expr.names)).symm

end Terradoc
