import Terradoc.Proofs.Information.Reference
import Terradoc.Proofs.Syntax.Every

/-! Evaluation respects the order of information: more that is known of what an expression reads means
more that is known of its value, and what was known stays as it was. -/

namespace Terradoc

open Value (Below PairBelow)

/-- Whether an expression treats unknowns only as what is still open: it neither compares them nor
calls a function that may answer for one. -/
def Expr.isGuessFree : Expr → Bool
  | .call name _ _ => !guessingCalls.contains name
  | .binary operator _ _ => !operator.comparesWholes
  | _ => true

/-- Functions that respect the order, but for those that guess. -/
def MonotoneCalls (functions : FunctionTable) : Prop :=
  ∀ name, name ∉ guessingCalls → ∀ left right, List.Forall₂ Below left right →
    BothRelate Below (functions name left) (functions name right)

theorem Host.monotoneCalls (host : Host) (root : Path) : MonotoneCalls (host.functions root) :=
  fun _ allowed _ _ below => host.functions_below root allowed below

/-- The second environment is the first with some unknowns filled in, and calls respect that. -/
structure Environment.Learns (env after : Environment) : Prop where
  below : env.Below after
  calls : MonotoneCalls env.functions

theorem Environment.Learns.bindEntry {env after : Environment} (learns : env.Learns after)
    (key : Option String) (value : String) {entry other : Value × Value}
    (pair : PairBelow entry other) :
    (env.bindEntry key value entry).Learns (after.bindEntry key value other) where
  below := learns.below.bindEntry key value pair
  calls := by
    have same : (env.bindEntry key value entry).functions = env.functions := by cases key <;> rfl
    rw [same]
    exact learns.calls

/-- What starts with a value that decides the rest alone as long as it is unknown. -/
theorem BothRelate.fromKnown {ε α β : Type} {relation : α → β → Prop} {start image : Except ε Value}
    {next : Value → Except ε α} {after : Value → Except ε β} (values : BothRelate Below start image)
    (absent : ∀ marker value, BothRelate relation (next (.unknown marker)) (after value))
    (present : ∀ first second, first.Below second → first.isUnknown = false →
      second.isUnknown = false → BothRelate relation (next first) (after second)) :
    BothRelate relation (start >>= next) (image >>= after) := by
  refine values.bind fun first second value => ?_
  rcases first.unknown_or_known with ⟨marker, rfl⟩ | known
  · exact absent marker second
  · exact present first second value known (value.known known)

/-- What starts with a result that decides the rest alone as long as it is unknown. -/
theorem BothRelate.fromResult {ε α β γ δ : Type} {relation : α → β → Prop} {other : γ → δ → Prop}
    {start : Except ε (Determined α)} {image : Except ε (Determined β)}
    {next : Determined α → Except ε γ} {after : Determined β → Except ε δ}
    (results : BothRelate (DeterminedBelow relation) start image)
    (absent : ∀ marker result, BothRelate other (next (.unknown marker)) (after result))
    (present : ∀ state image, relation state image →
      BothRelate other (next (.known state)) (after (.known image))) :
    BothRelate other (start >>= next) (image >>= after) := by
  refine results.bind fun first second result => ?_
  cases result with
  | unknown marker => exact absent marker second
  | known related => exact present _ _ related

-- One induction over all of the syntax, by its size: the value of a template that is one interpolation
-- is that of an expression two levels down. The environments change at every loop.
mutual
theorem Expr.eval_below : ∀ (expr : Expr), expr.every Expr.isGuessFree = true →
    ∀ {env after : Environment}, env.Learns after →
    BothRelate Below (expr.eval env) (expr.eval after)
  | .null, _, _, _, _ | .bool _, _, _, _, _ | .number _, _, _, _, _ | .string _, _, _, _, _ =>
    .ok (.refl _)
  | .variable name, _, _, _, learns => variableValue_below learns.below name
  | .parens inner, free, _, _, learns => by
    simp only [Expr.every, Expr.isGuessFree, Bool.true_and] at free
    rw [Expr.eval, Expr.eval]
    exact inner.eval_below free learns
  | .array items, free, _, _, learns => by
    simp only [Expr.every, Expr.isGuessFree, Bool.true_and] at free
    rw [Expr.eval, Expr.eval]
    exact (evalItems_below items free learns).bind fun _ _ values => .ok (.list values)
  | .object items, free, _, _, learns => by
    simp only [Expr.every, Expr.isGuessFree, Bool.true_and] at free
    rw [Expr.eval, Expr.eval]
    exact evalObject_below items free learns .nil
  | .template form source elements, free, env, after, learns => by
    simp only [Expr.every, Expr.isGuessFree, Bool.true_and] at free
    by_cases single : ∃ value, elements = [.interpolation value]
    · obtain ⟨value, rfl⟩ := single
      simp only [everyElement, everyPart, Bool.and_true] at free
      rw [Expr.eval, Expr.eval]
      exact value.eval_below free learns
    · have several : ∀ value, elements ≠ [.interpolation value] := not_exists.mp single
      rw [Expr.eval_template env form source several, Expr.eval_template after form source several]
      refine (renderElements_below elements free learns rfl).fromResult
        (fun _ _ => .unknown _ _) ?_
      rintro text _ rfl
      exact .ok (.refl _)
  | .traversal root steps, free, env, after, learns => by
    simp only [Expr.every, Expr.isGuessFree, Bool.true_and, Bool.and_eq_true] at free
    obtain ⟨first, inner⟩ := free
    by_cases named : ∃ name, root = .variable name
    · obtain ⟨name, rfl⟩ := named
      rw [Expr.eval, Expr.eval]
      rcases rel_cases (learns.below.bindings name) with ⟨_, _, here, there, value⟩ | ⟨here, there⟩
      · rw [here, there]
        exact walk_below steps inner learns none 0 value
      · rw [here, there]
        refine (originOf_below learns.below name steps).bind fun _ _ origin => ?_
        cases origin with
        | whole value => exact .ok value
        | part taken fallback value => exact walk_below steps inner learns fallback taken value
    · have unnamed : ∀ name, root ≠ .variable name := not_exists.mp named
      rw [Expr.eval_traversal env unnamed, Expr.eval_traversal after unnamed]
      exact (root.eval_below first learns).bind fun _ _ value =>
        walk_below steps inner learns none 0 value
  | .call name arguments expand, free, env, after, learns => by
    simp only [Expr.every, Expr.isGuessFree, Bool.and_eq_true] at free
    obtain ⟨allowed, inner⟩ := free
    replace allowed : name ∉ guessingCalls := by simpa using allowed
    have plain : (name == "try") = false ∧ (name == "can") = false := by
      constructor <;> rw [beq_eq_false_iff_ne] <;> rintro rfl <;> exact allowed (by decide)
    rw [Expr.eval, Expr.eval]
    simp only [plain, Bool.false_eq_true, if_false]
    refine (evalItems_below arguments inner learns).bind fun _ _ values => ?_
    rw [← learns.below.functions]
    split
    · exact (spread_below name values).fromResult (fun _ _ => .unknown _ _)
        (learns.calls name allowed)
    · exact learns.calls name allowed _ _ values
  | .conditional condition yes no, free, _, _, learns => by
    simp only [Expr.every, Expr.isGuessFree, Bool.true_and, Bool.and_eq_true] at free
    obtain ⟨asked, first, second⟩ := free
    rw [Expr.eval, Expr.eval]
    refine (condition.eval_below asked learns).fromKnown (fun marker _ => .unknown marker _) ?_
    intro truth other value known determined
    cases value with
    | unknown => cases known
    | bool truth =>
      cases truth with
      | false => exact no.eval_below second learns
      | true => exact yes.eval_below first learns
    | string text =>
      dsimp only
      cases (Value.string text).condition? with
      | none => exact .error_left _ _
      | some truth =>
        cases truth with
        | false => exact no.eval_below second learns
        | true => exact yes.eval_below first learns
    | null | number | list | map => exact .error_left _ _
  | .unary operator operand, free, _, _, learns => by
    simp only [Expr.every, Expr.isGuessFree, Bool.true_and] at free
    rw [Expr.eval, Expr.eval]
    refine (operand.eval_below free learns).fromKnown (fun marker _ => .unknown marker _) ?_
    intro first second value known determined
    split
    · cases known
    split
    · cases determined
    exact operator.apply_below value known
  | .binary operator left right, free, _, _, learns => by
    simp only [Expr.every, Expr.isGuessFree, Bool.and_eq_true, Bool.not_eq_true'] at free
    obtain ⟨plain, first, second⟩ := free
    rw [Expr.eval, Expr.eval]
    refine (left.eval_below first learns).bind fun start image value => ?_
    refine (right.eval_below second learns).bind fun beside other operand => ?_
    rcases start.unknown_or_known with ⟨marker, rfl⟩ | known
    · exact .unknown marker _
    rw [Value.unknown?_of_known known, Value.unknown?_of_known (value.known known)]
    rcases beside.unknown_or_known with ⟨marker, rfl⟩ | determined
    · exact .unknown marker _
    rw [Value.unknown?_of_known determined, Value.unknown?_of_known (operand.known determined)]
    exact operator.apply_below plain value known operand determined
  | .listFor key value collection item condition, free, _, _, learns => by
    simp only [Expr.every, Expr.isGuessFree, Bool.true_and, Bool.and_eq_true] at free
    obtain ⟨outer, taken, asked⟩ := free
    rw [Expr.eval, Expr.eval]
    refine (collection.eval_below outer learns).fromKnown (fun marker _ => .unknown marker _) ?_
    intro first second entries known determined
    split
    · cases known
    split
    · cases determined
    refine (entries.entries? known).bind fun _ _ pairs => ?_
    refine (foldEntries_below ?_ .nil pairs).fromResult
      (fun _ _ => .unknown _ _) (fun _ _ items => .ok (.list items))
    intro state image entry other items pair
    have inner := learns.bindEntry key value pair
    refine (evalCondition_below condition asked inner).fromResult
      (fun _ _ => .undetermined _ _) ?_
    rintro chosen _ rfl
    cases chosen with
    | false => exact .ok (.known items)
    | true =>
      exact (item.eval_below taken inner).bind fun _ _ made =>
        .ok (.known (List.rel_append items (.cons made .nil)))
  | .mapFor key value collection entryKey entryValue grouping condition, free, env, after, learns => by
    simp only [Expr.every, Expr.isGuessFree, Bool.true_and, Bool.and_eq_true] at free
    obtain ⟨outer, named, taken, asked⟩ := free
    rw [Expr.eval, Expr.eval]
    refine (collection.eval_below outer learns).fromKnown (fun marker _ => .unknown marker _) ?_
    intro first second entries known determined
    split
    · cases known
    split
    · cases determined
    refine (entries.entries? known).bind fun _ _ pairs => ?_
    refine (foldEntries_below ?_ .nil pairs).fromResult
      (fun _ _ => .unknown _ _) (fun _ _ made => .ok (.map made))
    intro state image entry other before pair
    have inner := learns.bindEntry key value pair
    refine (evalCondition_below condition asked inner).fromResult
      (fun _ _ => .undetermined _ _) ?_
    rintro chosen _ rfl
    cases chosen with
    | false => exact .ok (.known before)
    | true =>
      refine (entryValue.eval_below taken inner).bind fun _ _ made => ?_
      refine (entryKey.eval_below named inner).fromKnown (fun _ _ => .undetermined _ _) ?_
      intro name image text known determined
      split
      · cases known
      split
      · cases determined
      refine (loopKey_below text known).bind ?_
      rintro key _ rfl
      exact (addEntry_below grouping before key made).bind fun _ _ added => .ok (.known added)
termination_by expr => sizeOf expr

theorem evalItems_below : ∀ (items : List Expr), everyItem Expr.isGuessFree items = true →
    ∀ {env after : Environment}, env.Learns after →
    BothRelate (List.Forall₂ Below) (evalItems env items) (evalItems after items)
  | [], _, _, _, _ => .ok .nil
  | item :: rest, free, env, after, learns => by
    obtain ⟨first, others⟩ := Bool.and_eq_true_iff.mp free
    rw [evalItems, evalItems]
    exact (item.eval_below first learns).bind fun _ _ value =>
      (evalItems_below rest others learns).bind fun _ _ values => .ok (.cons value values)
termination_by items => sizeOf items

theorem evalObject_below : ∀ (items : List (ObjectKey × Expr)),
    everyMember Expr.isGuessFree items = true →
    ∀ {env after : Environment}, env.Learns after →
    ∀ {before others : Entries Value}, EntriesBelow before others →
    BothRelate Below (evalObject env before items) (evalObject after others items)
  | [], _, _, _, _, _, _, entries => .ok (.map entries)
  | (key, value) :: rest, free, env, after, learns, before, others, entries => by
    simp only [everyMember, Bool.and_eq_true] at free
    obtain ⟨named, first, inner⟩ := free
    rw [evalObject, evalObject]
    refine (key.eval_below named learns).fromResult (fun _ _ => .unknown _ _) ?_
    rintro name _ rfl
    exact (value.eval_below first learns).bind fun _ _ made =>
      evalObject_below rest inner learns (entries.insert name made)
termination_by items => sizeOf items

theorem ObjectKey.eval_below : ∀ (key : ObjectKey), everyKey Expr.isGuessFree key = true →
    ∀ {env after : Environment}, env.Learns after →
    BothRelate (DeterminedBelow Eq) (key.eval env) (key.eval after)
  | .name text, _, _, _, _ => .ok (.known rfl)
  | .expr key, free, env, after, learns => by
    rw [ObjectKey.eval, ObjectKey.eval]
    refine (key.eval_below free learns).fromKnown (fun _ _ => .undetermined _ _) ?_
    intro first second value known _
    cases value with
    | unknown => cases known
    | bool | number | string => exact .ok (.known rfl)
    | null | list | map => exact .error_left _ _
termination_by key => sizeOf key

theorem evalCondition_below : ∀ (condition : Option Expr),
    everyCondition Expr.isGuessFree condition = true →
    ∀ {env after : Environment}, env.Learns after →
    BothRelate (DeterminedBelow Eq) (evalCondition env condition) (evalCondition after condition)
  | none, _, _, _, _ => .ok (.known rfl)
  | some condition, free, env, after, learns => by
    rw [evalCondition, evalCondition]
    refine (condition.eval_below free learns).bind fun _ _ value => ?_
    cases value with
    | unknown marker => exact .undetermined marker _
    | bool truth => exact .ok (.known rfl)
    | null | number | string | list | map => exact .error_left _ _
termination_by condition => sizeOf condition

theorem walk_below : ∀ (steps : List Step), everyStep Expr.isGuessFree steps = true →
    ∀ {env after : Environment}, env.Learns after →
    ∀ (fallback : Fallback) (taken : Nat) {first second : Value}, first.Below second →
    BothRelate Below (walk env fallback taken first steps) (walk after fallback taken second steps)
  | [], _, env, after, _, fallback, taken, _, _, value => by
    rw [walk_nil, walk_nil]
    exact .ok value
  | step :: rest, free, env, after, learns, fallback, taken, first, second, value => by
    rw [everyStep_cons, Bool.and_eq_true] at free
    obtain ⟨here, inner⟩ := free
    cases taken with
    | succ taken =>
      rw [walk_skip, walk_skip]
      exact walk_below rest inner learns fallback taken value
    | zero =>
      rcases first.unknown_or_known with ⟨marker, rfl⟩ | known
      · rw [walk_unknown]
        exact .unknown _ _
      by_cases splat : step = .each
      · subst splat
        rw [walk_each env fallback known, walk_each after fallback (value.known known)]
        exact (BothRelate.mapM (fun _ _ item => walk_below rest inner learns fallback 0 item)
          (value.splatItems known)).bind fun _ _ items => .ok (.list items)
      · rw [walk_step env fallback known splat, walk_step after fallback (value.known known) splat]
        exact (step.apply_below here learns fallback value known).bind fun _ _ next =>
          walk_below rest inner learns fallback 0 next
termination_by steps => sizeOf steps

theorem Step.apply_below : ∀ (step : Step), everyStep Expr.isGuessFree [step] = true →
    ∀ {env after : Environment}, env.Learns after →
    ∀ (fallback : Fallback) {first second : Value}, first.Below second → first.isUnknown = false →
    BothRelate Below (step.apply env fallback first) (step.apply after fallback second)
  | .attribute name, _, _, _, _, fallback, _, _, value, _ =>
    Value.attribute_below fallback name value
  | .index key, free, env, after, learns, fallback, first, second, value, known => by
    simp only [everyStep, Bool.and_true] at free
    rw [Step.apply, Step.apply]
    exact (key.eval_below free learns).bind fun _ _ position =>
      Value.itemAt_below fallback position value known
  | .position index, _, _, _, _, fallback, _, _, value, known =>
    Value.item_below fallback (.ofNat index) value known
  | .eachAttribute names, _, env, after, _, fallback, _, _, value, known => by
    rw [Step.apply, Step.apply]
    exact (BothRelate.mapM (fun _ _ item => Value.attributes_below fallback names item)
      (value.splatItems known)).bind fun _ _ items => .ok (.list items)
  | .each, _, _, _, _, _, _, _, value, known => .ok (.list (value.splatItems known))
termination_by step => sizeOf step

theorem renderElements_below : ∀ (elements : List TemplateElement),
    everyElement Expr.isGuessFree elements = true →
    ∀ {env after : Environment}, env.Learns after →
    ∀ {before other : String}, before = other →
    BothRelate (DeterminedBelow Eq) (renderElements env before elements)
      (renderElements after other elements)
  | [], _, _, _, _, _, _, same => .ok (.known same)
  | element :: rest, free, env, after, learns, before, other, same => by
    simp only [everyElement, Bool.and_eq_true] at free
    obtain ⟨here, inner⟩ := free
    rw [renderElements, renderElements]
    exact (element.render_below here learns same).fromResult (fun _ _ => .undetermined _ _)
      fun _ _ text => renderElements_below rest inner learns text
termination_by elements => sizeOf elements

theorem TemplateElement.render_below : ∀ (element : TemplateElement),
    everyPart Expr.isGuessFree element = true →
    ∀ {env after : Environment}, env.Learns after →
    ∀ {before other : String}, before = other →
    BothRelate (DeterminedBelow Eq) (element.render env before) (element.render after other)
  | .literal text, _, _, _, _, before, _, rfl => .ok (.known rfl)
  | .interpolation expr, free, env, after, learns, before, _, rfl => by
    rw [TemplateElement.render, TemplateElement.render]
    refine (expr.eval_below free learns).bind fun first second value => ?_
    cases found : first.firstUnknown? with
    | some marker => exact .undetermined _ _
    | none =>
      obtain rfl := value.eq_of_known (List.head?_eq_none_iff.mp found)
      rw [found]
      refine (BothRelate.self (fun _ => rfl) first.text).bind ?_
      rintro text _ rfl
      exact .ok (.known rfl)
  | .branch condition yes no, free, env, after, learns, before, _, rfl => by
    simp only [everyPart, Bool.and_eq_true] at free
    obtain ⟨asked, first, second⟩ := free
    rw [TemplateElement.render, TemplateElement.render]
    refine (condition.eval_below asked learns).bind fun _ _ value => ?_
    cases value with
    | unknown marker => exact .undetermined marker _
    | bool truth =>
      cases truth with
      | false => exact renderBranch_below no second learns rfl
      | true => exact renderElements_below yes first learns rfl
    | null | number | string | list | map => exact .error_left _ _
  | .loop key value collection body, free, env, after, learns, before, _, rfl => by
    simp only [everyPart, Bool.and_eq_true] at free
    obtain ⟨outer, inner⟩ := free
    rw [TemplateElement.render, TemplateElement.render]
    refine (collection.eval_below outer learns).fromKnown (fun _ _ => .undetermined _ _) ?_
    intro first second entries known determined
    split
    · cases known
    split
    · cases determined
    refine (entries.entries? known).bind fun _ _ pairs => ?_
    exact foldEntries_below (fun _ _ _ _ text pair =>
      renderElements_below body inner (learns.bindEntry key value pair) text) rfl pairs
termination_by element => sizeOf element

theorem renderBranch_below : ∀ (branch : Option (List TemplateElement)),
    everyOtherwise Expr.isGuessFree branch = true →
    ∀ {env after : Environment}, env.Learns after →
    ∀ {before other : String}, before = other →
    BothRelate (DeterminedBelow Eq) (renderBranch env before branch) (renderBranch after other branch)
  | none, _, _, _, _, _, _, same => .ok (.known same)
  | some elements, free, env, after, learns, _, _, same => by
    rw [renderBranch, renderBranch]
    exact renderElements_below elements free learns same
termination_by branch => sizeOf branch
end

/-- Filling in what is unknown in an environment only fills in unknowns of values, and leaves values
without unknowns as they were. -/
theorem Expr.value_below (host : Host) (root : Path) {env after : Environment}
    (table : env.functions = host.functions root) (below : env.Below after) (expr : Expr)
    (free : expr.every Expr.isGuessFree = true) {value image : Value}
    (before : expr.eval env = .ok value) (later : expr.eval after = .ok image) :
    value.Below image ∧ (value.unknowns = [] → image = value) := by
  have calls : MonotoneCalls env.functions := by
    rw [table]
    exact host.monotoneCalls root
  have order := expr.eval_below free ⟨below, calls⟩ value image before later
  exact ⟨order, fun known => (order.eq_of_known known).symm⟩

/-- A variable that becomes known, beside a text that was known before. -/
theorem Expr.value_below_of_variable :
    let root := Path.mk "/"
    let host : Host := ⟨.directory [], root, "/", root⟩
    let env (value : Value) : Environment := .ofScope
      { Scope.empty root root root with vars := [("name", value)] } (host.functions root)
    let expr : Expr := .array [.traversal (.variable "var") [.attribute "name"], .string "fixed"]
    let value := Value.list [.unresolved "var.name" "name", .string "fixed"]
    let image := Value.list [.string "given", .string "fixed"]
    expr.eval (env (.unresolved "var.name" "name")) = .ok value ∧
      expr.eval (env (.string "given")) = .ok image ∧ value.Below image := by
  intro root host env expr value image
  have empty : LookupBelow [] [] := fun _ => .none
  have vars : LookupBelow [("name", .unresolved "var.name" "name")] [("name", .string "given")] :=
    empty.insert "name" (.unknown _ (.string "given"))
  have below : (env (.unresolved "var.name" "name")).Below (env (.string "given")) :=
    { scope := ⟨rfl, rfl, rfl, rfl, vars, empty, empty, fun _ => .rfl⟩
      functions := rfl, each := .none, count := .none, bindings := empty }
  have before : expr.eval (env (.unresolved "var.name" "name")) = .ok value := rfl
  have later : expr.eval (env (.string "given")) = .ok image := rfl
  exact ⟨before, later, (expr.value_below host root rfl below rfl before later).1⟩

end Terradoc
