import Terradoc.Proofs.Eval.Steps
import Terradoc.Proofs.Templates.Asking

namespace Terradoc

namespace Environment

/-- The environment where templates of files are rendered in a way. -/
def rendering (env : Environment) (host : Host) (root : Path) (render : Renderer) : Environment :=
  { env with functions := Renderer.functions host root render }

variable (env : Environment) (host : Host) (root : Path) (render : Renderer)

@[simp] theorem rendering_bindings : (env.rendering host root render).bindings = env.bindings := rfl

@[simp] theorem rendering_functions :
    (env.rendering host root render).functions = Renderer.functions host root render := rfl

@[simp] theorem rendering_bindEntry (key : Option String) (value : String) (entry : Value × Value) :
    (env.rendering host root render).bindEntry key value entry =
      (env.bindEntry key value entry).rendering host root render := by
  cases key <;> rfl

@[simp] theorem originOf_rendering (name : String) (steps : List Step) :
    originOf (env.rendering host root render) name steps = originOf env name steps := rfl

end Environment

variable (host : Host) (root : Path)

mutual
theorem Expr.eval_asking : ∀ (expr : Expr) (env : Environment),
    Asking host root fun render => expr.eval (env.rendering host root render)
  | .null, _ | .bool _, _ | .number _, _ | .string _, _ => by
    simp only [Expr.eval]
    exact .done _
  | .variable name, env => by
    simp only [Expr.eval]
    exact .done (variableValue env name)
  | .parens inner, env => by
    simp only [Expr.eval]
    exact inner.eval_asking env
  | .array items, env => by
    simp only [Expr.eval]
    exact (evalItems_asking items env).bind fun _ => .done _
  | .object items, env => by
    simp only [Expr.eval]
    exact evalObject_asking items env []
  | .template form source elements, env => by
    by_cases single : ∃ value, elements = [.interpolation value]
    · obtain ⟨value, rfl⟩ := single
      simp only [Expr.eval]
      exact value.eval_asking env
    · have several : ∀ value, elements ≠ [.interpolation value] := not_exists.mp single
      simp only [Expr.eval_template _ form source several, Template.eval]
      refine (renderElements_asking elements env "").bind fun outcome => ?_
      cases outcome <;> exact .done _
  | .traversal start steps, env => by
    by_cases named : ∃ name, start = .variable name
    · obtain ⟨name, rfl⟩ := named
      simp only [Expr.eval, Environment.rendering_bindings, Environment.originOf_rendering]
      cases Entries.get? env.bindings name with
      | some value => exact walk_asking steps env none 0 value
      | none =>
        refine (Asking.done _).bind fun origin => ?_
        cases origin with
        | whole value => exact .done _
        | part taken fallback value => exact walk_asking steps env fallback taken value
    · have unnamed : ∀ name, start ≠ .variable name := not_exists.mp named
      simp only [Expr.eval_traversal _ unnamed]
      exact (start.eval_asking env).bind fun value => walk_asking steps env none 0 value
  | .call name arguments expand, env => by
    simp only [Expr.eval]
    by_cases first : name = "try"
    · simp only [first, beq_self_eq_true, ↓reduceIte]
      exact evalFirst_asking arguments env _
    · by_cases tested : name = "can"
      · simp only [tested, beq_iff_eq, ↓reduceIte]
        exact evalCan_asking arguments env
      · simp only [first, tested, beq_iff_eq, ↓reduceIte, Environment.rendering_functions]
        refine (evalItems_asking arguments env).bind fun values => ?_
        cases expand with
        | false => exact call_asking host root name values
        | true =>
          refine (Asking.done (spread name values)).bind fun outcome => ?_
          cases outcome with
          | known values => exact call_asking host root name values
          | unknown marker => exact .done _
  | .conditional condition yes no, env => by
    simp only [Expr.eval]
    refine (condition.eval_asking env).bind fun value => ?_
    cases value
    case unknown => exact .done _
    all_goals
      dsimp only
      generalize Value.condition? _ = answer
      match answer with
      | some true => exact yes.eval_asking env
      | some false => exact no.eval_asking env
      | none => exact .done _
  | .unary operator operand, env => by
    simp only [Expr.eval]
    exact (operand.eval_asking env).bind fun _ => .done _
  | .binary operator left right, env => by
    simp only [Expr.eval]
    exact (left.eval_asking env).bind fun _ => (right.eval_asking env).bind fun _ => .done _
  | .listFor key value collection item condition, env => by
    simp only [Expr.eval, Environment.rendering_bindEntry]
    refine (collection.eval_asking env).bind fun whole => ?_
    cases whole
    case unknown => exact .done _
    all_goals
      refine (Asking.done _).bind fun entries => ?_
      refine Asking.bind ?_ fun outcome => by cases outcome <;> exact .done _
      refine Asking.foldEntries (fun items entry => ?_) [] entries
      refine (evalCondition_asking condition _).bind fun taken => ?_
      match taken with
      | .unknown marker => exact .done _
      | .known false => exact .done _
      | .known true => exact (item.eval_asking _).bind fun _ => .done _
  | .mapFor key value collection entryKey entryValue grouping condition, env => by
    simp only [Expr.eval, Environment.rendering_bindEntry]
    refine (collection.eval_asking env).bind fun whole => ?_
    cases whole
    case unknown => exact .done _
    all_goals
      refine (Asking.done _).bind fun entries => ?_
      refine Asking.bind ?_ fun outcome => by cases outcome <;> exact .done _
      refine Asking.foldEntries (fun made entry => ?_) [] entries
      refine (evalCondition_asking condition _).bind fun taken => ?_
      match taken with
      | .unknown marker => exact .done _
      | .known false => exact .done _
      | .known true =>
        exact (entryValue.eval_asking _).bind fun _ => (entryKey.eval_asking _).bind fun _ => .done _
termination_by expr => sizeOf expr

theorem evalItems_asking : ∀ (items : List Expr) (env : Environment),
    Asking host root fun render => evalItems (env.rendering host root render) items
  | [], _ => by
    simp only [evalItems]
    exact .done _
  | item :: rest, env => by
    simp only [evalItems]
    exact (item.eval_asking env).bind fun _ => (evalItems_asking rest env).bind fun _ => .done _
termination_by items => sizeOf items

theorem evalFirst_asking : ∀ (items : List Expr) (env : Environment) (last : EvalError),
    Asking host root fun render => evalFirst (env.rendering host root render) last items
  | [], _, _ => by
    simp only [evalFirst]
    exact .done _
  | item :: rest, env, _ => by
    simp only [evalFirst]
    refine Asking.congr ((item.eval_asking env).attempt Except.ok fun cause =>
      evalFirst_asking rest env cause) fun render => ?_
    cases item.eval (env.rendering host root render) <;> rfl
termination_by items => sizeOf items

theorem evalCan_asking : ∀ (items : List Expr) (env : Environment),
    Asking host root fun render => evalCan (env.rendering host root render) items
  | [], _ => .done _
  | [item], env => by
    simp only [evalCan]
    refine Asking.congr ((item.eval_asking env).attempt (fun
      | .unknown marker => .ok (.unknown marker)
      | _ => .ok (.bool true)) fun _ => .done (.ok (.bool false))) fun render => ?_
    rcases item.eval (env.rendering host root render) with cause | value
    · rfl
    · cases value <;> rfl
  | _ :: _ :: _, _ => .done _
termination_by items => sizeOf items

theorem evalObject_asking : ∀ (items : List (ObjectKey × Expr)) (env : Environment)
    (before : Entries Value),
    Asking host root fun render => evalObject (env.rendering host root render) before items
  | [], _, _ => by
    simp only [evalObject]
    exact .done _
  | (key, value) :: rest, env, before => by
    simp only [evalObject]
    refine (key.eval_asking env).bind fun outcome => ?_
    cases outcome with
    | unknown marker => exact .done _
    | known name => exact (value.eval_asking env).bind fun _ => evalObject_asking rest env _
termination_by items => sizeOf items

theorem ObjectKey.eval_asking : ∀ (key : ObjectKey) (env : Environment),
    Asking host root fun render => key.eval (env.rendering host root render)
  | .name _, _ => by
    simp only [ObjectKey.eval]
    exact .done _
  | .expr key, env => by
    simp only [ObjectKey.eval]
    exact (key.eval_asking env).bind fun _ => .done _
termination_by key => sizeOf key

theorem evalCondition_asking : ∀ (condition : Option Expr) (env : Environment),
    Asking host root fun render => evalCondition (env.rendering host root render) condition
  | none, _ => by
    simp only [evalCondition]
    exact .done _
  | some condition, env => by
    simp only [evalCondition]
    exact (condition.eval_asking env).bind fun _ => .done _
termination_by condition => sizeOf condition

theorem walk_asking : ∀ (steps : List Step) (env : Environment) (fallback : Fallback) (taken : Nat)
    (value : Value),
    Asking host root fun render => walk (env.rendering host root render) fallback taken value steps
  | [], _, _, _, _ => by
    simp only [walk_nil]
    exact .done _
  | step :: rest, env, fallback, taken, value => by
    cases taken with
    | succ taken =>
      simp only [walk_skip]
      exact walk_asking rest env fallback taken value
    | zero =>
      rcases value.unknown_or_known with ⟨marker, rfl⟩ | known
      · simp only [walk_unknown]
        exact .done _
      by_cases splat : step = .each
      · subst splat
        simp only [walk_each _ fallback known]
        exact (Asking.mapM (fun item => walk_asking rest env fallback 0 item) _).bind fun _ => .done _
      · simp only [walk_step _ fallback known splat]
        exact (step.apply_asking env fallback value).bind fun next =>
          walk_asking rest env fallback 0 next
termination_by steps => sizeOf steps

theorem Step.apply_asking : ∀ (step : Step) (env : Environment) (fallback : Fallback) (value : Value),
    Asking host root fun render => step.apply (env.rendering host root render) fallback value
  | .attribute _, _, _, _ | .position _, _, _, _ | .eachAttribute _, _, _, _ | .each, _, _, _ => by
    simp only [Step.apply]
    exact .done _
  | .index key, env, _, _ => by
    simp only [Step.apply]
    exact (key.eval_asking env).bind fun _ => .done _
termination_by step => sizeOf step

theorem renderElements_asking : ∀ (elements : List TemplateElement) (env : Environment)
    (before : String),
    Asking host root fun render => renderElements (env.rendering host root render) before elements
  | [], _, _ => by
    simp only [renderElements]
    exact .done _
  | element :: rest, env, before => by
    simp only [renderElements]
    refine (element.render_asking env before).bind fun outcome => ?_
    cases outcome with
    | known text => exact renderElements_asking rest env text
    | unknown marker => exact .done _
termination_by elements => sizeOf elements

theorem TemplateElement.render_asking : ∀ (element : TemplateElement) (env : Environment)
    (before : String),
    Asking host root fun render => element.render (env.rendering host root render) before
  | .literal _, _, _ => by
    simp only [TemplateElement.render]
    exact .done _
  | .interpolation value, env, _ => by
    simp only [TemplateElement.render]
    exact (value.eval_asking env).bind fun _ => .done _
  | .branch condition yes no, env, before => by
    simp only [TemplateElement.render]
    refine (condition.eval_asking env).bind fun answer => ?_
    match answer with
    | .bool true => exact renderElements_asking yes env before
    | .bool false => exact renderBranch_asking no env before
    | .unknown _ | .null | .number _ | .string _ | .list _ | .map _ => exact .done _
  | .loop key value collection body, env, before => by
    simp only [TemplateElement.render, Environment.rendering_bindEntry]
    refine (collection.eval_asking env).bind fun whole => ?_
    cases whole
    case unknown => exact .done _
    all_goals
      exact (Asking.done _).bind fun entries =>
        Asking.foldEntries (fun text entry => renderElements_asking body _ text) before entries
termination_by element => sizeOf element

theorem renderBranch_asking : ∀ (branch : Option (List TemplateElement)) (env : Environment)
    (before : String),
    Asking host root fun render => renderBranch (env.rendering host root render) before branch
  | none, _, _ => by
    simp only [renderBranch]
    exact .done _
  | some elements, env, before => by
    simp only [renderBranch]
    exact renderElements_asking elements env before
termination_by branch => sizeOf branch
end

end Terradoc
