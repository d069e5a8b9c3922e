import Mathlib.Logic.Function.Iterate
import Mathlib.Order.Preorder.Finite
import Mathlib.Tactic.Choose
import Terradoc.Proofs.Templates.Expr
import Terradoc.Proofs.Templates.Stored

/-! When evaluation ends. Templates in files may render other templates and themselves, and nothing stops
those that go on without end; apart from that all evaluation ends. -/

namespace Terradoc

theorem renderFault_injective : Function.Injective renderFault := fun _ _ => renderFault_inj

theorem isTooDeep_iterate (depth : Nat) (cause : EvalError) :
    (renderFault^[depth] cause).isTooDeep = cause.isTooDeep := by
  induction depth with
  | zero => rfl
  | succ depth ih => rw [Function.iterate_succ_apply', isTooDeep_renderFault, ih]

/-- The error of a limit tells the limit. -/
theorem renderFault_iterate_ne (depth : Nat) :
    renderFault^[depth + 1] .tooDeep ≠ renderFault^[depth] .tooDeep := by
  intro same
  rw [Function.iterate_succ_apply] at same
  cases renderFault_injective.iterate depth same

/-- A result that is the same whatever error about depth there is does not tell the error. -/
theorem false_of_told {α : Type} (result : Except EvalError α) {change : EvalError → EvalError}
    (injective : Function.Injective change)
    (told : ∀ cause, cause.isTooDeep = true → result = .error (change cause)) : False := by
  have first := told .tooDeep rfl
  have second := told (renderFault .tooDeep) ((isTooDeep_renderFault .tooDeep).trans rfl)
  have same := injective (Except.error.inj (first.symm.trans second))
  cases same

section

variable (host : Host) (root : Path)

def Rendering.eval (rendering : Rendering) (render : Renderer) : Except EvalError Value :=
  rendering.template.eval ⟨Scope.empty root root host.workingDirectory,
    Renderer.functions host root render, none, none, rendering.values⟩

def Renderer.limit : Renderer := fun _ => .error .tooDeep

/-- Renders templates down to a depth, and what is nested deeper in another way. -/
def Renderer.nested (deeper : Renderer) : Nat → Renderer
  | 0 => deeper
  | depth + 1 => fun rendering => rendering.eval host root (deeper.nested depth)

/-- An evaluation with a result that does not depend on what is nested deeper than a depth. -/
def SettlesAt {α : Type} (eval : Renderer → Except EvalError α) (depth : Nat)
    (result : Except EvalError α) : Prop :=
  ∀ deeper : Renderer, eval (deeper.nested host root depth) = result

/-- An evaluation that ends: some depth is enough for its result. -/
def EndsWith {α : Type} (eval : Renderer → Except EvalError α) (result : Except EvalError α) : Prop :=
  ∃ depth, SettlesAt host root eval depth result

/-- An evaluation asks for a rendering if that, should it be too deep, ends it with the error of its call,
while all other renderings that end give what they give. -/
structure Asks {α : Type} (eval : Renderer → Except EvalError α) (wanted : Rendering) : Prop where
  stored : wanted.template.Stored host root
  stops : ∀ cause, cause.isTooDeep = true → ∃ render : Renderer,
    (∀ other ≠ wanted, ∀ result, EndsWith host root (other.eval host root) result →
      render other = result) ∧
    render wanted = .error cause ∧ eval render = .error (renderFault cause)

/-- Renderings inside one another without end: each asks for the next one. -/
def Endless (chain : Nat → Rendering) : Prop :=
  ∀ index, Asks host root ((chain index).eval host root) (chain (index + 1))

end

variable {host : Host} {root : Path} {α : Type}

theorem Rendering.eval_asking (rendering : Rendering) :
    Asking host root (rendering.eval host root) := by
  refine (renderElements_asking host root rendering.template.elements
    ⟨Scope.empty root root host.workingDirectory, functionTable host root 0, none, none,
      rendering.values⟩ "").bind fun outcome => ?_
  cases outcome <;> exact .done _

theorem Renderer.nested_nested (deeper : Renderer) (depth more : Nat) :
    (deeper.nested host root more).nested host root depth = deeper.nested host root (depth + more) := by
  induction depth with
  | zero => rw [Nat.zero_add]; rfl
  | succ depth ih => rw [Nat.succ_add, nested, nested, ih]

theorem functionTable_eq (depth : Nat) :
    functionTable host root depth = Renderer.functions host root
      (Renderer.nested host root Renderer.limit depth) := by
  induction depth with
  | zero => rfl
  | succ depth ih =>
    rw [functionTable, ih]
    rfl

namespace SettlesAt

variable {eval : Renderer → Except EvalError α} {depth deeper : Nat}
  {result other : Except EvalError α}

theorem mono (settles : SettlesAt host root eval depth result) (more : depth ≤ deeper) :
    SettlesAt host root eval deeper result := by
  obtain ⟨rest, rfl⟩ := Nat.exists_eq_add_of_le more
  intro render
  rw [← Renderer.nested_nested]
  exact settles _

theorem unique (first : SettlesAt host root eval depth result)
    (second : SettlesAt host root eval deeper other) : result = other := by
  exact ((first.mono (Nat.le_max_left ..)) Renderer.limit).symm.trans
    ((second.mono (Nat.le_max_right ..)) Renderer.limit)

end SettlesAt

/-- Some renderer gives what every rendering ends with, but for one of which it gives something else. -/
theorem exists_renderer (wanted : Rendering) (answer : Except EvalError Value) :
    ∃ render : Renderer, render wanted = answer ∧ ∀ other ≠ wanted, ∀ result,
      EndsWith host root (other.eval host root) result → render other = result := by
  classical
  let render : Renderer := fun rendering =>
    if rendering = wanted then answer
    else if ends : ∃ result, EndsWith host root (rendering.eval host root) result then ends.choose
    else .error .tooDeep
  refine ⟨render, if_pos rfl, fun other differ result ends => ?_⟩
  have some : ∃ result, EndsWith host root (other.eval host root) result := ⟨result, ends⟩
  have chosen : render other = some.choose := (if_neg differ).trans (dif_pos some)
  obtain ⟨_, first⟩ := some.choose_spec
  obtain ⟨_, second⟩ := ends
  exact chosen.trans (first.unique second)

namespace Asking

variable {eval : Renderer → Except EvalError α} (asking : Asking host root eval)
include asking

/-- At every depth either the result is settled or evaluation stops with the error from below. -/
theorem settles_or_stops (depth : Nat) :
    (∃ result, SettlesAt host root eval depth result) ∨
      ∀ cause, cause.isTooDeep = true →
        eval (Renderer.nested host root (fun _ => .error cause) depth) =
          .error (renderFault^[depth + 1] cause) := by
  induction depth generalizing α with
  | zero =>
    cases asking with
    | done result => exact .inl ⟨result, fun _ => rfl⟩
    | ask wanted stored next stops later => exact .inr fun cause deep => stops cause deep _
  | succ depth ih =>
    induction asking with
    | done result => exact .inl ⟨result, fun _ => rfl⟩
    | ask wanted stored next stops later inner =>
      rcases ih wanted.eval_asking with ⟨answer, settled⟩ | stopped
      · have told : ∀ deeper : Renderer, deeper.nested host root (depth + 1) wanted = answer := settled
        simp only [SettlesAt, told]
        exact inner answer
      · refine .inr fun cause deep => ?_
        have told : Renderer.nested host root (fun _ => .error cause) (depth + 1) wanted =
          .error (renderFault^[depth + 1] cause) := stopped cause deep
        dsimp only
        rw [told, stops _ ((isTooDeep_iterate ..).trans deep), Function.iterate_succ_apply' _ (depth + 1)]

/-- The result for all limits from some limit on is settled. -/
theorem endsWith_iff {result : Except EvalError α} :
    EndsWith host root eval result ↔ ∃ depth, ∀ deeper ≥ depth,
      eval (Renderer.nested host root Renderer.limit deeper) = result := by
  constructor
  · rintro ⟨depth, settled⟩
    exact ⟨depth, fun deeper more => settled.mono more _⟩
  · rintro ⟨depth, same⟩
    have settledAt : ∀ deeper ≥ depth, ∀ other, SettlesAt host root eval deeper other →
        EndsWith host root eval result := fun deeper more other settled =>
      ⟨deeper, (settled _).symm.trans (same deeper more) ▸ settled⟩
    rcases asking.settles_or_stops depth with ⟨other, settled⟩ | first
    · exact settledAt depth (Nat.le_refl _) other settled
    · rcases asking.settles_or_stops (depth + 1) with ⟨other, settled⟩ | second
      · exact settledAt (depth + 1) (Nat.le_succ _) other settled
      · -- The error of a limit tells the limit, so that two limits do not give the same.
        have one := (first .tooDeep rfl).symm.trans (same depth (Nat.le_refl _))
        have two := (second .tooDeep rfl).symm.trans (same (depth + 1) (Nat.le_succ _))
        exact (renderFault_iterate_ne (depth + 1) (Except.error.inj (two.trans one.symm))).elim

/-- An evaluation that does not end asks for a rendering that does not. -/
theorem endsWith_or_asks : (∃ result, EndsWith host root eval result) ∨
    ∃ wanted, Asks host root eval wanted ∧
      ¬ ∃ result, EndsWith host root (wanted.eval host root) result := by
  induction asking with
  | done result => exact .inl ⟨result, 0, fun _ => rfl⟩
  | ask wanted stored next stops later ih =>
    by_cases ends : ∃ answer, EndsWith host root (wanted.eval host root) answer
    · obtain ⟨answer, depth, settled⟩ := ends
      rcases ih answer with ⟨result, deeper, later⟩ | ⟨inner, asks, endless⟩
      · refine .inl ⟨result, max depth deeper + 1, fun render => ?_⟩
        have told : render.nested host root (max depth deeper + 1) wanted = answer :=
          settled.mono (Nat.le_max_left ..) render
        dsimp only
        rw [told]
        exact later.mono (Nat.le_succ_of_le (Nat.le_max_right ..)) render
      · have differ : wanted ≠ inner := by
          rintro rfl
          exact endless ⟨answer, depth, settled⟩
        refine .inr ⟨inner, ⟨asks.stored, fun cause deep => ?_⟩, endless⟩
        obtain ⟨render, consistent, refused, stopped⟩ := asks.stops cause deep
        refine ⟨render, consistent, refused, ?_⟩
        rw [consistent wanted differ answer ⟨depth, settled⟩]
        exact stopped
    · refine .inr ⟨wanted, ⟨stored, fun cause deep => ?_⟩, ends⟩
      obtain ⟨render, refused, consistent⟩ := exists_renderer wanted (.error cause)
      refine ⟨render, consistent, refused, ?_⟩
      rw [refused]
      exact stops cause deep render

/-- What a settled evaluation asks for is settled at a lower depth. -/
theorem settles_below {depth : Nat} {result : Except EvalError α} {wanted : Rendering}
    (settled : SettlesAt host root eval depth result) (asks : Asks host root eval wanted) :
    ∃ less < depth, ∃ answer, SettlesAt host root (wanted.eval host root) less answer := by
  induction asking with
  | done other =>
    refine (false_of_told other renderFault_injective fun cause deep => ?_).elim
    obtain ⟨_, _, _, stopped⟩ := asks.stops cause deep
    exact stopped
  | ask first stored next stops later ih =>
    cases depth with
    | zero =>
      refine (false_of_told result renderFault_injective fun cause deep => ?_).elim
      exact (settled fun _ => .error cause).symm.trans (stops cause deep _)
    | succ depth =>
      rcases first.eval_asking.settles_or_stops depth with ⟨answer, fixed⟩ | stopped
      · have told : ∀ deeper : Renderer, deeper.nested host root (depth + 1) first = answer := fixed
        by_cases same : first = wanted
        · subst same
          exact ⟨depth, Nat.lt_succ_self _, answer, fixed⟩
        · refine ih answer (fun deeper => ?_) ⟨asks.stored, fun cause deep => ?_⟩
          · have whole := settled deeper
            dsimp only at whole
            rw [told] at whole
            exact whole
          · obtain ⟨render, consistent, refused, ended⟩ := asks.stops cause deep
            rw [consistent first same answer ⟨depth, fixed⟩] at ended
            exact ⟨render, consistent, refused, ended⟩
      · refine (false_of_told result (renderFault_injective.iterate (depth + 2)) fun cause deep => ?_).elim
        have told : Renderer.nested host root (fun _ => .error cause) (depth + 1) first =
          .error (renderFault^[depth + 1] cause) := stopped cause deep
        have whole := settled fun _ => .error cause
        dsimp only at whole
        rw [told, stops _ ((isTooDeep_iterate ..).trans deep)] at whole
        rw [Function.iterate_succ_apply']
        exact whole.symm

end Asking

/-- A rendering that does not end starts renderings inside one another without end. -/
theorem exists_chain {first : Rendering}
    (endless : ¬ ∃ result, EndsWith host root (first.eval host root) result) :
    ∃ chain, chain 0 = first ∧ Endless host root chain := by
  let Open := { rendering : Rendering //
    ¬ ∃ result, EndsWith host root (rendering.eval host root) result }
  have inner : ∀ rendering : Open, ∃ wanted : Open,
      Asks host root (rendering.val.eval host root) wanted.val := by
    rintro ⟨rendering, endless⟩
    rcases rendering.eval_asking.endsWith_or_asks with ends | ⟨wanted, asks, still⟩
    · exact absurd ends endless
    · exact ⟨⟨wanted, still⟩, asks⟩
  choose next asks using inner
  refine ⟨fun index => (next^[index] ⟨first, endless⟩).val, rfl, fun index => ?_⟩
  dsimp only
  rw [Function.iterate_succ_apply']
  exact asks _

namespace Endless

variable {chain : Nat → Rendering} (endless : Endless host root chain)
include endless

theorem not_settlesAt (depth index : Nat) (result : Except EvalError Value) :
    ¬ SettlesAt host root ((chain index).eval host root) depth result := by
  induction depth using Nat.strongRecOn generalizing index result with
  | ind depth ih =>
    intro settled
    obtain ⟨less, lower, answer, inner⟩ :=
      (chain index).eval_asking.settles_below settled (endless index)
    exact ih less lower (index + 1) answer inner

/-- Some template is rendered inside itself. -/
theorem exists_repeated :
    ∃ outer inner, outer < inner ∧ (chain outer).template = (chain inner).template := by
  have stored : ∀ index, (chain (index + 1)).template ∈
      {template : Template | template.Stored host root} := fun index => (endless index).stored
  obtain ⟨outer, inner, before, same⟩ :=
    Set.Finite.exists_lt_map_eq_of_forall_mem stored (finite_stored host root)
  exact ⟨outer + 1, inner + 1, Nat.succ_lt_succ before, same⟩

end Endless

/-- Evaluation ends, with a result that does not depend on how deep templates may be nested, unless it
renders the template of a file, which renders the template of a file, and so on without end; and then some
template is rendered inside itself. -/
theorem Expr.eval_ends_iff (host : Host) (root : Path) (env : Environment) (expr : Expr) :
    ((∃ depth result, ∀ deeper ≥ depth,
        expr.eval { env with functions := functionTable host root deeper } = result) ↔
      ¬ ∃ chain, Endless host root chain ∧
        Asks host root (fun render => expr.eval (env.rendering host root render)) (chain 0)) ∧
    ∀ chain, Endless host root chain →
      ∃ outer inner, outer < inner ∧ (chain outer).template = (chain inner).template := by
  have asking := expr.eval_asking host root env
  have ends_iff : (∃ depth result, ∀ deeper ≥ depth,
      expr.eval { env with functions := functionTable host root deeper } = result) ↔
      ∃ result, EndsWith host root (fun render => expr.eval (env.rendering host root render)) result := by
    simp only [asking.endsWith_iff, functionTable_eq]
    exact exists_comm
  rw [ends_iff]
  refine ⟨⟨?_, fun bounded => ?_⟩, fun chain endless => endless.exists_repeated⟩
  · rintro ⟨result, depth, settled⟩ ⟨chain, endless, first⟩
    obtain ⟨less, -, answer, inner⟩ := asking.settles_below settled first
    exact endless.not_settlesAt less 0 answer inner
  · rcases asking.endsWith_or_asks with ends | ⟨wanted, first, still⟩
    · exact ends
    · obtain ⟨chain, rfl, endless⟩ := exists_chain still
      exact absurd ⟨chain, endless, first⟩ bounded

/-- A call that renders a file without values. -/
def renderingCall (path : String) : Expr := .call "templatefile" [.string path, .object []] false

theorem renderingCall_eval {path text : String} {template : Template}
    (read : Functions.readFile host root path = .ok text)
    (parsed : Template.parse? text = some template) (env : Environment) (render : Renderer) :
    (renderingCall path).eval (env.rendering host root render) =
      (render ⟨template, []⟩).mapError renderFault := by
  have accepted : (templateFunction host root render).call [.string path, .map []] =
      Functions.renderFile host root (fun template values => render ⟨template, values⟩) path [] := rfl
  have whole : (renderingCall path).eval (env.rendering host root render) =
      Renderer.functions host root render "templatefile" [.string path, .map []] := by
    simp [renderingCall, Expr.eval, evalItems, evalObject, Bind.bind, Except.bind, Pure.pure, Except.pure]
  rw [whole, Renderer.functions, callAmong, get?_functionsWith_templatefile]
  dsimp only
  rw [accepted, Functions.renderFile, read]
  simp only [Bind.bind, Except.bind, parsed]
  cases render ⟨template, []⟩ <;> rfl

/-- Whether a template does nothing but render a file. -/
def Template.renders (path : String) (template : Template) : Bool :=
  match template.elements with
  | [.interpolation (.call name [.string other, .object []] false)] =>
    name == "templatefile" && other == path
  | _ => false

theorem Template.elements_of_renders {path : String} {template : Template}
    (renders : template.renders path = true) :
    template.elements = [.interpolation (renderingCall path)] := by
  unfold Template.renders at renders
  split at renders
  · rename_i shape
    simp only [Bool.and_eq_true, beq_iff_eq] at renders
    rw [shape, renders.1, renders.2, renderingCall]
  · cases renders

/-- A file that renders itself: at every depth the error of the limit comes back. -/
theorem nested_of_renders {path text : String} {template : Template}
    (read : Functions.readFile host root path = .ok text)
    (parsed : Template.parse? text = some template) (renders : template.renders path = true)
    (depth : Nat) :
    Renderer.nested host root Renderer.limit depth ⟨template, []⟩ =
      .error (renderFault^[depth] .tooDeep) := by
  induction depth with
  | zero => rfl
  | succ depth ih =>
    let env : Environment := .ofScope (Scope.empty root root host.workingDirectory)
      (functionTable host root 0)
    have called := renderingCall_eval read parsed env
      (Renderer.nested host root Renderer.limit depth)
    rw [ih] at called
    show Template.eval (env.rendering host root _) template = _
    simp only [Template.eval, Template.elements_of_renders renders, renderElements,
      TemplateElement.render, called, Except.mapError, Bind.bind, Except.bind,
      Function.iterate_succ_apply']

/-- A file that renders itself: whatever the limit, evaluation stops with the error of the limit, so that
it does not end. -/
theorem renderingCall_never_ends :
    let host : Host := ⟨.directory [("a.tpl",
      .file (Text.toBytes "$\x7btemplatefile(\"a.tpl\", \x7b\x7d)\x7d"))], ⟨"/"⟩, "/", ⟨"/tmp"⟩⟩
    let env (depth : Nat) : Environment := .ofScope (Scope.empty ⟨"/"⟩ ⟨"/"⟩ ⟨"/"⟩)
      (functionTable host ⟨"/"⟩ depth)
    (∀ depth, (renderingCall "a.tpl").eval (env depth) = .error (renderFault^[depth + 1] .tooDeep)) ∧
      ¬ ∃ depth result, ∀ deeper ≥ depth, (renderingCall "a.tpl").eval (env deeper) = result := by
  intro host env
  have stored : ((Functions.readFile host ⟨"/"⟩ "a.tpl").toOption.bind Template.parse?).map
      (Template.renders "a.tpl") = some true := by decide +kernel
  obtain ⟨template, found, renders⟩ := Option.map_eq_some_iff.mp stored
  obtain ⟨text, present, parsed⟩ := Option.bind_eq_some_iff.mp found
  have read : Functions.readFile host ⟨"/"⟩ "a.tpl" = .ok text := by
    cases content : Functions.readFile host ⟨"/"⟩ "a.tpl" with
    | error => rw [content] at present; cases present
    | ok other => rw [content] at present; exact congrArg Except.ok (Option.some.inj present)
  have stops : ∀ depth, (renderingCall "a.tpl").eval (env depth) =
      .error (renderFault^[depth + 1] .tooDeep) := by
    intro depth
    have called := renderingCall_eval read parsed (env depth)
      (Renderer.nested host ⟨"/"⟩ Renderer.limit depth)
    rw [nested_of_renders read parsed renders] at called
    rw [Function.iterate_succ_apply']
    simp only [env, functionTable_eq]
    exact called
  refine ⟨stops, ?_⟩
  rintro ⟨depth, result, same⟩
  have equal := ((stops (depth + 1)).symm.trans (same (depth + 1) (Nat.le_succ _))).trans
    ((stops depth).symm.trans (same depth (Nat.le_refl _))).symm
  exact renderFault_iterate_ne (depth + 1) (Except.error.inj equal)

end Terradoc
