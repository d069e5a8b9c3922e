import Terradoc.Function.Library

/-! Evaluation that asks for renderings of templates. It asks for one after the other, where what it asks
for next may depend on what it was told, and it stops as soon as one of them is too deep. -/

namespace Terradoc

/-- A template, and the values that it is rendered with. -/
structure Rendering where
  template : Template
  values : Entries Value

abbrev Renderer := Rendering → Except EvalError Value

/-- The error of a call that renders a template which fails. -/
def renderFault (cause : EvalError) : EvalError := .call "templatefile" (.template cause)

@[simp] theorem isTooDeep_renderFault (cause : EvalError) :
    (renderFault cause).isTooDeep = cause.isTooDeep := by
  simp [renderFault, EvalError.isTooDeep, CallFault.isTooDeep]

theorem renderFault_inj {left right : EvalError} (same : renderFault left = renderFault right) :
    left = right := by
  simpa [renderFault] using same

section

variable (host : Host) (root : Path)

def Template.Stored (template : Template) : Prop :=
  ∃ path text, Functions.readFile host root path = .ok text ∧ Template.parse? text = some template

/-- The functions of the language with a way to render the templates of files. -/
def Renderer.functions (render : Renderer) : FunctionTable :=
  callAmong (functionsWith host root fun template values => render ⟨template, values⟩)

/-- Evaluation by steps: it has its result, or it asks for the rendering of a template and goes on with
what that gives. One that is too deep ends it with the error of the call. -/
inductive Asking {α : Type} : (Renderer → Except EvalError α) → Prop where
  | done (result : Except EvalError α) : Asking fun _ => result
  | ask (wanted : Rendering) (stored : wanted.template.Stored host root)
      (next : Except EvalError Value → Renderer → Except EvalError α)
      (stops : ∀ cause, cause.isTooDeep = true → ∀ render,
        next (.error cause) render = .error (renderFault cause))
      (later : ∀ answer, Asking (next answer)) : Asking fun render => next (render wanted) render

end

namespace Asking

variable {host : Host} {root : Path} {α β : Type}

theorem congr {first second : Renderer → Except EvalError α} (asks : Asking host root first)
    (same : ∀ render, second render = first render) : Asking host root second := by
  rw [funext same]
  exact asks

/-- What looks at the result of an evaluation asks as well, if it leaves an error as it is that is about
depth. -/
theorem handle {first : Renderer → Except EvalError α} (start : Asking host root first)
    {onValue : α → Renderer → Except EvalError β} {onError : EvalError → Renderer → Except EvalError β}
    (value : ∀ result, Asking host root (onValue result))
    (error : ∀ cause, Asking host root (onError cause))
    (deep : ∀ cause, cause.isTooDeep = true → ∀ render, onError cause render = .error cause) :
    Asking host root fun render =>
      match first render with
      | .ok result => onValue result render
      | .error cause => onError cause render := by
  induction start with
  | done result =>
    cases result with
    | ok result => exact value result
    | error cause => exact error cause
  | ask wanted stored next stops later ih =>
    refine .ask wanted stored (fun answer render =>
      match next answer render with
      | .ok result => onValue result render
      | .error cause => onError cause render) (fun cause tooDeep render => ?_) ih
    rw [stops cause tooDeep]
    exact deep _ ((isTooDeep_renderFault cause).trans tooDeep) render

/-- What tries something else after an error, unless that is about depth, asks as well. -/
theorem attempt {first : Renderer → Except EvalError α} (start : Asking host root first)
    (onValue : α → Except EvalError β) {onError : EvalError → Renderer → Except EvalError β}
    (error : ∀ cause, Asking host root (onError cause)) :
    Asking host root fun render =>
      match first render with
      | .ok result => onValue result
      | .error cause => if cause.isTooDeep then .error cause else onError cause render := by
  refine start.handle (fun result => .done (onValue result)) (fun cause => ?_)
    fun cause tooDeep render => if_pos tooDeep
  cases cause.isTooDeep with
  | true => exact .done _
  | false => exact error cause

theorem bind {first : Renderer → Except EvalError α} (start : Asking host root first)
    {next : α → Renderer → Except EvalError β} (rest : ∀ result, Asking host root (next result)) :
    Asking host root fun render => first render >>= fun result => next result render := by
  refine (start.handle rest (fun cause => .done (.error cause)) fun _ _ _ => rfl).congr fun render => ?_
  cases first render <;> rfl

theorem mapM {step : α → Renderer → Except EvalError β} (turn : ∀ item, Asking host root (step item))
    (items : List α) : Asking host root fun render => items.mapM fun item => step item render := by
  induction items with
  | nil => exact .done (.ok [])
  | cons item rest ih =>
    simp only [List.mapM_cons]
    exact (turn item).bind fun first => ih.bind fun others => .done (.ok (first :: others))

theorem foldEntries {step : α → Value × Value → Renderer → Except EvalError (Determined α)}
    (turn : ∀ state entry, Asking host root (step state entry)) (state : α)
    (entries : List (Value × Value)) :
    Asking host root fun render =>
      Terradoc.foldEntries (fun state entry => step state entry render) state entries := by
  induction entries generalizing state with
  | nil => exact .done _
  | cons entry rest ih =>
    refine (turn state entry).bind fun outcome => ?_
    cases outcome with
    | known state => exact ih state
    | unknown marker => exact .done _

end Asking

section

variable (host : Host) (root : Path)

/-- A function that renders no files does not depend on how they are rendered. -/
theorem get?_functionsWith {name : String} (other : name ≠ "templatefile")
    (render : Template → Entries Value → Except EvalError Value) :
    Entries.get? (functionsWith host root render) name =
      Entries.get? (functionsWith host root fun _ _ => .error .tooDeep) name := by
  simp only [functionsWith, Entries.get?_append, Functions.fileFunctions, Entries.get?_cons,
    Entries.get?_nil, beq_iff_eq, other, ↓reduceIte]

def templateFunction (render : Renderer) : Function :=
  ⟨[.text, .map], none, true, fun (path, values, ()) =>
    Functions.renderFile host root (fun template values => render ⟨template, values⟩) path values⟩

theorem get?_functionsWith_templatefile (render : Renderer) :
    Entries.get? (functionsWith host root fun template values => render ⟨template, values⟩)
      "templatefile" = some (templateFunction host root render) := by
  have texts : Entries.get? Functions.textFunctions "templatefile" = none := rfl
  have collections : Entries.get? Functions.collectionFunctions "templatefile" = none := rfl
  have numbers : Entries.get? Functions.numericFunctions "templatefile" = none := rfl
  have conversions : Entries.get? Functions.conversionFunctions "templatefile" = none := rfl
  have encodings : Entries.get? Functions.encodingFunctions "templatefile" = none := rfl
  have times : Entries.get? Functions.timeFunctions "templatefile" = none := rfl
  simp only [functionsWith, Entries.get?_append, texts, collections, numbers, conversions, encodings,
    times, Option.none_or]
  rfl

/-- A file that is rendered asks for its template, if it holds one. -/
theorem renderFile_asking (path : String) (values : Entries Value) :
    Asking host root fun render =>
      (Functions.renderFile host root (fun template values => render ⟨template, values⟩) path
        values).mapError (EvalError.call "templatefile") := by
  unfold Functions.renderFile
  cases read : Functions.readFile host root path with
  | error cause => exact .done _
  | ok text =>
    cases parsed : Template.parse? text with
    | none =>
      refine Asking.congr (.done (.error (.call "templatefile" (.badTemplate path)))) fun render => ?_
      simp only [Bind.bind, Except.bind, parsed]
      rfl
    | some template =>
      let next (answer : Except EvalError Value) (_ : Renderer) : Except EvalError Value :=
        answer.mapError renderFault
      refine Asking.congr (.ask ⟨template, values⟩ ⟨path, text, read, parsed⟩ next
        (fun _ _ _ => rfl) fun answer => .done _) fun render => ?_
      simp only [Bind.bind, Except.bind, parsed, next]
      cases render ⟨template, values⟩ <;> rfl

/-- A call of the function that renders files fails as the function fails, or asks for a template. -/
theorem templateFunction_asking (values : List Value) :
    Asking host root fun render =>
      ((templateFunction host root render).call values).mapError (.call "templatefile") := by
  -- Until a file is rendered nothing depends on how that is done.
  let plain := templateFunction host root fun _ => .error .tooDeep
  have taken : ∀ render, (templateFunction host root render).takes = plain.takes := fun _ => rfl
  have blocked : ∀ render, (templateFunction host root render).blocking? = plain.blocking? :=
    fun _ => rfl
  simp only [Function.call, taken, blocked]
  split
  · exact .done (.error (.call "templatefile" (.arity 2 values.length false)))
  · cases plain.blocking? values with
    | some marker => exact .done _
    | none =>
      show Asking host root fun render => (((Arguments.accept none [.text, .map] 0 values).bind
        (templateFunction host root render).body).mapError _)
      cases Arguments.accept none [.text, .map] 0 values with
      | error cause => exact .done _
      | ok arguments =>
        obtain ⟨path, entries, ⟨⟩⟩ := arguments
        exact renderFile_asking host root path entries

/-- A call asks for at most one rendering. -/
theorem call_asking (name : String) (values : List Value) :
    Asking host root fun render => Renderer.functions host root render name values := by
  by_cases other : name = "templatefile"
  · subst other
    refine (templateFunction_asking host root values).congr fun render => ?_
    unfold Renderer.functions callAmong
    rw [get?_functionsWith_templatefile]
    dsimp only
    cases (templateFunction host root render).call values <;> rfl
  · refine Asking.congr (.done (Renderer.functions host root (fun _ => .error .tooDeep) name values))
      fun render => ?_
    unfold Renderer.functions callAmong
    rw [get?_functionsWith host root other]

end

end Terradoc
