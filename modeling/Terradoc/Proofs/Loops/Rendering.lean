import Terradoc.Proofs.Eval.Steps
import Terradoc.Proofs.Function.Texts
import Terradoc.Proofs.Loops.Comprehension

namespace Terradoc

def Determined.after (before : String) : Determined String → Determined String
  | .known text => .known (before ++ text)
  | .unknown marker => .unknown marker

theorem Determined.after_after (before middle : String) (rest : Determined String) :
    (rest.after middle).after before = rest.after (before ++ middle) := by
  cases rest with
  | known text => exact congrArg Determined.known (String.append_assoc ..).symm
  | unknown marker => rfl

/-- What a rendering appends to a text does not depend on the text. -/
def Appends (render : String → Except EvalError (Determined String)) : Prop :=
  ∀ before, render before = (render "").map (·.after before)

namespace Appends

theorem nothing : Appends fun text => .ok (.known text) := fun _ =>
  congrArg (Except.ok ∘ Determined.known) String.append_empty.symm

theorem text (added : String) : Appends fun text => .ok (.known (text ++ added)) := fun before =>
  congrArg (fun added => Except.ok (Determined.known (before ++ added))) String.empty_append.symm

theorem unknown (marker : Unknown) : Appends fun _ => .ok (.unknown marker) := fun _ => rfl

theorem error (fault : EvalError) : Appends fun _ => .error fault := fun _ => rfl

theorem start {α : Type} {first : Except EvalError α}
    {render : α → String → Except EvalError (Determined String)} (each : ∀ value, Appends (render value)) :
    Appends fun text => first >>= fun value => render value text := by
  intro before
  cases first with
  | error fault => rfl
  | ok value => exact each value before

theorem continued {first next : String → Except EvalError (Determined String)} (here : Appends first)
    (there : Appends next) :
    Appends fun text => first text >>= fun
      | .known text => next text
      | .unknown marker => .ok (.unknown marker) := by
  intro before
  dsimp only
  rw [here before]
  cases first "" with
  | error fault => rfl
  | ok result =>
    cases result with
    | unknown marker => rfl
    | known text =>
      -- What comes next is rendered behind a longer text, and what it appends stays the same.
      refine (there (before ++ text)).trans ?_
      refine Eq.trans ?_ (congrArg (Except.map (Determined.after before)) (there text)).symm
      cases next "" with
      | error fault => rfl
      | ok rest => exact congrArg Except.ok (Determined.after_after before text rest).symm

theorem pass {step : String → Value × Value → Except EvalError (Determined String)}
    (each : ∀ entry, Appends fun text => step text entry) (entries : List (Value × Value)) :
    Appends fun text => foldEntries step text entries := by
  induction entries with
  | nil => exact nothing
  | cons entry rest ih =>
    refine Eq.mp (congrArg Appends (funext fun text => ?_)) ((each entry).continued ih)
    rw [foldEntries]
    cases step text entry with
    | error fault => rfl
    | ok result => cases result <;> rfl

end Appends

mutual
theorem renderElements_appends : ∀ (elements : List TemplateElement) (env : Environment),
    Appends fun text => renderElements env text elements
  | [], env => by
    simp only [renderElements]
    exact .nothing
  | element :: rest, env => by
    simp only [renderElements]
    exact (element.render_appends env).continued (renderElements_appends rest env)
termination_by elements => sizeOf elements

theorem TemplateElement.render_appends : ∀ (element : TemplateElement) (env : Environment),
    Appends fun text => element.render env text
  | .literal text, env => by
    simp only [TemplateElement.render]
    exact .text text
  | .interpolation expr, env => by
    simp only [TemplateElement.render]
    refine .start fun value => ?_
    split
    · exact .unknown _
    · exact .start .text
  | .branch condition yes no, env => by
    simp only [TemplateElement.render]
    refine .start fun value => ?_
    split
    · exact .unknown _
    · exact renderElements_appends yes env
    · exact renderBranch_appends no env
    · exact .error _
  | .loop key value collection body, env => by
    simp only [TemplateElement.render]
    refine .start fun held => ?_
    split
    · exact .unknown _
    · exact .start fun entries =>
        .pass (fun entry => renderElements_appends body (env.bindEntry key value entry)) entries
termination_by element => sizeOf element

theorem renderBranch_appends : ∀ (branch : Option (List TemplateElement)) (env : Environment),
    Appends fun text => renderBranch env text branch
  | none, env => by
    simp only [renderBranch]
    exact .nothing
  | some elements, env => by
    simp only [renderBranch]
    exact renderElements_appends elements env
termination_by branch => sizeOf branch
end

section Bodies

variable {env : Environment} {text : String}

theorem TemplateElement.render_interpolation_iff {expr : Expr} :
    (TemplateElement.interpolation expr).render env "" = .ok (.known text) ↔
      ∃ value, expr.eval env = .ok value ∧ value.Prints text := by
  rw [TemplateElement.render, Except.bind_eq_ok_iff]
  refine exists_congr fun value => and_congr_right fun _ => ?_
  rw [Value.firstUnknown?]
  cases unknowns : value.unknowns with
  | cons marker rest =>
    constructor
    · intro rendered
      cases rendered
    · intro prints
      cases unknowns.symm.trans prints.known
  | nil =>
    refine Except.bind_eq_ok_iff.trans ⟨?_, fun prints => ?_⟩
    · rintro ⟨written, found, same⟩
      obtain rfl : written = text := by simpa [Pure.pure, Except.pure] using same
      exact ⟨unknowns, Value.text_eq_ok_iff.mp found⟩
    · exact ⟨text, Value.text_eq_ok_iff.mpr prints.written, by simp [Pure.pure, Except.pure]⟩

theorem renderElements_single (element : TemplateElement) (before : String) :
    renderElements env before [element] = element.render env before := by
  simp only [renderElements]
  cases element.render env before with
  | error fault => rfl
  | ok result => cases result <;> rfl

/-- A template renders a text just where its value is known and has that text, also when it is a single
interpolation, whose value need not be a text. -/
theorem renderElements_eq_known_iff (form : TemplateForm) (source : String) {elements : List TemplateElement} :
    renderElements env "" elements = .ok (.known text) ↔
      ∃ value, (Expr.template form source elements).eval env = .ok value ∧ value.Prints text := by
  -- A single interpolation gives its value as it is, all other templates make a text of what is in them.
  by_cases single : ∃ expr, elements = [.interpolation expr]
  · obtain ⟨expr, rfl⟩ := single
    rw [Expr.eval, renderElements_single, TemplateElement.render_interpolation_iff]
  · rw [Expr.eval_template env form source (not_exists.mp single), Template.eval]
    cases renderElements env "" elements with
    | error fault =>
      constructor
      · intro rendered
        cases rendered
      · rintro ⟨value, evaluated, prints⟩
        cases evaluated
    | ok result =>
      cases result with
      | known rendered =>
        constructor
        · rintro rendering
          cases rendering
          exact ⟨_, rfl, Value.prints_string.mpr rfl⟩
        · rintro ⟨value, evaluated, prints⟩
          cases evaluated
          rw [Value.prints_string.mp prints]
      | unknown marker =>
        constructor
        · intro rendered
          cases rendered
        · rintro ⟨value, evaluated, prints⟩
          cases evaluated
          exact absurd prints Value.not_prints_unknown

/-- A pass of renderings gives a text just where each of them does, and then all their texts in order. -/
theorem foldEntries_eq_known_iff {step : String → Value × Value → Except EvalError (Determined String)}
    (appends : ∀ entry, Appends fun text => step text entry) (entries : List (Value × Value))
    (start : String) :
    foldEntries step start entries = .ok (.known text) ↔
      ∃ texts, List.Forall₂ (fun entry added => step "" entry = .ok (.known added)) entries texts ∧
        text = start ++ String.join texts := by
  induction entries generalizing start with
  | nil =>
    simp only [foldEntries, List.forall₂_nil_left_iff, exists_eq_left, String.join_nil, String.append_empty]
    simp [eq_comm]
  | cons entry rest ih =>
    have here : step start entry = (step "" entry).map (·.after start) := appends entry start
    rw [foldEntries, here]
    constructor
    · intro rendered
      cases added : step "" entry with
      | error fault =>
        rw [added] at rendered
        cases rendered
      | ok result =>
        rw [added] at rendered
        cases result with
        | unknown marker => cases rendered
        | known first =>
          obtain ⟨texts, later, rfl⟩ := (ih (start ++ first)).mp rendered
          exact ⟨first :: texts, .cons added later, by rw [String.join_cons, String.append_assoc]⟩
    · rintro ⟨texts, rows, rfl⟩
      cases rows with
      | @cons _ first _ others added later =>
        rw [added]
        exact (ih (start ++ first)).mpr ⟨others, later, by rw [String.join_cons, String.append_assoc]⟩

end Bodies

section Loops

variable {host : Host} {root : Path} {depth : Nat} {env : Environment}

theorem Template.eval_eq_string_iff {template : Template} {text : String} :
    template.eval env = .ok (.string text) ↔
      renderElements env "" template.elements = .ok (.known text) := by
  rw [Template.eval]
  cases renderElements env "" template.elements with
  | error fault => constructor <;> intro done <;> cases done
  | ok result =>
    cases result with
    | known rendered => simp [Bind.bind, Except.bind, Pure.pure, Except.pure]
    | unknown marker => constructor <;> intro done <;> cases done

/-- A loop directive renders the texts that its body renders for the entries, one after the other. -/
theorem TemplateElement.render_loop_iff {key : Option String} {value : String} {collection : Expr}
    {body : List TemplateElement} {text : String} :
    (TemplateElement.loop key value collection body).render env "" = .ok (.known text) ↔
      ∃ entries texts, collection.Ranges env entries ∧
        List.Forall₂ (fun entry added =>
          renderElements (env.bindEntry key value entry) "" body = .ok (.known added)) entries texts ∧
        text = String.join texts := by
  have appends (entry : Value × Value) := renderElements_appends body (env.bindEntry key value entry)
  rw [TemplateElement.render, Except.bind_eq_ok_iff]
  constructor
  · rintro ⟨held, evaluated, rendered⟩
    split at rendered
    · cases rendered
    · obtain ⟨entries, listed, passed⟩ := Except.bind_eq_ok_iff.mp rendered
      obtain ⟨texts, rows, same⟩ := (foldEntries_eq_known_iff appends entries "").mp passed
      exact ⟨entries, texts, ⟨held, evaluated, listed⟩, rows, same.trans String.empty_append⟩
  · rintro ⟨entries, texts, ⟨held, evaluated, listed⟩, rows, same⟩
    refine ⟨held, evaluated, ?_⟩
    split
    · cases listed
    · refine Except.bind_eq_ok_iff.mpr ⟨entries, listed, ?_⟩
      exact (foldEntries_eq_known_iff appends entries "").mpr ⟨texts, rows, by rw [same, String.empty_append]⟩

theorem Expr.eval_join_iff (table : env.functions = functionTable host root depth) {separator text : String}
    {made : Expr} :
    (Expr.call "join" [.string separator, made] false).eval env = .ok (.string text) ↔
      ∃ items texts, made.eval env = .ok (.list items) ∧ List.Forall₂ Value.Prints items texts ∧
        text = Text.joinWith separator texts := by
  have called : (Expr.call "join" [.string separator, made] false).eval env =
      made.eval env >>= fun value => functionTable host root depth "join" [.string separator, value] := by
    rw [Expr.eval_call env (by decide), table]
    simp only [evalItems, Expr.eval]
    cases made.eval env <;> rfl
  rw [called, Except.bind_eq_ok_iff]
  constructor
  · rintro ⟨value, evaluated, joined⟩
    obtain ⟨items, texts, rfl, prints, same⟩ := functionTable_join_iff.mp joined
    exact ⟨items, texts, evaluated, prints, same⟩
  · rintro ⟨items, texts, evaluated, prints, same⟩
    exact ⟨_, evaluated, functionTable_join_iff.mpr ⟨items, texts, rfl, prints, same⟩⟩

/-- A template that is one loop directive renders a text just where joining what the for-expression with the
same variables makes of the same collection gives that text, both as an expression and in a file. -/
theorem Expr.loop_renders_iff (table : env.functions = functionTable host root depth) (key : Option String)
    (value : String) (collection : Expr) (body : List TemplateElement) (form form' : TemplateForm)
    (source source' text : String) :
    ((Expr.template form source [.loop key value collection body]).eval env = .ok (.string text) ↔
      (Expr.call "join" [.string "", .listFor key value collection (.template form' source' body) none]
        false).eval env = .ok (.string text)) ∧
    ((Template.mk source [.loop key value collection body]).eval env = .ok (.string text) ↔
      (Expr.call "join" [.string "", .listFor key value collection (.template form' source' body) none]
        false).eval env = .ok (.string text)) := by
  have same {entry : Value × Value} {added : String} :
      renderElements (env.bindEntry key value entry) "" body = .ok (.known added) ↔
        ∃ made, (Expr.template form' source' body).eval (env.bindEntry key value entry) = .ok made ∧
          made.Prints added := renderElements_eq_known_iff form' source'
  have rendered := calc
    (Template.mk source [.loop key value collection body]).eval env = .ok (.string text)
    _ ↔ ∃ entries texts, collection.Ranges env entries ∧
          List.Forall₂ (fun entry added =>
            renderElements (env.bindEntry key value entry) "" body = .ok (.known added)) entries texts ∧
          text = String.join texts := by
        rw [Template.eval_eq_string_iff, renderElements_single, TemplateElement.render_loop_iff]
    _ ↔ ∃ items texts,
          (Expr.listFor key value collection (.template form' source' body) none).eval env = .ok (.list items) ∧
          List.Forall₂ Value.Prints items texts ∧ text = Text.joinWith "" texts := by
        simp only [same, forall₂_exists_iff, Expr.eval_listFor_eq_list_iff, joinWith_empty]
        constructor
        · rintro ⟨entries, texts, ranges, ⟨items, made, prints⟩, joined⟩
          exact ⟨items, texts, ⟨entries, ranges, made⟩, prints, joined⟩
        · rintro ⟨items, texts, ⟨entries, ranges, made⟩, prints, joined⟩
          exact ⟨entries, texts, ranges, ⟨items, made, prints⟩, joined⟩
    _ ↔ (Expr.call "join" [.string "", .listFor key value collection (.template form' source' body) none]
          false).eval env = .ok (.string text) := (Expr.eval_join_iff table).symm
  exact ⟨by rw [Expr.eval_template env form source (by simp), rendered], rendered⟩

theorem Expr.loop_renders_ports :
    let root : Path := ⟨"/"⟩
    let host : Host := ⟨.directory [], root, "/", root⟩
    let env : Environment := .ofScope (Scope.empty root root root) (functionTable host root 0)
    let ports : Expr := .array [.number (.int 80), .string "443"]
    let body : List TemplateElement := [.interpolation (.variable "port")]
    env.functions = functionTable host root 0 ∧
      (Expr.call "join" [.string "", .listFor none "port" ports (.template .quoted "" body) none] false).eval
        env = .ok (.string "80443") := by
  intro root host env ports body
  have table : env.functions = functionTable host root 0 := rfl
  have looped : (Expr.template .quoted "" [.loop none "port" ports body]).eval env = .ok (.string "80443") := by
    rfl
  exact ⟨table, (Expr.loop_renders_iff table none "port" ports body .quoted .quoted "" "" "80443").1.mp looped⟩

end Loops

end Terradoc
