import Terradoc.Eval.Expr
import Terradoc.Proofs.Lists

namespace Terradoc

theorem Value.unknown_or_known (value : Value) :
    (∃ marker, value = .unknown marker) ∨ value.isUnknown = false := by
  cases value with
  | unknown marker => exact .inl ⟨marker, rfl⟩
  | _ => exact .inr rfl

theorem Value.unknown?_of_known {value : Value} (known : value.isUnknown = false) :
    value.unknown? = none := by
  cases value with
  | unknown => cases known
  | _ => rfl

theorem Value.itemAt_of_known (fallback : Fallback) (value : Value) {key : Value}
    (known : key.isUnknown = false) : value.itemAt fallback key = value.item fallback key := by
  cases key with
  | unknown => cases known
  | _ => rfl

/-- The result of an operator: an operand that is unknown, or what it makes of known ones. -/
def BinaryOperator.result (operator : BinaryOperator) (left right : Value) : Except EvalError Value :=
  match left.unknown?.or right.unknown? with
  | some marker => .ok (.unknown marker)
  | none => operator.apply left right

theorem BinaryOperator.result_of_known (operator : BinaryOperator) {left right : Value} (known : left.unknown? = none)
    (known' : right.unknown? = none) : operator.result left right = operator.apply left right := by
  rw [result, known, known']
  rfl

theorem Expr.eval_binary (operator : BinaryOperator) {env : Environment} {first second : Expr}
    {left right : Value} (one : first.eval env = .ok left) (other : second.eval env = .ok right) :
    (Expr.binary operator first second).eval env = operator.result left right := by
  have ordered : (Expr.binary operator first second).eval env =
      first.eval env >>= fun left => second.eval env >>= fun right => operator.result left right := rfl
  rw [ordered, one, other]
  rfl

variable (env : Environment) (fallback : Fallback)

/-- A template that is no single interpolation is a text. -/
theorem Expr.eval_template (form : TemplateForm) (source : String)
    {elements : List TemplateElement}
    (several : ∀ value, elements ≠ [.interpolation value]) :
    (Expr.template form source elements).eval env =
      (Template.mk source elements).eval env := by
  rw [Expr.eval, Template.eval]
  exact several

/-- A traversal whose root is no name starts at the value of its root. -/
theorem Expr.eval_traversal {root : Expr} (unnamed : ∀ name, root ≠ .variable name)
    (steps : List Step) :
    (Expr.traversal root steps).eval env =
      root.eval env >>= fun value => walk env none 0 value steps := by
  cases root with
  | «variable» name => exact absurd rfl (unnamed name)
  | _ => rfl

/-- A call is one of the function on the values of its arguments. -/
theorem Expr.eval_call {name : String} (plain : name ≠ "try" ∧ name ≠ "can") (arguments : List Expr) :
    (Expr.call name arguments false).eval env = evalItems env arguments >>= env.functions name := by
  have guarded : (Expr.call name arguments false).eval env =
      if name == "try" then evalFirst env .tryArguments arguments
      else if name == "can" then evalCan env arguments
      else evalItems env arguments >>= env.functions name := rfl
  rw [guarded, if_neg (by simpa using plain.1), if_neg (by simpa using plain.2)]

theorem walk_nil (taken : Nat) (value : Value) : walk env fallback taken value [] = .ok value :=
  rfl

theorem walk_skip (taken : Nat) (value : Value) (step : Step) (rest : List Step) :
    walk env fallback (taken + 1) value (step :: rest) = walk env fallback taken value rest :=
  rfl

theorem walk_unknown (marker : Unknown) (step : Step) (rest : List Step) :
    walk env fallback 0 (.unknown marker) (step :: rest) = .ok (fallback.through marker) := by
  cases step <;> rfl

theorem walk_each {value : Value} (known : value.isUnknown = false) (rest : List Step) :
    walk env fallback 0 value (.each :: rest) =
      (value.splatItems.mapM fun item => walk env fallback 0 item rest) >>= fun items =>
        .ok (.list items) := by
  cases value with
  | unknown => cases known
  | _ => rfl

theorem walk_step {value : Value} (known : value.isUnknown = false) {step : Step}
    (single : step ≠ .each) (rest : List Step) :
    walk env fallback 0 value (step :: rest) =
      step.apply env fallback value >>= fun next => walk env fallback 0 next rest := by
  cases value with
  | unknown => cases known
  | _ =>
    cases step with
    | each => exact absurd rfl single
    | _ => rfl

theorem Value.text_eq_ok_iff {value : Value} {text : String} :
    value.text = .ok text ↔ value.toText = .ok text := by
  rw [Value.text]
  cases value.toText with
  | error cause => exact ⟨nofun, nofun⟩
  | ok written => simp

section Items

variable {marker : Unknown} {key : Value}

theorem Value.item_list {items : List Value} {index : Nat} {item : Value}
    (position : key.position? = some (index : Int)) (found : items[index]? = some item) (fallback : Fallback) :
    (Value.list items).item fallback key = .ok item := by
  simp only [Value.item, position, Int.toNat_natCast, found]
  rw [if_neg (Int.not_lt.mpr (Int.natCast_nonneg index))]

/-- Outside of a list there is only what stands in. -/
theorem Value.item_list_outside {items : List Value}
    (outside : ∀ index : Nat, key.position? = some (index : Int) → items.length ≤ index) {value : Value}
    (read : (Value.list items).item (some marker) key = .ok value) : value = .unknown marker := by
  unfold Value.item at read
  dsimp only at read
  split at read
  · cases read
  · rename_i index position
    split at read
    · cases read
      rfl
    · rename_i nonneg
      lift index to ℕ using Int.not_lt.mp nonneg
      rw [Int.toNat_natCast, List.getElem?_eq_none (outside index position)] at read
      cases read
      rfl

theorem Value.item_map {entries : Entries Value} {name : String} {item : Value}
    (text : key.toText = .ok name) (found : Entries.get? entries name = some item) (fallback : Fallback) :
    (Value.map entries).item fallback key = .ok item := by
  simp only [Value.item, text_eq_ok_iff.mpr text, bind, Except.bind, found]

/-- Under the name of no entry there is only what stands in. -/
theorem Value.item_map_outside {entries : Entries Value}
    (outside : ∀ name, key.toText = .ok name → Entries.get? entries name = none) {value : Value}
    (read : (Value.map entries).item (some marker) key = .ok value) : value = .unknown marker := by
  obtain ⟨name, text, rest⟩ := Except.bind_eq_ok_iff.mp read
  rw [outside name (text_eq_ok_iff.mp text)] at rest
  cases rest
  rfl

end Items

end Terradoc
