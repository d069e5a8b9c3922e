import Terradoc.Proofs.Value.Fillings

/-! The operators that compare values. They give an unknown operand on, but take unknowns inside of
collections for values of their own, so that an answer they give need not stand once those are filled in. -/

namespace Terradoc

/-- An operator gives a result on two values, whatever expressions they are the values of. -/
def BinaryOperator.Yields (operator : BinaryOperator) (left right result : Value) : Prop :=
  ∀ (env : Environment) (first second : Expr), first.eval env = .ok left → second.eval env = .ok right →
    (Expr.binary operator first second).eval env = .ok result

namespace Value

/-- What an operator says of two values stands however unknowns in them are filled in. -/
def StandsUnder (fills : Value → Value → Prop) (operator : BinaryOperator) (left right : Value) : Prop :=
  ∀ result, operator.Yields left right (.bool result) → ∀ filled filled', fills left filled →
    fills right filled' → operator.Yields filled filled' (.bool result)

/-- The second value is the first one with some of its unknowns filled in. -/
structure Fills (value filled : Value) : Prop where
  below : value.Below filled
  formed : filled.Formed

/-- An operand is unknown, or the answer does not depend on the unknowns inside. -/
def Settled (left right : Value) : Prop :=
  left.isUnknown = true ∨ right.isUnknown = true ∨ (decided left right).isSome = true

end Value

open Value

/-- Two values are the values of two names. -/
private theorem exists_operands (left right : Value) :
    ∃ (env : Environment) (first second : Expr), first.eval env = .ok left ∧ second.eval env = .ok right := by
  let env : Environment := ⟨Scope.empty default default default,
    fun name _ => .error (.unknownFunction name), none, none, [("left", left), ("right", right)]⟩
  exact ⟨env, .variable "left", .variable "right", by simp [Expr.eval, variableValue, env],
    by simp [Expr.eval, variableValue, env]⟩

theorem BinaryOperator.yields_iff (operator : BinaryOperator) (left right result : Value) :
    operator.Yields left right result ↔ operator.result left right = .ok result := by
  constructor
  · intro yields
    obtain ⟨env, first, second, one, other⟩ := exists_operands left right
    rw [← Expr.eval_binary operator one other]
    exact yields env first second one other
  · intro same env first second one other
    rw [Expr.eval_binary operator one other, same]

/-- An unknown operand is what an operator gives. -/
private theorem not_yields_of_unknown (operator : BinaryOperator) {left right : Value}
    (unknown : left.isUnknown = true ∨ right.isUnknown = true) (result : Bool) :
    ¬ operator.Yields left right (.bool result) := by
  rw [BinaryOperator.yields_iff, BinaryOperator.result]
  intro same
  cases first : left.unknown? with
  | some marker =>
    rw [first] at same
    cases same
  | none =>
    cases second : right.unknown? with
    | some marker =>
      rw [first, second] at same
      cases same
    | none => cases left <;> cases right <;> simp_all [isUnknown, unknown?]

section Comparison

variable {operator : BinaryOperator} (comparison : operator = .equal ∨ operator = .notEqual)

include comparison

/-- Known operands are compared. -/
private theorem yields_iff_equal {left right : Value} (known : left.isUnknown = false)
    (known' : right.isUnknown = false) (result : Bool) :
    operator.Yields left right (.bool result) ↔
      equal left right = (if operator = .equal then result else !result) := by
  rw [BinaryOperator.yields_iff, BinaryOperator.result, unknown?_of_known known, unknown?_of_known known']
  rcases comparison with rfl | rfl <;> simp [BinaryOperator.apply]

/-- An answer about known operands stands when all that is filled in gives the same answer. -/
private theorem standsUnder_iff_equal {fills : Value → Value → Prop}
    (below : ∀ value filled, fills value filled → value.Below filled) {left right : Value}
    (known : left.isUnknown = false) (known' : right.isUnknown = false) :
    StandsUnder fills operator left right ↔ ∀ filled filled', fills left filled → fills right filled' →
      equal filled filled' = equal left right := by
  constructor
  · intro stands filled filled' one other
    let result := if operator = .equal then equal left right else !equal left right
    have answer : equal left right = if operator = .equal then result else !result := by
      simp only [result]
      split <;> simp
    have yields := stands result ((yields_iff_equal comparison known known' result).mpr answer)
      filled filled' one other
    rw [yields_iff_equal comparison ((below _ _ one).known known) ((below _ _ other).known known')] at yields
    rw [yields, answer]
  · intro agree result yields filled filled' one other
    rw [yields_iff_equal comparison known known'] at yields
    rw [yields_iff_equal comparison ((below _ _ one).known known) ((below _ _ other).known known'),
      agree filled filled' one other, yields]

private theorem standsUnder_of_settled {left right : Value} (formed : left.Formed)
    (settled : Settled left right) : StandsUnder Fills operator left right := by
  by_cases unknown : left.isUnknown = true ∨ right.isUnknown = true
  · intro result yields
    exact absurd yields (not_yields_of_unknown operator unknown result)
  · rw [not_or, Bool.not_eq_true, Bool.not_eq_true] at unknown
    obtain ⟨known, known'⟩ := unknown
    rw [standsUnder_iff_equal comparison (fun _ _ fills => fills.below) known known']
    intro filled filled' one other
    rcases settled with unknown | unknown | decided
    · exact absurd unknown (by simp [known])
    · exact absurd unknown (by simp [known'])
    · obtain ⟨answer, decided⟩ := Option.isSome_iff_exists.mp decided
      rw [decided_agrees formed one.below other.below answer decided,
        decided_agrees formed (.refl left) (.refl right) answer decided]

private theorem settled_of_standsUnder {left right : Value} (formed : left.Formed)
    (formed' : right.Formed) (stands : StandsUnder Completes operator left right) :
    Settled left right := by
  by_cases unknown : left.isUnknown = true
  · exact .inl unknown
  by_cases unknown' : right.isUnknown = true
  · exact .inr (.inl unknown')
  rw [Bool.not_eq_true] at unknown unknown'
  rw [standsUnder_iff_equal comparison (fun _ _ completes => completes.below) unknown unknown'] at stands
  rw [Settled, (decided_eq_some_iff formed formed').mpr stands]
  exact .inr (.inr rfl)

/-- What the operators say of whether two values are equal stands, whatever is filled in for some or for all
of the unknowns in them, just when an operand is unknown or the unknowns inside do not count. -/
theorem comparison_stands_iff {left right : Value} (formed : left.Formed) (formed' : right.Formed) :
    (StandsUnder Fills operator left right ↔ Settled left right) ∧
      (StandsUnder Completes operator left right ↔ Settled left right) := by
  have fewer (stands : StandsUnder Fills operator left right) : StandsUnder Completes operator left right :=
    fun result yields filled filled' one other =>
      stands result yields filled filled' ⟨one.below, one.formed⟩ ⟨other.below, other.formed⟩
  have settles := settled_of_standsUnder comparison formed formed'
  have enough : Settled left right → StandsUnder Fills operator left right :=
    standsUnder_of_settled comparison formed
  exact ⟨⟨fun stands => settles (fewer stands), enough⟩, ⟨settles, fun settled => fewer (enough settled)⟩⟩

end Comparison

/-- Maps that differ under one key differ, whatever stands under the other. -/
theorem comparison_stands_of_difference :
    (BinaryOperator.equal = .equal ∨ BinaryOperator.equal = .notEqual) ∧
      (map [("a", unresolved "var.u" "u"), ("b", ofInt 1)]).Formed ∧
      (map [("a", string "x"), ("b", ofInt 2)]).Formed ∧
      StandsUnder Fills .equal (map [("a", unresolved "var.u" "u"), ("b", ofInt 1)])
        (map [("a", string "x"), ("b", ofInt 2)]) := by
  have formed : (map [("a", unresolved "var.u" "u"), ("b", ofInt 1)]).Formed :=
    .map (by decide) (List.forall_mem_cons.mpr ⟨.unknown _, List.forall_mem_singleton.mpr (.number trivial)⟩)
  have formed' : (map [("a", string "x"), ("b", ofInt 2)]).Formed :=
    .map (by decide) (List.forall_mem_cons.mpr ⟨.string _, List.forall_mem_singleton.mpr (.number trivial)⟩)
  exact ⟨.inl rfl, formed, formed',
    (comparison_stands_iff (.inl rfl) formed formed').1.mpr (.inr (.inr (by decide)))⟩

/-- A list of one unknown differs from a list of one number, until the number is filled in. -/
theorem comparison_changes :
    BinaryOperator.equal.Yields (list [unresolved "var.u" "u"]) (list [ofInt 1]) (.bool false) ∧
      Completes (list [unresolved "var.u" "u"]) (list [ofInt 1]) ∧
      Completes (list [ofInt 1]) (list [ofInt 1]) ∧
      BinaryOperator.equal.Yields (list [ofInt 1]) (list [ofInt 1]) (.bool true) := by
  have number : (ofInt 1).Formed := .number trivial
  have itself : Completes (ofInt 1) (ofInt 1) := ⟨.refl _, number, rfl⟩
  have filled : Completes (unresolved "var.u" "u") (ofInt 1) := ⟨.unknown _ _, number, rfl⟩
  refine ⟨?_, .list (.cons filled .nil), .list (.cons itself .nil), ?_⟩
  · rw [BinaryOperator.yields_iff]
    rfl
  · rw [BinaryOperator.yields_iff]
    rfl

end Terradoc
