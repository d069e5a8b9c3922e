import Terradoc.Proofs.Information.Library

namespace Terradoc

open Value (Below PairBelow)

/-- Under every key both have a value, the second with some unknowns filled in, or none has. -/
def LookupBelow (left right : Entries Value) : Prop :=
  ∀ key, Option.Rel Below (Entries.get? left key) (Entries.get? right key)

/-- The second scope is the first with some unknowns filled in. -/
structure Scope.Below (left right : Scope) : Prop where
  moduleDirectory : left.moduleDirectory = right.moduleDirectory
  rootDirectory : left.rootDirectory = right.rootDirectory
  workingDirectory : left.workingDirectory = right.workingDirectory
  workspace : left.workspace = right.workspace
  vars : LookupBelow left.vars right.vars
  locals : LookupBelow left.locals right.locals
  blocks : LookupBelow left.blocks right.blocks
  declared : ∀ address, address ∈ left.declared ↔ address ∈ right.declared

/-- The second environment is the first with some unknowns filled in. -/
structure Environment.Below (left right : Environment) : Prop where
  scope : left.scope.Below right.scope
  functions : left.functions = right.functions
  each : Option.Rel PairBelow left.each right.each
  count : Option.Rel Value.Below left.count right.count
  bindings : LookupBelow left.bindings right.bindings

theorem LookupBelow.insert {left right : Entries Value} (entries : LookupBelow left right)
    (key : String) {first second : Value} (value : first.Below second) :
    LookupBelow (Entries.insert left key first) (Entries.insert right key second) := by
  intro other
  simp only [Entries.get?_insert]
  split
  · exact .some value
  · exact entries other

theorem Environment.Below.bind {env after : Environment} (below : env.Below after) (name : String)
    {first second : Value} (value : first.Below second) :
    (env.bind name first).Below (after.bind name second) :=
  { below with bindings := below.bindings.insert name value }

theorem Environment.Below.bindEntry {env after : Environment} (below : env.Below after)
    (key : Option String) (value : String) {entry other : Value × Value}
    (pair : PairBelow entry other) :
    (env.bindEntry key value entry).Below (after.bindEntry key value other) := by
  have inner := below.bind value pair.2
  cases key with
  | none => exact inner
  | some name => exact inner.bind name pair.1

/-- A result that is unknown is below every other one. -/
inductive DeterminedBelow {α β : Type} (relation : α → β → Prop) :
    Determined α → Determined β → Prop where
  | unknown (marker : Unknown) (right : Determined β) :
      DeterminedBelow relation (.unknown marker) right
  | known {first : α} {second : β} (related : relation first second) :
      DeterminedBelow relation (.known first) (.known second)

/-- A pass over entries respects the order when each turn does. -/
theorem foldEntries_below {α β : Type} {relation : α → β → Prop}
    {step : α → Value × Value → Except EvalError (Determined α)}
    {after : β → Value × Value → Except EvalError (Determined β)}
    (turn : ∀ state image entry other, relation state image → PairBelow entry other →
      BothRelate (DeterminedBelow relation) (step state entry) (after image other))
    {state : α} {image : β} (start : relation state image) {left right : List (Value × Value)}
    (entries : List.Forall₂ PairBelow left right) :
    BothRelate (DeterminedBelow relation) (foldEntries step state left)
      (foldEntries after image right) := by
  induction entries generalizing state image with
  | nil => exact .ok (.known start)
  | cons head tail ih =>
    refine (turn _ _ _ _ start head).bind ?_
    intro first second result
    cases result with
    | unknown marker =>
      intro _ other left right
      cases left
      exact .unknown marker other
    | known related => exact ih related

theorem BothRelate.unknown {ε : Type} (marker : Unknown) (right : Except ε Value) :
    BothRelate Below (.ok (.unknown marker)) right := by
  intro _ other left _
  cases left
  exact .unknown marker other

theorem BothRelate.undetermined {ε α β : Type} {relation : α → β → Prop} (marker : Unknown)
    (right : Except ε (Determined β)) :
    BothRelate (DeterminedBelow relation) (.ok (.unknown marker)) right := by
  intro _ other left _
  cases left
  exact .unknown marker other

section Operators

variable {left right : Value}

theorem UnaryOperator.apply_below (operator : UnaryOperator) (below : left.Below right)
    (known : left.isUnknown = false) :
    BothRelate Below (operator.apply left) (operator.apply right) := by
  have same : operator.apply left = operator.apply right := below.congr operator.apply known
  rw [same]
  exact .self Below.refl _

/-- Whether an operator compares values as wholes, unknowns inside them included. -/
def BinaryOperator.comparesWholes : BinaryOperator → Bool
  | .equal | .notEqual => true
  | _ => false

theorem BinaryOperator.apply_below (operator : BinaryOperator)
    (plain : operator.comparesWholes = false) (below : left.Below right)
    (known : left.isUnknown = false) {first second : Value} (beside : first.Below second)
    (determined : first.isUnknown = false) :
    BothRelate Below (operator.apply left first) (operator.apply right second) := by
  have truths := below.congr (Value.truth operator.word) known
  have others := beside.congr (Value.truth operator.word) determined
  have operands := below.congr (Value.operand operator.word) known
  have numbers := beside.congr (Value.operand operator.word) determined
  have same : operator.apply left first = operator.apply right second := by
    cases operator with
    | equal | notEqual => cases plain
    | and | or => simp only [BinaryOperator.apply, truths, others]
    | _ => simp only [BinaryOperator.apply, operands, numbers]
  rw [same]
  exact .self Below.refl _

end Operators

section Steps

variable {left right : Value} (fallback : Fallback)

theorem Fallback.missing_below (error other : EvalError) :
    BothRelate Below (fallback.missing error) (fallback.missing other) := by
  cases fallback with
  | none => exact .error_left _ _
  | some marker => exact .unknown marker _

theorem Value.attribute_below (name : String) (below : left.Below right) :
    BothRelate Below (left.attribute fallback name) (right.attribute fallback name) := by
  cases below with
  | unknown marker => exact .unknown _ _
  | map entries =>
    unfold Value.attribute
    rcases rel_cases (EntriesBelow.get? entries name) with ⟨_, _, here, there, value⟩ | ⟨here, there⟩
    · simp only [here, there]
      exact .ok value
    · simp only [here, there]
      exact fallback.missing_below _ _
  | null | bool | number | string | list => exact fallback.missing_below _ _

theorem Value.attributes_below (names : List String) (below : left.Below right) :
    BothRelate Below (left.attributes fallback names) (right.attributes fallback names) := by
  induction names generalizing left right with
  | nil => exact .ok below
  | cons name rest ih =>
    exact (Value.attribute_below fallback name below).bind fun _ _ inner => ih inner

private theorem getElem?_below {items others : List Value} (below : List.Forall₂ Below items others)
    (index : Nat) : Option.Rel Below items[index]? others[index]? := by
  induction below generalizing index with
  | nil => exact .none
  | cons head tail ih =>
    cases index with
    | zero => exact .some head
    | succ index => simpa using ih index

theorem Value.item_below (key : Value) (below : left.Below right)
    (known : left.isUnknown = false) :
    BothRelate Below (left.item fallback key) (right.item fallback key) := by
  cases below with
  | unknown => cases known
  | list items =>
    unfold Value.item
    cases key.position? with
    | none => exact .error_left _ _
    | some index =>
      dsimp only
      split
      · exact fallback.missing_below _ _
      · rcases rel_cases (getElem?_below items index.toNat) with
          ⟨_, _, here, there, item⟩ | ⟨here, there⟩
        · simp only [here, there]
          exact .ok item
        · simp only [here, there]
          exact fallback.missing_below _ _
  | map entries =>
    refine (BothRelate.self (fun _ => rfl) key.text).bind ?_
    rintro name _ rfl
    rcases rel_cases (EntriesBelow.get? entries name) with ⟨_, _, here, there, value⟩ | ⟨here, there⟩
    · simp only [here, there]
      exact .ok value
    · simp only [here, there]
      exact fallback.missing_below _ _
  | null | bool | number | string => exact fallback.missing_below _ _

theorem Value.itemAt_below {key other : Value} (keys : key.Below other) (below : left.Below right)
    (known : left.isUnknown = false) :
    BothRelate Below (left.itemAt fallback key) (right.itemAt fallback other) := by
  rcases key.unknown_or_known with ⟨marker, rfl⟩ | determined
  · exact .unknown _ _
  · have same : right.item fallback key = right.item fallback other :=
      keys.congr (right.item fallback) determined (by intros; cases right <;> rfl)
        (by intros; cases right <;> rfl)
    rw [left.itemAt_of_known fallback determined,
      right.itemAt_of_known fallback (keys.known determined), ← same]
    exact Value.item_below fallback key below known

end Steps

end Terradoc
