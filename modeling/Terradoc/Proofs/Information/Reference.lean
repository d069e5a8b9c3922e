import Terradoc.Proofs.Information.Environment

namespace Terradoc

open Value (Below PairBelow)

/-- A reference starts at the same place, where some unknowns are filled in. -/
inductive Origin.Below : Origin → Origin → Prop where
  | whole {first second : Value} (value : first.Below second) : Below (.whole first) (.whole second)
  | part (taken : Nat) (fallback : Fallback) {first second : Value} (value : first.Below second) :
      Below (.part taken fallback first) (.part taken fallback second)

theorem getD_below {left right : Option Value} (found : Option.Rel Below left right)
    (default : Value) : (left.getD default).Below (right.getD default) := by
  cases found with
  | some value => exact value
  | none => exact .refl default

theorem LookupBelow.namedOrigin {left right : Entries Value} (entries : LookupBelow left right)
    (space name : String) :
    (namedOrigin left space name).Below (namedOrigin right space name) :=
  .part 1 none (getD_below (entries name) _)

theorem Scope.Below.blockOrigin {scope after : Scope} (below : scope.Below after) (key : String)
    (target : BlockTarget) (address : String) (taken : Nat) (rest : List Step) :
    (blockOrigin scope key target address taken rest).Below
      (blockOrigin after key target address taken rest) := by
  have declared : scope.declared.contains key = after.declared.contains key := by
    rw [Bool.eq_iff_iff, List.contains_iff_mem, List.contains_iff_mem]
    exact below.declared key
  unfold Terradoc.blockOrigin
  rw [declared]
  split
  · exact .whole (.refl _)
  · rcases rel_cases (below.blocks key) with ⟨_, _, here, there, value⟩ | ⟨here, there⟩
    · simp only [here, there]
      exact .part taken _ value
    · simp only [here, there]
      exact .whole (.refl _)

section References

variable {env after : Environment}

theorem eachOrigin_below (below : env.Below after) (name : String) :
    BothRelate Origin.Below (eachOrigin env name) (eachOrigin after name) := by
  unfold eachOrigin
  rcases rel_cases below.each with ⟨_, _, here, there, key, value⟩ | ⟨here, there⟩
  · simp only [here, there]
    exact .ite (.ok (.part 1 none key)) (.ite (.ok (.part 1 none value)) (.error_left _ _))
  · simp only [here]
    exact .error_left _ _

theorem countValue_below (below : env.Below after) (name : String) :
    BothRelate Below (countValue env name) (countValue after name) := by
  unfold countValue
  refine .ite (.error_left _ _) ?_
  rcases rel_cases below.count with ⟨_, _, here, there, value⟩ | ⟨here, there⟩
  · simp only [here, there]
    exact .ok value
  · simp only [here]
    exact .error_left _ _

theorem pathValue_below {scope other : Scope} (below : scope.Below other) (name : String) :
    BothRelate Below (pathValue scope name) (pathValue other name) := by
  have same : pathValue scope name = pathValue other name := by
    simp only [pathValue, Scope.modulePath, below.moduleDirectory, below.rootDirectory,
      below.workingDirectory]
  rw [same]
  exact .self Below.refl _

theorem BothRelate.whole {left right : Except EvalError Value}
    (values : BothRelate Below left right) :
    BothRelate Origin.Below (left.map Origin.whole) (right.map Origin.whole) := by
  cases left with
  | error => exact .error_left _ _
  | ok first =>
    cases right with
    | error => exact .error_right _ _
    | ok second => exact .ok (.whole (values first second rfl rfl))

theorem originOf_below (below : env.Below after) (root : String) (steps : List Step) :
    BothRelate Origin.Below (originOf env root steps) (originOf after root steps) := by
  have scope := below.scope
  unfold originOf
  refine .ite (.ok (.whole (.refl _))) ?_
  split
  · rename_i name rest
    refine .ite (.ok (scope.vars.namedOrigin root name)) ?_
    refine .ite (.ok (scope.locals.namedOrigin root name)) ?_
    refine .ite (.ok (scope.blockOrigin _ _ _ _ _)) ?_
    refine .ite ?_ ?_
    · split
      · exact .ok (scope.blockOrigin _ _ _ _ _)
      · exact .error_left _ _
    refine .ite (eachOrigin_below below name) ?_
    refine .ite (countValue_below below name).whole ?_
    refine .ite (pathValue_below scope name).whole ?_
    refine .ite ?_ (.ok (scope.blockOrigin _ _ _ _ _))
    rw [scope.workspace]
    exact .ite (.ok (.whole (.refl _))) (.error_left _ _)
  · exact .error_left _ _

theorem variableValue_below (below : env.Below after) (name : String) :
    BothRelate Below (variableValue env name) (variableValue after name) := by
  unfold variableValue
  rcases rel_cases (below.bindings name) with ⟨_, _, here, there, value⟩ | ⟨here, there⟩
  · simp only [here, there]
    exact .ok value
  · simp only [here, there]
    exact .self Below.refl _

end References

section Parts

variable {left right : Value}

private theorem getLast?_below {items others : List Value}
    (below : List.Forall₂ Below items others) :
    Option.Rel Below items.getLast? others.getLast? := by
  induction below with
  | nil => exact .none
  | cons head tail ih =>
    cases tail with
    | nil => exact .some head
    | cons => simpa only [List.getLast?_cons_cons] using ih

private theorem dropLast_below {items others : List Value}
    (below : List.Forall₂ Below items others) :
    List.Forall₂ Below items.dropLast others.dropLast := by
  induction below with
  | nil => exact .nil
  | cons head tail ih =>
    cases tail with
    | nil => exact .nil
    | cons => simpa only [List.dropLast_cons_cons] using .cons head ih

theorem spread_below (function : String) {items others : List Value}
    (below : List.Forall₂ Below items others) :
    BothRelate (DeterminedBelow (List.Forall₂ Below)) (spread function items)
      (spread function others) := by
  unfold spread
  rcases rel_cases (getLast?_below below) with ⟨_, _, here, there, last⟩ | ⟨here, there⟩
  · simp only [here, there]
    cases last with
    | unknown marker => exact .undetermined marker _
    | list added => exact .ok (.known (List.rel_append (dropLast_below below) added))
    | null | bool | number | string | map => exact .error_left _ _
  · simp only [here]
    exact .error_left _ _

theorem addEntry_below (grouping : Bool) {entries others : Entries Value}
    (below : EntriesBelow entries others) (key : String) (value : left.Below right) :
    BothRelate EntriesBelow (addEntry grouping entries key left)
      (addEntry grouping others key right) := by
  unfold addEntry
  split
  · refine .ok (below.insert key ?_)
    have old := getD_below (below.get? key) (.list [])
    generalize (Entries.get? entries key).getD (.list []) = first at old
    generalize (Entries.get? others key).getD (.list []) = second at old
    cases old with
    | list items => exact .list (List.rel_append items (.cons value .nil))
    | unknown marker => exact .unknown marker _
    | map entries => exact .map entries
    | null | bool | number | string => exact .refl _
  · rw [below.contains key]
    split
    · exact .error_left _ _
    · exact .ok (below.insert key value)

theorem loopKey_below (below : left.Below right) (known : left.isUnknown = false) :
    BothRelate Eq (loopKey left) (loopKey right) := by
  rw [below.congr loopKey known]
  exact .self (fun _ => rfl) _

end Parts

end Terradoc
