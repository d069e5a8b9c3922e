import Mathlib.Data.List.TakeWhile
import Terradoc.Proofs.Loops.Comprehension
import Terradoc.Proofs.Targets.Expr
import Terradoc.Syntax.Parser

/-! Splats as loops: a splat over a list takes the steps after it from every item, just as a for-expression
does whose item starts from its variable. -/

namespace Terradoc

open Syntax (traversed gatherSplats)

/-- An expression with steps after it, as they are written. -/
def Expr.followed (root : Expr) (steps : List Step) : Expr := traversed root (gatherSplats steps)

/-- What has a name among values that are reached from a root, unless a loop binds the root. -/
def Environment.reach? (env : Environment) (root : String) (values : Entries Value) (name : String) :
    Option Value :=
  if Entries.contains env.bindings root then none else Entries.get? values name

/-- A name with a value of its own. -/
inductive NamedValue where
  | input (name : String)
  | localValue (name : String)
  /-- The variable of a loop, or the iterator of a dynamic block. -/
  | bound (name : String)

namespace NamedValue

/-- What a reference to the name starts with. -/
def root : NamedValue → String
  | input _ => "var"
  | localValue _ => "local"
  | bound name => name

/-- The steps from the root of a reference to the name. -/
def path : NamedValue → List Step
  | input name | localValue name => [.attribute name]
  | bound _ => []

def followed (source : NamedValue) (steps : List Step) : Expr :=
  (Expr.variable source.root).followed (source.path ++ steps)

def value? (env : Environment) : NamedValue → Option Value
  | input name => env.reach? "var" env.scope.vars name
  | localValue name => env.reach? "local" env.scope.locals name
  | bound name => Entries.get? env.bindings name

end NamedValue

section Written

theorem gatherSplats_single {step : Step} (single : ∀ names, step ≠ .eachAttribute names)
    (steps : List Step) : gatherSplats (step :: steps) = step :: gatherSplats steps := by
  rw [gatherSplats]
  exact single

theorem gatherSplats_attribute (name : String) (steps : List Step) :
    gatherSplats (.attribute name :: steps) = .attribute name :: gatherSplats steps :=
  gatherSplats_single (fun _ => Step.noConfusion) steps

theorem gatherSplats_attributes (names : List String) (steps : List Step) :
    gatherSplats (names.map .attribute ++ steps) = names.map .attribute ++ gatherSplats steps := by
  induction names with
  | nil => rfl
  | cons name rest ih => rw [List.map_cons, List.cons_append, gatherSplats_attribute, ih, List.cons_append]

theorem gatherSplats_head {steps : List Step} (ends : ∀ name rest, steps ≠ .attribute name :: rest)
    (name : String) (rest : List Step) : gatherSplats steps ≠ .attribute name :: rest := by
  intro head
  cases steps with
  | nil => cases head
  | cons step others =>
    cases step with
    | «attribute» other => exact ends other others rfl
    | index | position | eachAttribute | each =>
      simp only [gatherSplats] at head
      cases head

/-- An attribute splat takes the attribute names up to the next step of another kind. -/
theorem gatherSplats_splat (names : List String) {steps : List Step}
    (ends : ∀ name rest, steps ≠ .attribute name :: rest) :
    gatherSplats (.eachAttribute [] :: (names.map .attribute ++ steps)) =
      .eachAttribute names :: gatherSplats steps := by
  have all : names.takeWhile (fun _ => true) = names := List.takeWhile_eq_self_iff.mpr fun _ _ => rfl
  rw [gatherSplats, gatherSplats_attributes]
  cases later : gatherSplats steps with
  | nil => simp [List.takeWhile_map, List.filterMap_map, Function.comp_def, all]
  | cons step rest =>
    cases step with
    | «attribute» name => exact absurd later (gatherSplats_head ends name rest)
    | index | position | eachAttribute | each =>
      simp [List.takeWhile_append_of_pos, List.filterMap_map]

theorem stepNames_drop_subset (count : Nat) (steps : List Step) :
    stepNames (steps.drop count) ⊆ stepNames steps := by
  induction steps generalizing count with
  | nil =>
    rw [List.drop_nil]
    exact List.Subset.refl _
  | cons step rest ih =>
    cases count with
    | zero => exact List.Subset.refl _
    | succ count =>
      rw [List.drop_succ_cons, stepNames_cons]
      exact List.subset_append_of_subset_right _ (ih count)

/-- Gathering splats keeps the index keys, and so the names in them. -/
theorem stepNames_gatherSplats_subset (steps : List Step) :
    stepNames (gatherSplats steps) ⊆ stepNames steps := by
  induction steps with
  | nil => exact List.Subset.refl _
  | cons step rest ih =>
    by_cases splat : ∃ names, step = .eachAttribute names
    · obtain ⟨names, rfl⟩ := splat
      rw [gatherSplats, stepNames, stepNames]
      · exact List.Subset.trans (stepNames_drop_subset _ _) ih
      · exact fun _ => Step.noConfusion
      · exact fun _ => Step.noConfusion
    · rw [gatherSplats_single (not_exists.mp splat), stepNames_cons, stepNames_cons step rest]
      exact List.append_subset.mpr ⟨List.subset_append_left .., List.subset_append_of_subset_right _ ih⟩

end Written

section Following

variable {env : Environment}

theorem Expr.eval_followed {root : Expr} (unnamed : ∀ name, root ≠ .variable name) (steps : List Step) :
    (root.followed steps).eval env =
      root.eval env >>= fun value => walk env none 0 value (gatherSplats steps) := by
  rw [Expr.followed]
  cases gatherSplats steps with
  | nil =>
    simp only [traversed, walk_nil]
    cases root.eval env <;> rfl
  | cons step rest => exact Expr.eval_traversal env unnamed _

theorem Expr.eval_variable_followed {name : String} {value : Value}
    (found : Entries.get? env.bindings name = some value) (steps : List Step) :
    ((Expr.variable name).followed steps).eval env = walk env none 0 value (gatherSplats steps) := by
  rw [Expr.followed]
  cases gatherSplats steps with
  | nil => rw [traversed, Expr.eval, variableValue, found, walk_nil]
  | cons step rest =>
    rw [traversed, Expr.eval, found]
    intro absent
    cases absent

theorem Expr.eval_attribute_followed {root name : String} {values : Entries Value} {value : Value}
    (found : env.reach? root values name = some value)
    (start : ∀ steps, originOf env root (.attribute name :: steps) = .ok (namedOrigin values root name))
    (steps : List Step) :
    ((Expr.variable root).followed (.attribute name :: steps)).eval env =
      walk env none 0 value (gatherSplats steps) := by
  rw [Environment.reach?] at found
  split at found
  · cases found
  · rename_i unbound
    have free : Entries.get? env.bindings root = none := by simpa [Entries.contains] using unbound
    rw [Expr.followed, gatherSplats_attribute, traversed, Expr.eval, free, start, namedOrigin, found]
    · exact walk_skip env none 0 value (.attribute name) _
    · intro taken
      cases taken

theorem NamedValue.eval_followed {source : NamedValue} {value : Value} (found : source.value? env = some value)
    (steps : List Step) : (source.followed steps).eval env = walk env none 0 value (gatherSplats steps) := by
  cases source with
  | bound name => exact Expr.eval_variable_followed found steps
  | input name => exact Expr.eval_attribute_followed found (fun _ => rfl) steps
  | localValue name => exact Expr.eval_attribute_followed found (fun _ => rfl) steps

/-- Attributes of what stands in for a missing part are what stands in for it. -/
theorem Value.attributes_through (fallback : Fallback) (names : List String) (marker : Unknown) :
    Value.attributes fallback names (fallback.through marker) = .ok (fallback.through marker) := by
  induction names with
  | nil => rfl
  | cons name rest ih =>
    have again : (fallback.through marker).attribute fallback name = .ok (fallback.through marker) := by
      cases fallback <;> rfl
    rw [Value.attributes, again]
    exact ih

theorem walk_attributes (fallback : Fallback) (names : List String) (value : Value) :
    walk env fallback 0 value (names.map .attribute) = Value.attributes fallback names value := by
  induction names generalizing value with
  | nil => rw [List.map_nil, walk_nil, Value.attributes]
  | cons name rest ih =>
    rw [List.map_cons, Value.attributes]
    rcases value.unknown_or_known with ⟨marker, rfl⟩ | known
    · rw [walk_unknown]
      exact (Value.attributes_through fallback rest marker).symm
    · rw [walk_step env fallback known Step.noConfusion, Step.apply]
      exact congrArg _ (funext ih)

end Following

section Splats

variable {env : Environment} {items : List Value}

/-- A loop over a list without a condition takes the item from every member. -/
theorem Expr.eval_listFor_list {collection item : Expr} {name : String}
    (listed : collection.eval env = .ok (.list items)) :
    (Expr.listFor none name collection item none).eval env =
      (items.mapM fun value => item.eval (env.bind name value)).map .list := by
  rw [Expr.eval_listFor_all listed rfl, List.mapM_map]
  have members : items.zipIdx.map Prod.fst = items := List.zipIdx_map_fst 0 items
  conv => rhs; rw [← members, List.mapM_map]
  rfl

/-- A full splat over a list takes all later steps from every item, and an attribute splat the attributes
that follow it: both are loops over the list. The later steps of an attribute splat go on from the list
that the loop gives. The name of the loop's variable does not matter where it does not occur in the steps. -/
theorem Expr.splats_are_loops {source : NamedValue} (listed : source.value? env = some (.list items)) :
    (∀ (steps : List Step) (name : String), name ∉ stepNames steps →
      (source.followed (.each :: steps)).eval env =
        (Expr.listFor none name (source.followed []) ((Expr.variable name).followed steps) none).eval env) ∧
    ∀ (names : List String) (steps : List Step) (name : String),
      (∀ attr rest, steps ≠ .attribute attr :: rest) →
      (source.followed (.eachAttribute [] :: (names.map .attribute ++ steps))).eval env =
        ((Expr.listFor none name (source.followed [])
          ((Expr.variable name).followed (names.map .attribute)) none).followed steps).eval env := by
  have collection : (source.followed []).eval env = .ok (.list items) :=
    (NamedValue.eval_followed listed []).trans (walk_nil env none 0 _)
  have turn (name : String) (steps : List Step) (value : Value) :
      ((Expr.variable name).followed steps).eval (env.bind name value) =
        walk (env.bind name value) none 0 value (gatherSplats steps) := by
    refine Expr.eval_variable_followed ?_ steps
    rw [Environment.bind, Entries.get?_insert, beq_self_eq_true, if_pos rfl]
  constructor
  · intro steps name absent
    have same (value : Value) : walk (env.bind name value) none 0 value (gatherSplats steps) =
        walk env none 0 value (gatherSplats steps) := by
      have unread : name ∉ stepNames (gatherSplats steps) := fun member =>
        absent (stepNames_gatherSplats_subset steps member)
      have unbound : env.Binds [] := fun _ member => absurd member List.not_mem_nil
      exact (walk_alike _ unbound (Environment.alike_bind unread _ value) none 0 value).symm
    rw [NamedValue.eval_followed listed, gatherSplats_single (fun _ => Step.noConfusion), walk_each env none rfl,
      Expr.eval_listFor_list collection]
    simp only [turn, same]
    rfl
  · intro names steps name ends
    have written : gatherSplats (names.map .attribute) = names.map .attribute := by
      simpa [gatherSplats] using gatherSplats_attributes names []
    rw [NamedValue.eval_followed listed, gatherSplats_splat names ends, walk_step env none rfl Step.noConfusion,
      Expr.eval_followed (fun _ => Expr.noConfusion), Expr.eval_listFor_list collection]
    simp only [turn, written, walk_attributes]
    rfl

theorem Expr.splats_are_loops_over_servers :
    let root : Path := ⟨"/"⟩
    let items : List Value := [.map [("ports", .list [.ofNat 80, .ofNat 443])], .unresolved "var.s" "s"]
    let scope : Scope := { Scope.empty root root root with locals := [("servers", .list items)] }
    let env : Environment := ⟨scope, fun _ _ => .ok .null, none, none, [("n", .ofNat 1)]⟩
    let servers : NamedValue := .localValue "servers"
    let steps : List Step := [.attribute "ports", .index (.variable "n")]
    servers.value? env = some (.list items) ∧ "s" ∉ stepNames steps ∧
      (Expr.listFor none "s" (servers.followed []) ((Expr.variable "s").followed steps) none).eval env =
        .ok (.list [.ofNat 443, .unresolved "var.s" "s"]) ∧
      ((Expr.listFor none "s" (servers.followed []) ((Expr.variable "s").followed [.attribute "ports"])
        none).followed [.index (.variable "n")]).eval env = .ok (.unresolved "var.s" "s") := by
  intro root items scope env servers steps
  have listed : servers.value? env = some (.list items) := rfl
  have absent : "s" ∉ stepNames steps := by simp [steps, stepNames, Expr.names]
  obtain ⟨full, attrs⟩ := Expr.splats_are_loops listed
  exact ⟨listed, absent, (full steps "s" absent).symm.trans rfl,
    (attrs ["ports"] [.index (.variable "n")] "s" fun _ _ => nofun).symm.trans rfl⟩

end Splats

end Terradoc
