import Terradoc.Proofs.Targets.Expr

namespace Terradoc

namespace Environment

/-- An environment with more variables, which hide those of the same names. -/
def bindAll (env : Environment) (added : List (String × Value)) : Environment :=
  added.foldl (fun env entry => env.bind entry.1 entry.2) env

end Environment

/-- A variable whose name does not occur in an expression does not change its value. -/
theorem Expr.eval_bind (expr : Expr) (env : Environment) {name : String} (absent : name ∉ expr.names)
    (value : Value) : expr.eval (env.bind name value) = expr.eval env := by
  have unbound : env.Binds [] := nofun
  exact (expr.eval_alike unbound (Environment.alike_bind absent _ value)).symm

/-- Scoping is hygienic: variables whose names occur nowhere in an expression, neither as roots of references nor as
variables of its own loops nor in its templates, change neither its value nor its error, whatever else they hide. -/
theorem Expr.eval_bindAll (expr : Expr) (env : Environment) {added : List (String × Value)}
    (absent : ∀ entry ∈ added, entry.1 ∉ expr.names) : expr.eval (env.bindAll added) = expr.eval env := by
  -- The environment grows with each variable, so the induction is on the variables for all environments.
  induction added generalizing env with
  | nil => rfl
  | cons entry rest ih =>
    calc expr.eval (env.bindAll (entry :: rest))
        = expr.eval (env.bind entry.1 entry.2) :=
          ih (env.bind entry.1 entry.2) fun other member => absent other (List.mem_cons_of_mem _ member)
      _ = expr.eval env := expr.eval_bind env (absent entry List.mem_cons_self) entry.2

/-- Variables beside a loop over a template that refers to a block and to an outer variable. -/
theorem Expr.eval_bindAll_beside_loop :
    let root : Path := ⟨"/"⟩
    let scope : Scope := { Scope.empty root root root with
      blocks := [("vpc.main", .map [("id", .string "v1")])], declared := ["vpc.main"] }
    let functions : FunctionTable := fun name _ => .error (.unknownFunction name)
    let env : Environment := { Environment.ofScope scope functions with bindings := [("zone", .string "z")] }
    let expr : Expr := .listFor none "s" (.array [.string "a", .string "b"])
      (.template .quoted "$\x7bs\x7d-$\x7bzone\x7d-$\x7bvpc.main.id\x7d" [.interpolation (.variable "s"), .literal "-",
        .interpolation (.variable "zone"), .literal "-",
        .interpolation (.traversal (.variable "vpc") [.attribute "main", .attribute "id"])]) none
    let added : List (String × Value) := [("var", .null), ("main", .string "m"), ("id", .bool true)]
    (∀ entry ∈ added, entry.1 ∉ expr.names) ∧
      expr.eval (env.bindAll added) = .ok (.list [.string "a-z-v1", .string "b-z-v1"]) := by
  intro root scope functions env expr added
  have absent : ∀ entry ∈ added, entry.1 ∉ expr.names := by
    simp [added, expr, Expr.names, itemNames, templateNames, elementNames, stepNames, conditionNames]
  exact ⟨absent, (expr.eval_bindAll env absent).trans rfl⟩

end Terradoc
