import Mathlib.Data.List.Forall2
import Mathlib.Data.List.ReduceOption
import Terradoc.Eval.Expr
import Terradoc.Proofs.Entries
import Terradoc.Proofs.Lists

/-! What for-expressions compute: a list of the entries that are kept, a map with an entry for each of them,
or a map that gathers them by key. -/

namespace Terradoc

/-- What the condition of a loop says of an entry. A loop without a condition keeps all. -/
inductive Decides (env : Environment) : Option Expr → Bool → Prop where
  | always : Decides env none true
  | condition {expr : Expr} {keep : Bool} (truth : expr.eval env = .ok (.bool keep)) :
    Decides env (some expr) keep

/-- What an entry gives to a loop: nothing where the condition is false, else what the loop makes of it. -/
inductive Gives {ρ : Type} (env : Environment) (condition : Option Expr) (makes : ρ → Prop) :
    Option ρ → Prop where
  | left (decided : Decides env condition false) : Gives env condition makes none
  | kept {made : ρ} (decided : Decides env condition true) (held : makes made) :
    Gives env condition makes (some made)

/-- What a loop makes of an entry for a map: the text of its key, and its value. -/
structure MakesField (env : Environment) (entryKey entryValue : Expr) (field : String × Value) : Prop where
  key : ∃ name, entryKey.eval env = .ok name ∧ name.toText = .ok field.1
  value : entryValue.eval env = .ok field.2

def valuesOf (fields : List (String × Value)) (key : String) : List Value :=
  (fields.filter (·.1 == key)).map Prod.snd

/-- Each key with the list of its values, in the order in which the keys first come. -/
def gathered (fields : List (String × Value)) : Entries Value :=
  (fields.map Prod.fst).eraseDups.map fun key => (key, .list (valuesOf fields key))

section Gathering

/-- One more value goes to the end of the list of its key, or starts one at the end of all. -/
theorem addEntry_gathered (fields : List (String × Value)) (name : String) (made : Value) :
    addEntry true (gathered fields) name made = .ok (gathered (fields ++ [(name, made)])) := by
  rw [addEntry, if_pos rfl]
  -- What is gathered are entries that are grouped, with a list for the values of each key.
  exact congrArg Except.ok (Entries.alter_grouped Value.list rfl (fun _ => rfl) fields name)

theorem foldlM_gathered (before fields : List (String × Value)) :
    fields.foldlM (fun entries field => addEntry true entries field.1 field.2) (gathered before) =
      .ok (gathered (before ++ fields)) := by
  induction fields generalizing before with
  | nil => rw [List.append_nil]; rfl
  | cons field rest ih =>
    rw [List.foldlM_cons, addEntry_gathered]
    exact (ih (before ++ [field])).trans (by rw [List.append_assoc, List.singleton_append])

/-- Fields whose keys are new go to the end, one after the other. -/
theorem foldlM_plain {before fields : List (String × Value)}
    (once : ((before ++ fields).map Prod.fst).Nodup) :
    fields.foldlM (fun entries field => addEntry false entries field.1 field.2) before =
      .ok (before ++ fields) := by
  induction fields generalizing before with
  | nil => rw [List.append_nil]; rfl
  | cons field rest ih =>
    have next : before ++ field :: rest = before ++ [field] ++ rest := by
      rw [List.append_assoc, List.singleton_append]
    have fresh : field.1 ∉ before.map Prod.fst := by
      rw [List.map_append, List.map_cons] at once
      intro known
      exact List.disjoint_of_nodup_append once known List.mem_cons_self
    have added : addEntry false before field.1 field.2 = .ok (before ++ [field]) := by
      rw [addEntry, if_neg Bool.false_ne_true, if_neg (Entries.contains_iff.not.mpr fresh),
        Entries.insert_of_fresh _ fresh]
    rw [List.foldlM_cons, added, next]
    exact ih (next ▸ once)

/-- The first field whose key is there already ends the pass. -/
theorem foldlM_plain_repeated (before fields : List (String × Value)) (start : (before.map Prod.fst).Nodup)
    (repeated : ¬ ((before ++ fields).map Prod.fst).Nodup) :
    ∃ name, fields.foldlM (fun entries field => addEntry false entries field.1 field.2) before =
      .error (.duplicateKey name) := by
  induction fields generalizing before with
  | nil => exact absurd (by rwa [List.append_nil]) repeated
  | cons field rest ih =>
    rw [List.foldlM_cons, addEntry, if_neg Bool.false_ne_true]
    by_cases known : field.1 ∈ before.map Prod.fst
    · rw [if_pos (Entries.contains_iff.mpr known)]
      exact ⟨field.1, rfl⟩
    · rw [if_neg (Entries.contains_iff.not.mpr known), Entries.insert_of_fresh _ known]
      refine ih _ ?_ ?_
      · rw [List.map_append, List.map_singleton]
        exact List.concat_eq_append ▸ start.concat known
      · rwa [List.append_assoc, List.singleton_append]

end Gathering

section Turns

variable {env : Environment} {condition : Option Expr}

theorem Decides.eval {keep : Bool} (decided : Decides env condition keep) :
    evalCondition env condition = .ok (.known keep) := by
  cases decided with
  | always => rw [evalCondition]
  | condition truth =>
    rw [evalCondition, truth]
    rfl

/-- A pass leaves out the entries that give nothing, and goes on with what the others give. -/
theorem foldEntries_rows {α ρ : Type} {step : α → Value × Value → Except EvalError (Determined α)}
    (advance : α → ρ → Except EvalError α) {entries : List (Value × Value)} {rows : List (Option ρ)}
    (turns : List.Forall₂ (fun entry row => ∀ state, step state entry =
      match row with
      | none => .ok (.known state)
      | some made => (advance state made).map .known) entries rows) (start : α) :
    foldEntries step start entries = (rows.reduceOption.foldlM advance start).map .known := by
  induction turns generalizing start with
  | nil => rfl
  | @cons entry row rest others turn later ih =>
    rw [foldEntries, turn start]
    cases row with
    | none => exact ih start
    | some made =>
      rw [List.reduceOption_cons_of_some, List.foldlM_cons]
      dsimp only
      cases advance start made with
      | error fault => rfl
      | ok next => exact ih next

end Turns

theorem foldlM_append (start items : List Value) :
    items.foldlM (fun before item => (.ok (before ++ [item]) : Except EvalError (List Value))) start =
      .ok (start ++ items) := by
  induction items generalizing start with
  | nil => rw [List.append_nil]; rfl
  | cons item rest ih =>
    rw [List.foldlM_cons]
    exact (ih (start ++ [item])).trans (by rw [List.append_assoc, List.singleton_append])

/-- A pass that makes something of every entry makes the list of it. -/
theorem foldEntries_mapM (make : Value × Value → Except EvalError Value) (start : List Value)
    (entries : List (Value × Value)) :
    foldEntries (fun items entry => do return .known (items ++ [← make entry])) start entries =
      (entries.mapM make).map fun made => .known (start ++ made) := by
  induction entries generalizing start with
  | nil =>
    rw [foldEntries, List.mapM_nil]
    exact congrArg (Except.ok ∘ Determined.known) (List.append_nil start).symm
  | cons entry rest ih =>
    rw [foldEntries, List.mapM_cons]
    cases make entry with
    | error fault => rfl
    | ok first =>
      refine (ih (start ++ [first])).trans ?_
      cases rest.mapM make with
      | error fault => rfl
      | ok others => exact congrArg (Except.ok ∘ Determined.known) (List.append_assoc start [first] others)

/-- A collection is known and has entries that a loop passes over. -/
def Expr.Ranges (env : Environment) (collection : Expr) (entries : List (Value × Value)) : Prop :=
  ∃ held, collection.eval env = .ok held ∧ held.entries? = .ok entries

section Loops

variable {env : Environment} {key : Option String} {value : String} {collection : Expr}
  {condition : Option Expr} {source : Value} {entries : List (Value × Value)}
  (evaluated : collection.eval env = .ok source) (listed : source.entries? = .ok entries)
include evaluated listed

theorem Expr.eval_listFor {item : Expr} {rows : List (Option Value)}
    (turns : List.Forall₂ (fun entry => Gives (env.bindEntry key value entry) condition
      fun made => item.eval (env.bindEntry key value entry) = .ok made) entries rows) :
    (Expr.listFor key value collection item condition).eval env = .ok (.list rows.reduceOption) := by
  rw [Expr.eval, evaluated]
  dsimp only [Bind.bind, Except.bind]
  split
  · cases listed
  · rw [listed]
    dsimp only
    rw [foldEntries_rows fun before item => .ok (before ++ [item]), foldlM_append]
    · rfl
    · refine turns.imp fun entry row given state => ?_
      cases given with
      | left decided => rw [decided.eval]; rfl
      | kept decided value => rw [decided.eval, value]; rfl

/-- A loop without a condition makes its item of every entry. -/
theorem Expr.eval_listFor_all {item : Expr} :
    (Expr.listFor key value collection item none).eval env =
      (entries.mapM fun entry => item.eval (env.bindEntry key value entry)).map .list := by
  rw [Expr.eval, evaluated]
  dsimp only [Bind.bind, Except.bind]
  split
  · cases listed
  · rw [listed]
    simp only [evalCondition]
    have made := foldEntries_mapM (fun entry => item.eval (env.bindEntry key value entry)) [] entries
    dsimp only [Bind.bind, Except.bind] at made
    rw [made]
    cases entries.mapM fun entry => item.eval (env.bindEntry key value entry) <;> rfl

theorem Expr.eval_mapFor {entryKey entryValue : Expr} {grouping : Bool}
    {rows : List (Option (String × Value))}
    (turns : List.Forall₂ (fun entry => Gives (env.bindEntry key value entry) condition
      (MakesField (env.bindEntry key value entry) entryKey entryValue)) entries rows) :
    (Expr.mapFor key value collection entryKey entryValue grouping condition).eval env =
      (rows.reduceOption.foldlM (fun before field => addEntry grouping before field.1 field.2) []).map
        .map := by
  rw [Expr.eval, evaluated]
  dsimp only [Bind.bind, Except.bind]
  split
  · cases listed
  · rw [listed]
    dsimp only
    rw [foldEntries_rows fun before (field : String × Value) => addEntry grouping before field.1 field.2]
    · cases rows.reduceOption.foldlM (fun before field => addEntry grouping before field.1 field.2) [] <;> rfl
    · refine turns.imp fun entry row given state => ?_
      cases given with
      | left decided => rw [decided.eval]; rfl
      | @kept field decided held =>
        obtain ⟨⟨name, named, written⟩, made⟩ := held
        rw [decided.eval, made, named]
        dsimp only
        split
        · cases written
        · rw [loopKey, written]
          dsimp only
          cases addEntry grouping state field.1 field.2 <;> rfl

/-- A for-expression over a list or a map computes the comprehension it denotes: the values of the entries
whose condition is true, these values gathered by their keys, or one entry for each of them, which fails
just where two of them have the same key. The condition has to give a truth value and the key a text. -/
theorem Expr.loops_denote :
    (∀ {item : Expr} {rows : List (Option Value)},
      List.Forall₂ (fun entry => Gives (env.bindEntry key value entry) condition
        fun made => item.eval (env.bindEntry key value entry) = .ok made) entries rows →
      (Expr.listFor key value collection item condition).eval env = .ok (.list rows.reduceOption)) ∧
    ∀ {entryKey entryValue : Expr} {rows : List (Option (String × Value))},
      List.Forall₂ (fun entry => Gives (env.bindEntry key value entry) condition
        (MakesField (env.bindEntry key value entry) entryKey entryValue)) entries rows →
      (Expr.mapFor key value collection entryKey entryValue true condition).eval env =
        .ok (.map (gathered rows.reduceOption)) ∧
      ((∃ name, (Expr.mapFor key value collection entryKey entryValue false condition).eval env =
          .error (.duplicateKey name)) ↔ ¬ (rows.reduceOption.map Prod.fst).Nodup) ∧
      ((rows.reduceOption.map Prod.fst).Nodup →
        (Expr.mapFor key value collection entryKey entryValue false condition).eval env =
          .ok (.map rows.reduceOption)) := by
  refine ⟨fun turns => Expr.eval_listFor evaluated listed turns, fun turns => ?_⟩
  rename_i entryKey entryValue rows
  have plain : (rows.reduceOption.map Prod.fst).Nodup →
      (Expr.mapFor key value collection entryKey entryValue false condition).eval env =
        .ok (.map rows.reduceOption) := by
    intro once
    rw [Expr.eval_mapFor evaluated listed turns, foldlM_plain (by simpa using once)]
    rfl
  refine ⟨?_, ⟨?_, ?_⟩, plain⟩
  · rw [Expr.eval_mapFor evaluated listed turns]
    exact congrArg (Except.map Value.map) (foldlM_gathered [] rows.reduceOption)
  · rintro ⟨name, failed⟩ once
    cases (plain once).symm.trans failed
  · intro repeated
    obtain ⟨name, failed⟩ :=
      foldlM_plain_repeated [] rows.reduceOption List.nodup_nil (by simpa using repeated)
    rw [Expr.eval_mapFor evaluated listed turns, failed]
    exact ⟨name, rfl⟩

end Loops

theorem Expr.eval_listFor_eq_list_iff {env : Environment} {key : Option String} {value : String}
    {collection item : Expr} {items : List Value} :
    (Expr.listFor key value collection item none).eval env = .ok (.list items) ↔
      ∃ entries, collection.Ranges env entries ∧
        List.Forall₂ (fun entry made => item.eval (env.bindEntry key value entry) = .ok made) entries items := by
  constructor
  · intro done
    have opened := done
    rw [Expr.eval, Except.bind_eq_ok_iff] at opened
    obtain ⟨held, evaluated, looped⟩ := opened
    split at looped
    · cases looped
    · obtain ⟨entries, listed, -⟩ := Except.bind_eq_ok_iff.mp looped
      rw [Expr.eval_listFor_all evaluated listed, Except.map_eq_ok_iff] at done
      obtain ⟨made, each, same⟩ := done
      cases same
      exact ⟨entries, ⟨held, evaluated, listed⟩, mapM_eq_ok_iff.mp each⟩
  · rintro ⟨entries, ⟨held, evaluated, listed⟩, rows⟩
    rw [Expr.eval_listFor_all evaluated listed, mapM_eq_ok_iff.mpr rows]
    rfl

theorem Expr.loops_denote_of_colliding_keys :
    let root : Path := ⟨"/"⟩
    let env : Environment := .ofScope (Scope.empty root root root) fun _ _ => .ok .null
    let collection : Expr := .object
      [(.name "a", .string "x"), (.name "b", .string "y"), (.name "c", .string "x")]
    let condition : Expr := .binary .notEqual (.variable "k") (.string "b")
    (Expr.listFor (some "k") "v" collection (.variable "k") (some condition)).eval env =
        .ok (.list [.string "a", .string "c"]) ∧
      (Expr.mapFor (some "k") "v" collection (.variable "v") (.variable "k") true (some condition)).eval env =
        .ok (.map [("x", .list [.string "a", .string "c"])]) ∧
      ∃ name, (Expr.mapFor (some "k") "v" collection (.variable "v") (.variable "k") false
        (some condition)).eval env = .error (.duplicateKey name) := by
  intro root env collection condition
  have source : collection.eval env =
      .ok (.map [("a", .string "x"), ("b", .string "y"), ("c", .string "x")]) := by
    simp [collection, Expr.eval, evalObject, ObjectKey.eval, Entries.insert, Bind.bind, Except.bind]
  have named (name value : String) :
      (Expr.variable "k").eval (env.bindEntry (some "k") "v" (.string name, .string value)) =
        .ok (.string name) := by
    rw [Expr.eval]
    rfl
  have taken (name value : String) :
      (Expr.variable "v").eval (env.bindEntry (some "k") "v" (.string name, .string value)) =
        .ok (.string value) := by
    rw [Expr.eval]
    rfl
  have asked (name value : String) :
      condition.eval (env.bindEntry (some "k") "v" (.string name, .string value)) =
        .ok (.bool (!Value.equal (.string name) (.string "b"))) := by
    rw [Expr.eval, named, Expr.eval]
    rfl
  have keeps (name value : String) (differ : Value.equal (.string name) (.string "b") = false) :
      Decides (env.bindEntry (some "k") "v" (.string name, .string value)) (some condition) true :=
    .condition (by rw [asked, differ]; rfl)
  have leaves : Decides (env.bindEntry (some "k") "v" (.string "b", .string "y")) (some condition) false :=
    .condition (by rw [asked]; rfl)
  have field (name value : String) :
      MakesField (env.bindEntry (some "k") "v" (.string name, .string value)) (.variable "v") (.variable "k")
        (value, .string name) :=
    ⟨⟨_, taken name value, rfl⟩, named name value⟩
  have first := keeps "a" "x" rfl
  have last := keeps "c" "x" rfl
  obtain ⟨grouped, plain, -⟩ := (Expr.loops_denote source rfl).2
    (.cons (.kept first (field "a" "x")) (.cons (.left leaves) (.cons (.kept last (field "c" "x")) .nil)))
  exact ⟨(Expr.loops_denote source rfl).1 (.cons (.kept first (named _ _)) (.cons (.left leaves)
    (.cons (.kept last (named _ _)) .nil))), grouped, plain.mpr (by decide)⟩

end Terradoc
