import Terradoc.Proofs.Eval.Steps
import Terradoc.Proofs.Function.Call
import Terradoc.Proofs.Json.Reading
import Terradoc.Proofs.Number.WholeDoubles
import Terradoc.Proofs.Value.Membership

/-! Values and their JSON form. A known value comes back from it equal at every depth and with all keys in their
order. It need not come back the same, for a whole double in the range of the integers comes back as one. -/

namespace Terradoc

namespace Value

mutual
/-- Values that are equal at every depth and whose maps have their keys in the same order. -/
inductive EqualInOrder : Value → Value → Prop where
  | null : EqualInOrder .null .null
  | bool (value : Bool) : EqualInOrder (.bool value) (.bool value)
  | number {left right : Number} (equals : left.numericallyEqual right = true) :
    EqualInOrder (.number left) (.number right)
  | string (text : String) : EqualInOrder (.string text) (.string text)
  | list {left right : List Value} (items : List.Forall₂ EqualInOrder left right) :
    EqualInOrder (.list left) (.list right)
  | map {left right : Entries Value} (entries : List.Forall₂ EntryEqual left right) :
    EqualInOrder (.map left) (.map right)

/-- The same key with values that are equal at every depth. -/
inductive EntryEqual : String × Value → String × Value → Prop where
  | entry (key : String) {left right : Value} (value : EqualInOrder left right) : EntryEqual (key, left) (key, right)
end

theorem EqualInOrder.unknown? {left right : Value} (alike : left.EqualInOrder right) :
    left.unknown? = none ∧ right.unknown? = none := by
  cases alike <;> exact ⟨rfl, rfl⟩

/-- What is equal in order is equal inside the language. -/
theorem EqualInOrder.equal {left right : Value} (formed : right.Formed) (alike : left.EqualInOrder right) :
    Value.equal left right = true := by
  induction formed generalizing left with
  | null | bool | string =>
    cases alike
    simp [Value.equal, same]
  | unknown => cases alike
  | number =>
    cases alike with
    | number equals => exact equals
  | list _ ih =>
    cases alike with
    | list items =>
      rw [Value.equal, equalItems_iff]
      exact forall₂_of_mem items fun _ _ item inside alike => ih item inside alike
  | map once _ ih =>
    cases alike with
    | map entries =>
      rw [Value.equal, Bool.and_eq_true, equalEntries_iff]
      refine ⟨beq_iff_eq.mpr entries.length_eq, fun entry member => ?_⟩
      obtain ⟨other, inside, alike⟩ := exists_of_forall₂ entries.flip member
      obtain ⟨key, value⟩ := alike
      exact ⟨_, (Entries.get?_eq_some_iff once).mpr inside, ih _ inside value⟩

theorem forall₂_itemsOfJson {items : List Value}
    (each : ∀ item ∈ items, (ofJson item.toJson).EqualInOrder item) :
    List.Forall₂ EqualInOrder (itemsOfJson (itemsToJson items)) items := by
  induction items with
  | nil => exact .nil
  | cons item others ih =>
    obtain ⟨here, later⟩ := List.forall_mem_cons.mp each
    exact .cons here (ih later)

theorem forall₂_entriesOfJson {entries : Entries Value}
    (each : ∀ entry ∈ entries, (ofJson entry.2.toJson).EqualInOrder entry.2) :
    List.Forall₂ EntryEqual (entriesOfJson (entriesToJson entries)) entries := by
  induction entries with
  | nil => exact .nil
  | cons entry others ih =>
    obtain ⟨key, value⟩ := entry
    obtain ⟨here, later⟩ := List.forall_mem_cons.mp each
    exact .cons (.entry key here) (ih later)

theorem ofJsonNumber_equal {number : Number} (finite : number.Finite) :
    (ofJsonNumber number).EqualInOrder (.number number) := by
  cases number with
  | int => exact .number ((Number.numericallyEqual_iff finite finite).mpr rfl)
  | float double =>
    obtain ⟨read, made, equals⟩ := Number.ofFloat?_equal finite
    rw [ofJsonNumber, ofFloat, made]
    exact .number equals

/-- A known value comes back from its JSON form. -/
theorem ofJson_toJson {value : Value} (plain : value.Plain) : (ofJson value.toJson).EqualInOrder value := by
  obtain ⟨formed, known⟩ := plain
  induction formed with
  | null => exact .null
  | bool truth => exact .bool truth
  | number finite => exact ofJsonNumber_equal finite
  | string text => exact .string text
  | unknown => cases known
  | list _ ih =>
    have below := unknownsOfItems_eq_nil_iff.mp known
    exact .list (forall₂_itemsOfJson fun item member => ih item member (below item member))
  | map _ _ ih =>
    have below := unknownsOfEntries_eq_nil_iff.mp known
    exact .map (forall₂_entriesOfJson fun entry member => ih entry member (below entry member))

end Value

section Calls

variable {host : Host} {root : Path} {depth : Nat}

theorem functionTable_jsonencode {value : Value} (known : value.unknowns = []) :
    functionTable host root depth "jsonencode" [value] = .ok (.string value.toJson.compact) :=
  (functionTable_onValue (fun _ => rfl) known).mpr rfl

theorem functionTable_jsondecode {text : String} {json : Json} (read : Json.parse? text = some json) :
    functionTable host root depth "jsondecode" [.string text] = .ok (.ofJson json) :=
  functionTable_run (fun _ => rfl) rfl (by simp [Value.unknowns]) rfl (by simp only [read])

variable {env : Environment} {expr : Expr} {value : Value}

theorem Expr.eval_jsonencode (table : env.functions = functionTable host root depth)
    (evaluated : expr.eval env = .ok value) (known : value.unknowns = []) :
    (Expr.call "jsonencode" [expr] false).eval env = .ok (.string value.toJson.compact) := by
  rw [Expr.eval_call env (by decide), table]
  simp only [evalItems, evaluated]
  exact functionTable_jsonencode known

theorem Expr.eval_jsondecode (table : env.functions = functionTable host root depth) {text : String} {json : Json}
    (evaluated : expr.eval env = .ok (.string text)) (read : Json.parse? text = some json) :
    (Expr.call "jsondecode" [expr] false).eval env = .ok (.ofJson json) := by
  rw [Expr.eval_call env (by decide), table]
  simp only [evalItems, evaluated]
  exact functionTable_jsondecode read

end Calls

/-- A known value comes back from its JSON form with every key in its place, so that what `jsondecode` makes of the
text of `jsonencode` is equal to it wherever that text is read back, which it is unless a number in it is not or
it is nested too deep. -/
theorem json_keeps_value {value : Value} (plain : value.Plain) :
    (Value.ofJson value.toJson).EqualInOrder value ∧ Value.equal (Value.ofJson value.toJson) value = true ∧
      (value.toJson.Readable Json.depthLimit → Json.parse? value.toJson.compact = some value.toJson) ∧
      (Json.parse? value.toJson.compact = some value.toJson →
        ∀ (host : Host) (root : Path) (depth : Nat) (env : Environment) (expr : Expr),
          env.functions = functionTable host root depth → expr.eval env = .ok value →
          (Expr.binary .equal (.call "jsondecode" [.call "jsonencode" [expr] false] false) expr).eval env =
            .ok (.bool true)) := by
  have alike := Value.ofJson_toJson plain
  have equals := alike.equal plain.formed
  refine ⟨alike, equals, Json.parse?_compact, fun read host root depth env expr table evaluated => ?_⟩
  have encoded := Expr.eval_jsonencode table evaluated plain.known
  have decoded := Expr.eval_jsondecode table encoded read
  obtain ⟨left, right⟩ := alike.unknown?
  rw [Expr.eval_binary .equal decoded evaluated, BinaryOperator.result_of_known .equal left right,
    BinaryOperator.apply, equals]

/-- A whole double comes back as an integer, the largest integer stays, and so do the places of the keys. -/
theorem json_keeps_value_of_nested :
    let root : Path := ⟨"/"⟩
    let host : Host := ⟨.directory [], root, "/", root⟩
    let held (three : Number) := Value.map [
      ("b", .list [.number three, .number (.int 18446744073709551615), .null]), ("a", .string "\"\n")]
    let value := held (.float 3.0)
    let env := (Environment.ofScope (Scope.empty root root root) (functionTable host root 0)).bind "v" value
    value.Plain ∧ value.toJson.Readable Json.depthLimit ∧ (Expr.variable "v").eval env = .ok value ∧
      Value.ofJson value.toJson = held (.int 3) ∧
      (Expr.binary .equal (.call "jsondecode" [.call "jsonencode" [.variable "v"] false] false) (.variable "v")).eval
        env = .ok (.bool true) := by
  intro root host held value env
  have finite : (Number.float 3.0).Finite := by rfl
  have plain : value.Plain := by
    refine ⟨.map (by decide) ?_, rfl⟩
    simp only [List.forall_mem_cons]
    refine ⟨.list ?_, .string _, List.forall_mem_nil _⟩
    simp only [List.forall_mem_cons]
    exact ⟨.number finite, .number trivial, .null, List.forall_mem_nil _⟩
  have readable : value.toJson.Readable Json.depthLimit := by
    refine .object (by decide) ?_
    simp only [Value.entriesToJson, List.forall_mem_cons]
    refine ⟨.array ?_, .string _ _, List.forall_mem_nil _⟩
    simp only [Value.itemsToJson, List.forall_mem_cons]
    exact ⟨.number _ (by rfl), .int _ (Set.mem_Ico.mpr (by decide)), .null _, List.forall_mem_nil _⟩
  have evaluated : (Expr.variable "v").eval env = .ok value := by rfl
  obtain ⟨_, _, read, decodes⟩ := json_keeps_value plain
  exact ⟨plain, readable, evaluated, by rfl, decodes (read readable) host root 0 env (.variable "v") rfl evaluated⟩

end Terradoc
