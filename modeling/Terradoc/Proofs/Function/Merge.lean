import Terradoc.Proofs.Entries
import Terradoc.Proofs.Function.Call

/-! Maps that are merged. Values come from the last map that has the key and places from the first, so that
maps may be merged in any groups, and what holds no entries may be left out. -/

namespace Terradoc

namespace Entries

variable {α : Type}

/-- The union of maps: the keys in the order in which they first occur, each with its value in the last map
that has it. -/
structure RightUnion (maps : List (Entries α)) (union : Entries α) : Prop where
  keys : union.map Prod.fst = (maps.flatten.map Prod.fst).eraseDups
  values : ∀ key, get? union key = maps.reverse.findSome? (get? · key)

/-- The value that stands last for a key is the one in the last map that has it. -/
theorem get?_reverse_flatten {maps : List (Entries α)} (once : ∀ entries ∈ maps, (entries.map Prod.fst).Nodup)
    (key : String) : get? maps.flatten.reverse key = maps.reverse.findSome? (get? · key) := by
  induction maps with
  | nil => rfl
  | cons entries rest ih =>
    obtain ⟨here, later⟩ := List.forall_mem_cons.mp once
    rw [List.flatten_cons, List.reverse_append, get?_append, ih later, List.reverse_cons, List.findSome?_append,
      ← get?_of_perm (List.reverse_perm entries).symm here]
    simp

theorem rightUnion_ofList {maps : List (Entries α)} (once : ∀ entries ∈ maps, (entries.map Prod.fst).Nodup) :
    RightUnion maps (ofList maps.flatten) where
  keys := keys_ofList maps.flatten
  values key := by rw [get?_ofList, get?_reverse_flatten once]

end Entries

/-- What can be merged: maps, in which each key stands once, and nulls. -/
inductive Value.Mergeable : Value → Prop where
  | null : Mergeable .null
  | map {entries : Entries Value} (once : (entries.map Prod.fst).Nodup) : Mergeable (.map entries)

theorem Value.Mergeable.unknown? {value : Value} (mergeable : value.Mergeable) : value.unknown? = none := by
  cases mergeable <;> rfl

/-- The entries of the maps among values, one after the other. -/
def entriesOf (values : List Value) : List (String × Value) := (values.filterMap Value.map?).flatten

theorem entriesOf_append (first second : List Value) :
    entriesOf (first ++ second) = entriesOf first ++ entriesOf second := by
  rw [entriesOf, List.filterMap_append, List.flatten_append]
  rfl

namespace Functions

theorem merge_of_mergeable {arguments : List Value} (each : ∀ argument ∈ arguments, argument.Mergeable)
    (start : Entries Value) : merge start arguments = .ok (Entries.insertAll start (entriesOf arguments)) := by
  induction arguments generalizing start with
  | nil => rfl
  | cons argument rest ih =>
    obtain ⟨here, later⟩ := List.forall_mem_cons.mp each
    cases here with
    | null => exact ih later start
    | @map entries once =>
      rw [merge, ih later, Entries.insertAll, Entries.insertAll, ← List.foldl_append]
      rfl

/-- Maps and nulls without entries count for nothing, also where other arguments are no maps. -/
theorem merge_blank {blank : Value} (empty : blank = .null ∨ blank = .map []) (before after : List Value)
    (start : Entries Value) : merge start (before ++ blank :: after) = merge start (before ++ after) := by
  induction before generalizing start with
  | nil => rcases empty with rfl | rfl <;> rfl
  | cons argument rest ih =>
    cases argument with
    | map entries => exact ih (Entries.insertAll start entries)
    | null => exact ih start
    | bool | number | string | list | unknown => rfl

end Functions

section Calls

variable {host : Host} {root : Path} {depth : Nat}

/-- The function that merges, as it stands among the functions. -/
def mergeFunction : Function := ⟨[], some .any, true, fun values => (Functions.merge [] values).map Value.map⟩

theorem get?_merge (render : Template → Entries Value → Except EvalError Value) :
    Entries.get? (functionsWith host root render) "merge" = some mergeFunction := rfl

theorem mergeFunction_call (arguments : List Value) :
    mergeFunction.call arguments =
      match arguments.findSome? Value.unknown? with
      | some marker => .ok (.unknown marker)
      | none => (Functions.merge [] arguments).map Value.map := by
  have accepted : Arguments.accept mergeFunction.more mergeFunction.params 0 arguments = .ok arguments :=
    acceptAll_any 0 arguments
  rw [Function.call, accepted]
  rfl

theorem functionTable_merge {arguments : List Value} (each : ∀ argument ∈ arguments, argument.Mergeable) :
    functionTable host root depth "merge" arguments = .ok (.map (Entries.ofList (entriesOf arguments))) := by
  have plain : arguments.findSome? Value.unknown? = none :=
    List.findSome?_eq_none_iff.mpr fun argument member => (each argument member).unknown?
  refine functionTable_call get?_merge ?_
  rw [mergeFunction_call, plain, Functions.merge_of_mergeable each]
  rfl

end Calls

/-- What merging does to maps and nulls. Their values may hold unknowns. -/
structure MergeLaws (functions : FunctionTable) : Prop where
  union : ∀ arguments, (∀ argument ∈ arguments, argument.Mergeable) →
    ∃ merged, functions "merge" arguments = .ok (.map merged) ∧
      Entries.RightUnion (arguments.filterMap Value.map?) merged
  /-- What is merged by itself may stand for its parts anywhere among the arguments. -/
  grouped : ∀ before inner after, (∀ argument ∈ before ++ inner ++ after, argument.Mergeable) →
    (functions "merge" inner >>= fun merged => functions "merge" (before ++ merged :: after)) =
      functions "merge" (before ++ inner ++ after)
  associative : ∀ first second third : Value, first.Mergeable → second.Mergeable → third.Mergeable →
    (functions "merge" [first, second] >>= fun merged => functions "merge" [merged, third]) =
        functions "merge" [first, second, third] ∧
      (functions "merge" [second, third] >>= fun merged => functions "merge" [first, merged]) =
        functions "merge" [first, second, third]
  neutral : ∀ before after blank, blank = .null ∨ blank = .map [] →
    functions "merge" (before ++ blank :: after) = functions "merge" (before ++ after)

section Laws

variable {host : Host} {root : Path} {depth : Nat}

theorem functionTable_merge_grouped (before inner after : List Value)
    (each : ∀ argument ∈ before ++ inner ++ after, argument.Mergeable) :
    (functionTable host root depth "merge" inner >>= fun merged =>
        functionTable host root depth "merge" (before ++ merged :: after)) =
      functionTable host root depth "merge" (before ++ inner ++ after) := by
  obtain ⟨front, last⟩ := List.forall_mem_append.mp each
  obtain ⟨first, middle⟩ := List.forall_mem_append.mp front
  have whole : ∀ argument ∈ before ++ .map (Entries.ofList (entriesOf inner)) :: after, argument.Mergeable :=
    List.forall_mem_append.mpr ⟨first, List.forall_mem_cons.mpr ⟨.map (Entries.nodup_ofList _), last⟩⟩
  have entries : entriesOf (before ++ .map (Entries.ofList (entriesOf inner)) :: after) =
      entriesOf before ++ Entries.ofList (entriesOf inner) ++ entriesOf after := by
    rw [entriesOf_append, List.append_assoc]
    rfl
  rw [functionTable_merge middle, functionTable_merge each, entriesOf_append, entriesOf_append,
    ← Entries.ofList_append_ofList, ← entries]
  exact functionTable_merge whole

end Laws

/-- Merging is an associative union of maps in which the right one counts, with nulls and the empty map as
neutral elements. -/
theorem merge_laws (host : Host) (root : Path) (depth : Nat) : MergeLaws (functionTable host root depth) where
  union arguments each := by
    refine ⟨_, functionTable_merge each, Entries.rightUnion_ofList fun entries member => ?_⟩
    obtain ⟨argument, inside, found⟩ := List.mem_filterMap.mp member
    cases each argument inside with
    | null => cases found
    | map once =>
      cases found
      exact once
  grouped := functionTable_merge_grouped
  associative first second third one two three := by
    have each : ∀ argument ∈ [first, second, third], argument.Mergeable := by simp [one, two, three]
    exact ⟨functionTable_merge_grouped [] [first, second] [third] each,
      functionTable_merge_grouped [first] [second, third] [] each⟩
  neutral before after blank empty := by
    refine functionTable_congr get?_merge ?_
    have plain : blank.unknown? = none := by rcases empty with rfl | rfl <;> rfl
    rw [mergeFunction_call, mergeFunction_call, Functions.merge_blank empty, List.findSome?_append,
      List.findSome?_append, List.findSome?_cons, plain]

/-- A key keeps its place and takes the last value, here one that is unknown, and a null beside maps is no matter. -/
theorem merge_laws_of_overlap :
    let region := Value.unknown (Unknown.plain "data.region" "region")
    let first := Value.map [("name", .string "a"), ("region", .string "b")]
    let second := Value.map [("size", .null), ("region", region)]
    (∀ argument ∈ [first, .null, second], argument.Mergeable) ∧
      functionTable ⟨.directory [], ⟨"/"⟩, "/", ⟨"/tmp"⟩⟩ ⟨"/"⟩ 0 "merge" [first, .null, second] =
        .ok (.map [("name", .string "a"), ("region", region), ("size", .null)]) := by
  intro region first second
  have each : ∀ argument ∈ [first, .null, second], argument.Mergeable := by
    simp only [List.forall_mem_cons]
    exact ⟨.map (by decide), .null, .map (by decide), List.forall_mem_nil _⟩
  refine ⟨each, ?_⟩
  have laws := merge_laws ⟨.directory [], ⟨"/"⟩, "/", ⟨"/tmp"⟩⟩ ⟨"/"⟩ 0
  exact (laws.neutral [first] [second] .null (.inl rfl)).trans rfl

end Terradoc
