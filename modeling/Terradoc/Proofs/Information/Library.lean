import Terradoc.Proofs.Information.Function

/-! Functions of the language that respect the order of information: all but those that look for
lists or equal items inside a collection, and the rendering of files. -/

namespace Terradoc

open Value (Below)

/-- A sort that compares related items alike keeps them related. -/
private theorem mergeSort_related {α β : Type} {relation : α → β → Prop}
    {before : α → α → Bool} {after : β → β → Bool} {left : List α} {right : List β}
    (items : List.Forall₂ relation left right)
    (agree : ∀ first second image other, relation first image → relation second other →
      before first second = after image other) :
    List.Forall₂ relation (left.mergeSort before) (right.mergeSort after) := by
  -- the pairs are sorted as one list, of which the two sorted lists are the sides
  obtain ⟨pairs, rfl, rfl, related⟩ : ∃ pairs : List (α × β), pairs.map Prod.fst = left ∧
      pairs.map Prod.snd = right ∧ ∀ pair ∈ pairs, relation pair.1 pair.2 := by
    refine ⟨left.zip right, ?_, ?_, ?_⟩
    · exact List.map_fst_zip (Nat.le_of_eq items.length_eq)
    · exact List.map_snd_zip (Nat.le_of_eq items.length_eq.symm)
    · intro pair member
      exact List.forall₂_zip items member
  let order (first second : α × β) : Bool := before first.1 second.1
  have firsts : (pairs.mergeSort order).map Prod.fst = (pairs.map Prod.fst).mergeSort before :=
    List.map_mergeSort fun _ _ _ _ => rfl
  have seconds : (pairs.mergeSort order).map Prod.snd = (pairs.map Prod.snd).mergeSort after :=
    List.map_mergeSort fun first here second there =>
      agree first.1 second.1 first.2 second.2 (related first here) (related second there)
  rw [← firsts, ← seconds, List.forall₂_map_left_iff, List.forall₂_map_right_iff,
    List.forall₂_same]
  intro pair member
  exact related pair (List.mem_mergeSort.mp member)

namespace Functions

theorem lengthOf_below {left right : Value} (below : left.Below right) :
    BothRelate Below (lengthOf left) (lengthOf right) := by
  cases below with
  | list items =>
    simp only [lengthOf, items.length_eq]
    exact .self Below.refl _
  | map entries =>
    simp only [lengthOf, entries.length_eq]
    exact .self Below.refl _
  | string => exact .self Below.refl _
  | unknown | null | bool | number => exact .error_left _ _

theorem slice_below {left right : List Value} (items : List.Forall₂ Below left right)
    (start stop : Int) : BothRelate Below (slice left start stop) (slice right start stop) := by
  unfold slice
  rw [items.length_eq]
  split
  · exact .error_left _ _
  · exact .ok (.list (List.forall₂_drop _ (List.forall₂_take _ items)))

private theorem getD_below {left right : List Value} (items : List.Forall₂ Below left right)
    (position : Nat) : (left.getD position .null).Below (right.getD position .null) := by
  induction items generalizing position with
  | nil => exact .null
  | cons head tail ih =>
    cases position with
    | zero => exact head
    | succ position => simpa using ih position

theorem element_below {left right : List Value} (items : List.Forall₂ Below left right)
    (position : Option Number) :
    BothRelate Below (element left position) (element right position) := by
  have empty : left.isEmpty = right.isEmpty := by cases items <;> rfl
  unfold element
  rw [empty, items.length_eq]
  split
  · exact .error_left _ _
  · refine (BothRelate.self (fun _ => rfl) (wholeArgument 1 position)).bind ?_
    rintro index _ rfl
    split
    · exact .error_left _ _
    · exact .ok (getD_below items _)

private theorem byKey_below {left right : Entries Value} (entries : EntriesBelow left right) :
    EntriesBelow (byKey left) (byKey right) := by
  apply mergeSort_related entries
  intro _ _ _ _ first second
  cases first
  cases second
  rfl

theorem keys_below {left right : Entries Value} (entries : EntriesBelow left right) :
    (byKey left).map Prod.fst = (byKey right).map Prod.fst := by
  have sorted := byKey_below entries
  generalize byKey left = first, byKey right = second at sorted
  induction sorted with
  | nil => rfl
  | cons head tail ih =>
    cases head with
    | entry key value => simp [ih]

theorem values_below {left right : Entries Value} (entries : EntriesBelow left right) :
    List.Forall₂ Below ((byKey left).map (·.2)) ((byKey right).map (·.2)) := by
  rw [List.forall₂_map_left_iff, List.forall₂_map_right_iff]
  refine (byKey_below entries).imp ?_
  intro _ _ entry
  cases entry with
  | entry key value => exact value

theorem lookup_below {left right : Entries Value} (entries : EntriesBelow left right) (key : String)
    {others defaults : List Value} (rest : List.Forall₂ Below others defaults) :
    BothRelate Below (lookup left key others) (lookup right key defaults) := by
  unfold lookup
  rcases rel_cases (entries.get? key) with ⟨first, second, here, there, value⟩ | ⟨here, there⟩
  · rw [here, there]
    exact .ok value
  · rw [here, there]
    cases rest with
    | nil => exact .error_left _ _
    | cons head tail => exact .ok head

theorem merge_below {before after : Entries Value} (entries : EntriesBelow before after)
    {left right : List Value} (values : List.Forall₂ Below left right) :
    BothRelate EntriesBelow (merge before left) (merge after right) := by
  induction values generalizing before after with
  | nil => exact .ok entries
  | cons head tail ih =>
    cases head with
    | map more => exact ih (entries.insertAll more)
    | null => exact ih entries
    | unknown | bool | number | string | list => exact .error_left _ _

private theorem textArgument_below {left right : Value} (below : left.Below right) :
    BothRelate Eq (textArgument left) (textArgument right) := by
  rcases left.unknown_or_known with ⟨marker, rfl⟩ | known
  · exact .error_left _ _
  · rw [below.congr textArgument known]
    exact .self (fun _ => rfl) _

private theorem zip_below (keys : List String) {left right : List Value}
    (values : List.Forall₂ Below left right) : EntriesBelow (keys.zip left) (keys.zip right) := by
  induction values generalizing keys with
  | nil => simp
  | cons head tail ih =>
    cases keys with
    | nil => exact .nil
    | cons key rest => exact .cons (.entry key head) (ih rest)

theorem zipmap_below {keys names left right : List Value} (texts : List.Forall₂ Below keys names)
    (values : List.Forall₂ Below left right) :
    BothRelate Below (zipmap keys left) (zipmap names right) := by
  unfold zipmap
  rw [texts.length_eq, values.length_eq]
  split
  · exact .error_left _ _
  · refine (BothRelate.mapM (fun _ _ below => textArgument_below below) texts).bind ?_
    intro first second same
    obtain rfl : first = second := by simpa [List.forall₂_eq_eq_eq] using same
    exact .ok (.map (zip_below first values).ofList)

theorem firstFilled_below {left right : List Value} (values : List.Forall₂ Below left right)
    {first second : Value} (found : left.find? (!isBlank ·) = some first)
    (other : right.find? (!isBlank ·) = some second) : first.Below second := by
  induction values with
  | nil => cases found
  | @cons value image _ _ head tail ih =>
    rcases value.unknown_or_known with ⟨marker, rfl⟩ | known
    · cases found
      exact .unknown marker second
    · have same := head.congr isBlank known
      cases blank : isBlank image with
      | true => exact ih (by simpa [same, blank] using found) (by simpa [blank] using other)
      | false =>
        obtain rfl : value = first := by simpa [same, blank] using found
        obtain rfl : image = second := by simpa [blank] using other
        exact head

private theorem coalesce_below {left right : List Value} (values : List.Forall₂ Below left right)
    (fault : CallFault) :
    BothRelate Below
      (match left.find? (!isBlank ·) with | some value => .ok value | none => .error fault)
      (match right.find? (!isBlank ·) with | some value => .ok value | none => .error fault) := by
  cases found : left.find? (!isBlank ·) with
  | none => exact .error_left _ _
  | some first =>
    cases other : right.find? (!isBlank ·) with
    | none => exact .error_right _ _
    | some second => exact .ok (firstFilled_below values found other)

theorem chunks_below (size budget : Nat) {left right : List Value}
    (items : List.Forall₂ Below left right) :
    List.Forall₂ Below (chunks size budget left) (chunks size budget right) := by
  induction budget generalizing left right with
  | zero => simp [chunks]
  | succ budget ih =>
    cases items with
    | nil => exact .nil
    | cons head tail =>
      have all := List.Forall₂.cons head tail
      exact .cons (.list (List.forall₂_take size all)) (ih (List.forall₂_drop size all))

theorem chunked_below {left right : List Value} (items : List.Forall₂ Below left right)
    (size : Int) : BothRelate Below (chunked left size) (chunked right size) := by
  unfold chunked
  rw [items.length_eq]
  split
  · exact .error_left _ _
  · split
    · exact .ok (.list (.cons (.list items) .nil))
    · exact .ok (.list (chunks_below _ _ items))

end Functions

/-- Calls whose value may change as more gets known: those that choose between failures, look for
lists or equal items inside a collection, or render a file. -/
def guessingCalls : List String := ["try", "can", "flatten", "toset", "templatefile"]

/-- A table of functions whose calls respect the order, but for those that guess. -/
def MonotoneTable (functions : Entries Function) : Prop :=
  ∀ entry ∈ functions, entry.1 ∉ guessingCalls → entry.2.tolerant = true → entry.2.Monotone

private theorem monotoneTable_of_strict {functions : Entries Function}
    (strict : functions.all (fun entry => !entry.2.tolerant) = true) :
    MonotoneTable functions := by
  intro entry member _ tolerant
  have intolerant := List.all_eq_true.mp strict entry member
  simp [tolerant] at intolerant

private theorem MonotoneTable.append {first second : Entries Function}
    (left : MonotoneTable first) (right : MonotoneTable second) :
    MonotoneTable (first ++ second) := by
  intro entry member
  rcases List.mem_append.mp member with member | member
  · exact left entry member
  · exact right entry member

namespace Functions

private theorem onOpenList_monotone {run : List Value → Except CallFault Value}
    (respects : ∀ left right, List.Forall₂ Below left right →
      BothRelate Below (run left) (run right)) : (onOpenList run).Monotone := by
  rintro ⟨left, _⟩ ⟨right, _⟩ ⟨items, _⟩
  exact respects left right items

private theorem onValue_monotone {run : Value → Except CallFault Value}
    (respects : ∀ left right, left.Below right → BothRelate Below (run left) (run right)) :
    (onValue true run).Monotone := by
  rintro ⟨left, _⟩ ⟨right, _⟩ ⟨below, _⟩
  exact respects left right below

private theorem ofKeys_below {left right : Entries Value} (entries : EntriesBelow left right) :
    BothRelate Below (ofItems ((byKey left).map fun entry => .string entry.1))
      (ofItems ((byKey right).map fun entry => .string entry.1)) := by
  have same := congrArg (List.map Value.string) (keys_below entries)
  simp only [List.map_map, Function.comp_def] at same
  rw [same]
  exact .self Below.refl _

private theorem coalescelist_below {left right : List (List Value)}
    (lists : List.Forall₂ (List.Forall₂ Below) left right) (fault : CallFault) :
    BothRelate Below
      (match left.find? (!List.isEmpty ·) with | some items => ofItems items | none => .error fault)
      (match right.find? (!List.isEmpty ·) with
        | some items => ofItems items
        | none => .error fault) := by
  induction lists with
  | nil => exact .error_left _ _
  | cons head tail ih =>
    cases head with
    | nil => exact ih
    | cons first rest => exact .ok (.list (.cons first rest))

theorem collectionFunctions_monotone : MonotoneTable collectionFunctions := by
  unfold MonotoneTable
  simp only [collectionFunctions, List.forall_mem_cons]
  repeat' apply And.intro
  all_goals intro allowed tolerant
  -- what is left are the tolerant functions, in the order of the table
  all_goals try cases tolerant
  · rintro ⟨left, _⟩ ⟨right, _⟩ ⟨below, _⟩
    exact lengthOf_below below
  · intro left right lists
    exact .ok (.list (List.rel_flatten lists))
  · exact absurd (by decide) allowed
  · rintro ⟨left, start, stop, _⟩ ⟨right, _, _, _⟩ ⟨items, rfl, rfl, _⟩
    refine (BothRelate.self (fun _ => rfl) (wholeArgument 1 start)).bind ?_
    rintro first _ rfl
    refine (BothRelate.self (fun _ => rfl) (wholeArgument 2 stop)).bind ?_
    rintro last _ rfl
    exact slice_below items first last
  · exact onOpenList_monotone fun _ _ items => .ok (.list (List.rel_reverse items))
  · rintro ⟨left, position, _⟩ ⟨right, _, _⟩ ⟨items, rfl, _⟩
    exact element_below items position
  · rintro ⟨left, _⟩ ⟨right, _⟩ ⟨entries, _⟩
    exact ofKeys_below entries
  · rintro ⟨left, _⟩ ⟨right, _⟩ ⟨entries, _⟩
    exact .ok (.list (values_below entries))
  · rintro ⟨left, key, others⟩ ⟨right, _, defaults⟩ ⟨entries, rfl, rest⟩
    exact lookup_below entries key rest
  · intro left right values
    exact (merge_below .nil values).bind fun _ _ entries => .ok (.map entries)
  · rintro ⟨keys, left, _⟩ ⟨names, right, _⟩ ⟨texts, values, _⟩
    exact zipmap_below texts values
  · intro left right values
    exact coalesce_below values _
  · intro left right lists
    exact coalescelist_below lists _
  · rintro ⟨left, size, _⟩ ⟨right, _, _⟩ ⟨items, rfl, _⟩
    refine (BothRelate.self (fun _ => rfl) (wholeArgument 1 size)).bind ?_
    rintro number _ rfl
    exact chunked_below items number
  · refine onOpenList_monotone fun left right items => ?_
    cases items with
    | nil => exact .ok .null
    | cons head tail =>
      cases tail with
      | nil => exact .ok head
      | cons => exact .error_left _ _

theorem conversionFunctions_monotone : MonotoneTable conversionFunctions := by
  unfold MonotoneTable
  simp only [conversionFunctions, List.forall_mem_cons]
  repeat' apply And.intro
  all_goals intro allowed tolerant
  all_goals try cases tolerant
  · refine onValue_monotone fun left right below => ?_
    cases below with
    | null => exact .ok .null
    | list items => exact .ok (.list items)
    | unknown | bool | number | string | map => exact .error_left _ _
  · exact absurd (by decide) allowed
  · refine onValue_monotone fun left right below => ?_
    cases below with
    | null => exact .ok .null
    | map entries => exact .ok (.map entries)
    | unknown | bool | number | string | list => exact .error_left _ _

theorem fileFunctions_monotone (host : Host) (root : Path)
    (render : Template → Entries Value → Except EvalError Value) :
    MonotoneTable (fileFunctions host root render) := by
  unfold MonotoneTable
  simp only [fileFunctions, List.forall_mem_cons]
  repeat' apply And.intro
  all_goals intro allowed tolerant
  all_goals try cases tolerant
  exact absurd (by decide) allowed

end Functions

/-- Whatever renders files, all functions but those that guess respect the order. -/
theorem functionsWith_monotone (host : Host) (root : Path)
    (render : Template → Entries Value → Except EvalError Value) :
    MonotoneTable (functionsWith host root render) := by
  open Functions in
  have texts : MonotoneTable textFunctions := monotoneTable_of_strict rfl
  have numbers : MonotoneTable numericFunctions := monotoneTable_of_strict rfl
  have encodings : MonotoneTable encodingFunctions := monotoneTable_of_strict rfl
  have times : MonotoneTable timeFunctions := monotoneTable_of_strict rfl
  exact (((((texts.append collectionFunctions_monotone).append numbers).append
    conversionFunctions_monotone).append encodings).append times).append
    (fileFunctions_monotone host root render)

theorem callAmong_below {functions : Entries Function} (monotone : MonotoneTable functions)
    {name : String} (allowed : name ∉ guessingCalls) {left right : List Value}
    (below : List.Forall₂ Below left right) :
    BothRelate Below (callAmong functions name left) (callAmong functions name right) := by
  unfold callAmong
  cases found : Entries.get? functions name with
  | none => exact .error_left _ _
  | some function =>
    dsimp only
    have called := function.call_below (monotone _ (Entries.mem_of_get? found) allowed) below
    cases first : function.call left with
    | error => exact .error_left _ _
    | ok value =>
      cases second : function.call right with
      | error => exact .error_right _ _
      | ok image => exact .ok (called value image first second)

/-- A call of the language with more filled in gives a value with more filled in. -/
theorem Host.functions_below (host : Host) (root : Path) {name : String}
    (allowed : name ∉ guessingCalls) {left right : List Value}
    (below : List.Forall₂ Below left right) :
    BothRelate Below (host.functions root name left) (host.functions root name right) :=
  callAmong_below (functionsWith_monotone host root _) allowed below

end Terradoc
