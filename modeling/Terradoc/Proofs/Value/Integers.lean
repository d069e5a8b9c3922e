import Terradoc.Proofs.Number.Rounding
import Terradoc.Proofs.Value.Comparison
import Terradoc.Proofs.Value.Sets

/-! Integers as values. They are compared by their doubles, which tell two integers apart just when these
differ in the first 53 significant bits. -/

namespace Terradoc

open Number (rounded)

namespace Value

def integers (items : List ℤ) : Value := list (items.map ofInt)

/-- The integers of a set are compared by what they are, and so are the items of lists of them. -/
structure ComparedByValue (functions : FunctionTable) (among : Set ℤ) : Prop where
  equal : ∀ left ∈ among, ∀ right ∈ among, equal (ofInt left) (ofInt right) = true ↔ left = right
  order : ∀ left ∈ among, ∀ right ∈ among, order (ofInt left) (ofInt right) = compare left right
  operators : ∀ left ∈ among, ∀ right ∈ among,
    BinaryOperator.equal.Yields (ofInt left) (ofInt right) (.bool (left = right)) ∧
      BinaryOperator.notEqual.Yields (ofInt left) (ofInt right) (.bool (left ≠ right))
  distinct : ∀ items : List ℤ, (∀ item ∈ items, item ∈ among) →
    functions "distinct" [integers items] = .ok (integers items.eraseDups)
  toset : ∀ items : List ℤ, (∀ item ∈ items, item ∈ among) →
    functions "toset" [integers items] = .ok (integers (items.eraseDups.mergeSort))
  contains : ∀ items : List ℤ, (∀ item ∈ items, item ∈ among) → ∀ wanted ∈ among,
    functions "contains" [integers items, ofInt wanted] = .ok (.bool (wanted ∈ items))
  index : ∀ items : List ℤ, (∀ item ∈ items, item ∈ among) → ∀ wanted ∈ among, ∀ result,
    functions "index" [integers items, ofInt wanted] = .ok result ↔
      wanted ∈ items ∧ result = ofNat (items.idxOf wanted)

theorem equal_ofInt {left right : ℤ} (first : left ∈ Number.words) (second : right ∈ Number.words) :
    equal (ofInt left) (ofInt right) = true ↔ rounded left = rounded right :=
  Number.numericallyEqual_int first second

theorem order_ofInt {left right : ℤ} (first : left ∈ Number.words) (second : right ∈ Number.words) :
    order (ofInt left) (ofInt right) = compare (rounded left) (rounded right) :=
  Number.order_int first second

theorem distinct_concat (items : List Value) (item : Value) :
    distinct (items ++ [item]) =
      if (distinct items).any (Value.equal · item) then distinct items else distinct items ++ [item] := by
  unfold distinct
  rw [List.foldl_append, List.any_reverse]
  simp only [List.foldl_cons, List.foldl_nil]
  split <;> simp

section Apart

variable {among : Set ℤ} (apart : ∀ left ∈ among, ∀ right ∈ among,
  equal (ofInt left) (ofInt right) = true ↔ left = right)

include apart

private theorem any_equal_ofInt {items : List ℤ} (within : ∀ item ∈ items, item ∈ among) {wanted : ℤ}
    (inside : wanted ∈ among) :
    (items.map ofInt).any (Value.equal · (ofInt wanted)) = true ↔ wanted ∈ items := by
  rw [List.any_map, List.any_eq_true]
  constructor
  · rintro ⟨item, member, same⟩
    exact (apart item (within item member) wanted inside).mp same ▸ member
  · intro member
    exact ⟨wanted, member, (apart wanted inside wanted inside).mpr rfl⟩

private theorem distinct_ofInt (items : List ℤ) (within : ∀ item ∈ items, item ∈ among) :
    distinct (items.map ofInt) = items.eraseDups.map ofInt := by
  induction items using List.reverseRecOn with
  | nil => rfl
  | append_singleton rest item ih =>
    obtain ⟨before, last⟩ := List.forall_mem_append.mp within
    have inside := last item (List.mem_singleton_self item)
    have kept : ∀ item ∈ rest.eraseDups, item ∈ among :=
      fun item member => before item (List.mem_eraseDups.mp member)
    rw [List.map_append, List.map_singleton, distinct_concat, ih before, List.eraseDups_concat]
    simp only [any_equal_ofInt apart kept inside, List.mem_eraseDups]
    split
    · rfl
    · rw [List.map_append, List.map_singleton]

private theorem toSet_ofInt (sorts : ∀ left ∈ among, ∀ right ∈ among,
    order (ofInt left) (ofInt right) = compare left right) (items : List ℤ)
    (within : ∀ item ∈ items, item ∈ among) :
    toSet (items.map ofInt) = (items.eraseDups.mergeSort).map ofInt := by
  rw [toSet, distinct_ofInt apart items within]
  refine (List.map_mergeSort fun left member right member' => ?_).symm
  have first := within left (List.mem_eraseDups.mp member)
  have second := within right (List.mem_eraseDups.mp member')
  rw [notAfter, sorts left first right second, Bool.eq_iff_iff, decide_eq_true_iff, bne_iff_ne]
  exact compare_le_iff_le.symm

private theorem findIdx?_ofInt {items : List ℤ} (within : ∀ item ∈ items, item ∈ among) {wanted : ℤ}
    (inside : wanted ∈ among) : (items.map ofInt).findIdx? (Value.equal · (ofInt wanted)) =
      if wanted ∈ items then some (items.idxOf wanted) else none := by
  induction items with
  | nil => rfl
  | cons item rest ih =>
    obtain ⟨first, later⟩ := List.forall_mem_cons.mp within
    rw [List.map_cons, List.findIdx?_cons, ih later]
    by_cases same : item = wanted
    · subst same
      simp [(apart item first item first).mpr rfl]
    · have differ : Value.equal (ofInt item) (ofInt wanted) = false := by
        rw [← Bool.not_eq_true, apart item first wanted inside]
        exact same
      by_cases member : wanted ∈ rest
      · simp [differ, same, member]
      · simp [differ, member, Ne.symm same]

end Apart

section Calls

variable {host : Host} {root : Path} {depth : Nat}

theorem integers_known (items : List ℤ) : (integers items).unknowns = [] := by
  refine unknownsOfItems_eq_nil_iff.mpr fun item member => ?_
  obtain ⟨value, _, rfl⟩ := List.mem_map.mp member
  rfl

/-- Where equality tells the integers of a set apart and the order is theirs, so do all that build on these. -/
theorem comparedByValue_of_apart {among : Set ℤ}
    (apart : ∀ left ∈ among, ∀ right ∈ among, Value.equal (ofInt left) (ofInt right) = true ↔ left = right)
    (sorts : ∀ left ∈ among, ∀ right ∈ among, order (ofInt left) (ofInt right) = compare left right) :
    ComparedByValue (functionTable host root depth) among where
  equal := apart
  order := sorts
  operators left first right second := by
    rw [BinaryOperator.yields_iff, BinaryOperator.yields_iff]
    have same : Value.equal (ofInt left) (ofInt right) = decide (left = right) := by
      rw [Bool.eq_iff_iff, decide_eq_true_iff]
      exact apart left first right second
    simp [BinaryOperator.result, BinaryOperator.apply, ofInt, unknown?] at same ⊢
    simp [same]
  distinct items within := by
    have gives : functionTable host root depth "distinct" [integers items] =
        .ok (list (Value.distinct (items.map ofInt))) :=
      functionTable_run (fun _ => rfl) rfl (List.forall_mem_singleton.mpr (integers_known items)) rfl rfl
    rw [gives, distinct_ofInt apart items within]
    rfl
  toset items within := by
    rw [integers, functionTable_toset, toSet_ofInt apart sorts items within]
    rfl
  contains items within wanted inside := by
    have gives : functionTable host root depth "contains" [integers items, ofInt wanted] =
        .ok (.bool (Functions.holds (items.map ofInt) (ofInt wanted))) :=
      functionTable_run (fun _ => rfl) rfl
        (List.forall_mem_cons.mpr ⟨integers_known items, List.forall_mem_singleton.mpr rfl⟩) rfl rfl
    have held : Functions.holds (items.map ofInt) (ofInt wanted) = decide (wanted ∈ items) := by
      rw [Bool.eq_iff_iff, decide_eq_true_iff]
      exact any_equal_ofInt apart within inside
    rw [gives, held]
  index items within wanted inside result := by
    have runs : functionTable host root depth "index" [integers items, ofInt wanted] = .ok result ↔
        Functions.indexOf (items.map ofInt) (ofInt wanted) = .ok result := by
      refine (functionTable_run_iff (fun _ => rfl) rfl ?_ rfl).trans Iff.rfl
      exact List.forall_mem_cons.mpr ⟨integers_known items, List.forall_mem_singleton.mpr rfl⟩
    rw [runs, Functions.indexOf, findIdx?_ofInt apart within inside]
    by_cases member : wanted ∈ items
    · simp [member, eq_comm]
    · simp [member]

end Calls

/-- The integers of 64-bit words are compared as they are to 53 significant bits, so that the comparisons of
the integers of a set, and the functions on lists of them, go by the integers themselves just when no two of the
set are the same to 53 bits. -/
theorem integers_comparedByValue_iff (host : Host) (root : Path) (depth : Nat) {among : Set ℤ}
    (words : among ⊆ Number.words) :
    (∀ left ∈ among, ∀ right ∈ among,
        (Value.equal (ofInt left) (ofInt right) = true ↔ rounded left = rounded right) ∧
          order (ofInt left) (ofInt right) = compare (rounded left) (rounded right)) ∧
      (ComparedByValue (functionTable host root depth) among ↔ among.InjOn rounded) := by
  constructor
  · intro left first right second
    exact ⟨equal_ofInt (words first) (words second), order_ofInt (words first) (words second)⟩
  constructor
  · intro compared left first right second same
    exact (compared.equal left first right second).mp ((equal_ofInt (words first) (words second)).mpr same)
  · intro injective
    apply comparedByValue_of_apart
    · intro left first right second
      rw [equal_ofInt (words first) (words second), injective.eq_iff first second]
    · intro left first right second
      have sorted := (Number.rounded_mono.monotoneOn among).strictMonoOn_of_injOn injective
      rw [order_ofInt (words first) (words second), ← cmp_eq_compare, ← cmp_eq_compare]
      exact sorted.cmp_map_eq first second

/-- Integers of up to 53 bits are compared by what they are. -/
theorem integers_comparedByValue_of_small :
    Set.Icc (-2 ^ 53 : ℤ) (2 ^ 53) ⊆ Number.words ∧
      ComparedByValue (functionTable ⟨.directory [], ⟨"/"⟩, "/", ⟨"/tmp"⟩⟩ ⟨"/"⟩ 0)
        (Set.Icc (-2 ^ 53 : ℤ) (2 ^ 53)) := by
  have words : Set.Icc (-2 ^ 53 : ℤ) (2 ^ 53) ⊆ Number.words := by
    intro value small
    have bounds : (-9223372036854775808 : ℤ) ≤ value ∧ value < 2 ^ 64 := by
      obtain ⟨low, high⟩ := small
      omega
    exact bounds
  refine ⟨words, (integers_comparedByValue_iff _ _ 0 words).2.mpr ?_⟩
  intro left first right second same
  obtain ⟨low, high⟩ := first
  obtain ⟨low', high'⟩ := second
  rwa [Number.rounded_of_small (by omega), Number.rounded_of_small (by omega)] at same

/-- The first two integers that are the same to 53 bits: one of them is dropped. -/
theorem integers_not_comparedByValue :
    let functions := functionTable ⟨.directory [], ⟨"/"⟩, "/", ⟨"/tmp"⟩⟩ ⟨"/"⟩ 0
    (9007199254740992 : ℤ) ∈ Number.words ∧ (9007199254740993 : ℤ) ∈ Number.words ∧
      Value.equal (ofInt 9007199254740993) (ofInt 9007199254740992) = true ∧
      functions "toset" [integers [9007199254740992, 9007199254740993]] =
        .ok (integers [9007199254740992]) := by
  intro functions
  have word : (9007199254740992 : ℤ) ∈ Number.words := Set.mem_Ico.mpr (by decide)
  have word' : (9007199254740993 : ℤ) ∈ Number.words := Set.mem_Ico.mpr (by decide)
  have same : rounded 9007199254740992 = rounded 9007199254740993 := by decide +kernel
  have equals := (equal_ofInt word word').mpr same
  have once : toSet [ofInt 9007199254740992, ofInt 9007199254740993] = [ofInt 9007199254740992] := by
    simp [toSet, distinct, equals]
  refine ⟨word, word', (equal_ofInt word' word).mpr same.symm, ?_⟩
  exact (functionTable_toset _ _ 0 _).trans (congrArg (fun items => Except.ok (list items)) once)

end Value

end Terradoc
