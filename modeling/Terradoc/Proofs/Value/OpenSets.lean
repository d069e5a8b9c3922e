import Terradoc.Proofs.Value.Choices
import Terradoc.Proofs.Value.Sets
import Terradoc.Value.Identity

/-! Sets of values that hold unknowns. Filling the unknowns in can merge two elements, tell two equal ones
apart or turn their order around; where it does none of these the set keeps its elements in their places. -/

namespace Terradoc.Value

theorem decided_comm {left right : Value} (formed : left.Formed) (formed' : right.Formed) :
    decided right left = decided left right := by
  have turned {first second : Value} (one : first.Formed) (other : second.Formed) {answer : Bool}
      (known : decided first second = some answer) : decided second first = some answer := by
    rw [decided_eq_some_iff one other] at known
    rw [decided_eq_some_iff other one]
    intro filled filled' completes completes'
    rw [← known filled' filled completes' completes, Bool.eq_iff_iff]
    exact ⟨equal_symm completes.formed completes'.formed, equal_symm completes'.formed completes.formed⟩
  exact Option.ext fun answer => ⟨turned formed' formed, turned formed formed'⟩

/-- What is decided stays decided when some unknowns are filled in. -/
theorem decided_of_fills {left right filled filled' : Value} (formed : left.Formed)
    (formed' : right.Formed) (fills : Fills left filled) (fills' : Fills right filled') {answer : Bool}
    (known : decided left right = some answer) : decided filled filled' = some answer := by
  rw [decided_eq_some_iff formed formed'] at known
  rw [decided_eq_some_iff fills.formed fills'.formed]
  intro whole whole' completes completes'
  exact known whole whole' ⟨fills.below.trans completes.below, completes.formed, completes.known⟩
    ⟨fills'.below.trans completes'.below, completes'.formed, completes'.known⟩

theorem equal_of_fills {left right filled filled' : Value} (formed : left.Formed)
    (fills : Fills left filled) (fills' : Fills right filled')
    (settled : (decided left right).isSome = true) : equal filled filled' = equal left right := by
  obtain ⟨answer, known⟩ := Option.isSome_iff_exists.mp settled
  rw [decided_agrees formed fills.below fills'.below answer known,
    decided_agrees formed (.refl left) (.refl right) answer known]

theorem isUnknown_of_decided {left right : Value} (settled : (decided left right).isSome = true) :
    left.isUnknown = false ∧ right.isUnknown = false := by
  cases left <;> cases right <;> simp_all [decided, isUnknown]

/-- Where equality is open, one of the values is not known. -/
theorem unknowns_of_undecided {left right : Value} (formed : left.Formed) (formed' : right.Formed)
    (undecided : decided left right = none) : left.unknowns ≠ [] ∨ right.unknowns ≠ [] := by
  by_contra known
  push Not at known
  have settled : decided left right = some (equal left right) := by
    rw [decided_eq_some_iff formed formed']
    intro filled filled' completes completes'
    rw [← completes.below.eq_of_known known.1, ← completes'.below.eq_of_known known.2]
  rw [settled] at undecided
  cases undecided

private theorem both_ne_false_of {first second : Option Bool} (one : first ≠ some false)
    (other : second ≠ some false) : both first second ≠ some false := by
  rcases first with _ | (_ | _) <;> rcases second with _ | (_ | _) <;> simp_all [both]

private theorem decidedItems_of_sameJson {left right : List Value}
    (each : ∀ item ∈ left, ∀ other : Value, other.Formed → item.toJson = other.toJson →
      decided item other ≠ some false)
    (formed : ∀ item ∈ right, item.Formed) (same : itemsToJson left = itemsToJson right) :
    decidedItems left right ≠ some false := by
  induction left generalizing right with
  | nil => cases right <;> simp_all [itemsToJson, decidedItems]
  | cons head tail ih =>
    cases right with
    | nil => simp [itemsToJson] at same
    | cons head' tail' =>
      obtain ⟨first, rest⟩ := List.forall_mem_cons.mp each
      obtain ⟨shape, shapes⟩ := List.forall_mem_cons.mp formed
      obtain ⟨here, there⟩ := List.cons.inj same
      exact both_ne_false_of (first head' shape here) (ih rest shapes there)

private theorem entries_of_sameJson {left right : Entries Value}
    (same : entriesToJson left = entriesToJson right) :
    left.length = right.length ∧ ∀ entry ∈ left, ∃ value, (entry.1, value) ∈ right ∧
      entry.2.toJson = value.toJson := by
  induction left generalizing right with
  | nil => cases right <;> simp_all [entriesToJson]
  | cons head tail ih =>
    cases right with
    | nil => simp [entriesToJson] at same
    | cons head' tail' =>
      obtain ⟨here, there⟩ := List.cons.inj same
      obtain ⟨key, value⟩ := Prod.mk.inj here
      obtain ⟨size, rest⟩ := ih there
      refine ⟨congrArg (· + 1) size, List.forall_mem_cons.mpr ⟨?_, fun entry member => ?_⟩⟩
      · exact ⟨head'.2, key ▸ List.mem_cons_self, value⟩
      · obtain ⟨found, inside, same⟩ := rest entry member
        exact ⟨found, List.mem_cons_of_mem _ inside, same⟩

private theorem decidedEntries_ne_false {left right : Entries Value}
    (each : ∀ entry ∈ left, ∃ value, Entries.get? right entry.1 = some value ∧
      decided entry.2 value ≠ some false) : decidedEntries left right ≠ some false := by
  induction left with
  | nil => simp [decidedEntries]
  | cons head tail ih =>
    obtain ⟨⟨value, present, maybe⟩, rest⟩ := List.forall_mem_cons.mp each
    rw [decidedEntries, present]
    exact both_ne_false_of maybe (ih rest)

/-- Values that look the same in JSON may be equal. -/
theorem decided_of_sameJson {left : Value} (formed : left.Formed) {right : Value}
    (formed' : right.Formed) (same : left.toJson = right.toJson) : decided left right ≠ some false := by
  induction formed generalizing right with
  | unknown => simp [decided]
  | list _ ih =>
    cases formed' with
    | unknown => simp [decided]
    | list below =>
      rw [decided]
      exact decidedItems_of_sameJson (fun item member other => ih item member) below
        (by simpa [toJson] using same)
    | _ => simp [toJson] at same
  | map once _ ih =>
    cases formed' with
    | unknown => simp [decided]
    | map once' below =>
      obtain ⟨size, rows⟩ := entries_of_sameJson (by simpa [toJson] using same)
      rw [decided, if_pos size]
      refine decidedEntries_ne_false fun entry member => ?_
      obtain ⟨value, inside, alike⟩ := rows entry member
      exact ⟨value, (Entries.get?_eq_some_iff once').mpr inside,
        ih entry member (below _ inside) alike⟩
    | _ => simp [toJson] at same
  | null | bool | number | string =>
    rcases right.unknown_or_known with ⟨marker, rfl⟩ | known
    · simp [decided]
    · have flat : right.unknowns = [] := by
        cases right <;> simp_all [toJson, unknowns, isUnknown]
      obtain rfl := toJson_injective rfl flat same
      rw [Apart.decided_eq ⟨rfl, known, by simp, by simp⟩, equal_refl formed']
      simp

/-- Values that differ, whatever is filled in, do not tie. -/
theorem order_ne_of_decided {left right : Value} (formed : left.Formed) (formed' : right.Formed)
    (differ : decided left right = some false) : order left right ≠ .eq := by
  intro tie
  have unequal : equal left right = false :=
    decided_agrees formed (.refl left) (.refl right) false differ
  by_cases numbers : ∃ number other, left = .number number ∧ right = .number other
  · obtain ⟨number, other, rfl, rfl⟩ := numbers
    exact absurd (equal_of_order_eq formed formed' rfl rfl tie) (by simp [unequal])
  by_cases strings : ∃ text other, left = .string text ∧ right = .string other
  · obtain ⟨text, other, rfl, rfl⟩ := strings
    exact absurd (equal_of_order_eq formed formed' rfl rfl tie) (by simp [unequal])
  rw [order_eq_text (fun _ _ same => numbers ⟨_, _, same⟩) fun _ _ same => strings ⟨_, _, same⟩,
    compare_eq_iff_eq] at tie
  exact decided_of_sameJson formed formed'
    (Json.compact_injective formed.toJson_finite formed'.toJson_finite tie) differ

section Kept

variable {relation : Value → Value → Prop} (fills : ∀ value filled, relation value filled → Fills value filled)

include fills

private theorem any_filled {seen seen' : List Value} (before : List.Forall₂ relation seen seen')
    (formed : ∀ other ∈ seen, other.Formed) {item filled : Value} (one : relation item filled)
    (settled : ∀ other ∈ seen, (decided other item).isSome = true) :
    seen'.any (equal · filled) = seen.any (equal · item) := by
  induction before with
  | nil => rfl
  | cons head tail ih =>
    obtain ⟨first, rest⟩ := List.forall_mem_cons.mp settled
    obtain ⟨shape, shapes⟩ := List.forall_mem_cons.mp formed
    rw [List.any_cons, List.any_cons, ih shapes rest,
      equal_of_fills shape (fills _ _ head) (fills _ _ one) first]

private theorem keepFirst_filled {items filled seen seen' : List Value}
    (rows : List.Forall₂ relation items filled) (before : List.Forall₂ relation seen seen')
    (formed : ∀ item ∈ items, item.Formed) (formed' : ∀ other ∈ seen, other.Formed)
    (settled : items.Pairwise fun first second => (decided first second).isSome = true)
    (settled' : ∀ other ∈ seen, ∀ item ∈ items, (decided other item).isSome = true) :
    List.Forall₂ relation
      (items.foldl (fun seen item => if seen.any (equal · item) then seen else item :: seen) seen)
      (filled.foldl (fun seen item => if seen.any (equal · item) then seen else item :: seen) seen') := by
  induction rows generalizing seen seen' with
  | nil => exact before
  | @cons item image rest _ head tail ih =>
    obtain ⟨first, others⟩ := List.pairwise_cons.mp settled
    obtain ⟨shape, shapes⟩ := List.forall_mem_cons.mp formed
    have here : ∀ other ∈ seen, (decided other item).isSome = true :=
      fun other member => settled' other member item List.mem_cons_self
    have later : ∀ other ∈ seen, ∀ item ∈ rest, (decided other item).isSome = true :=
      fun other member item inside => settled' other member item (List.mem_cons_of_mem _ inside)
    rw [List.foldl_cons, List.foldl_cons, any_filled fills before formed' head here]
    split
    · exact ih before shapes formed' others later
    · exact ih (.cons head before) shapes (List.forall_mem_cons.mpr ⟨shape, formed'⟩) others
        (List.forall_mem_cons.mpr ⟨first, later⟩)

/-- Where equality does not depend on unknowns, the same elements are kept. -/
theorem distinct_filled {items filled : List Value} (rows : List.Forall₂ relation items filled)
    (formed : ∀ item ∈ items, item.Formed)
    (settled : items.Pairwise fun first second => (decided first second).isSome = true) :
    List.Forall₂ relation (distinct items) (distinct filled) :=
  List.forall₂_reverse_iff.mpr
    (keepFirst_filled fills rows .nil formed (List.forall_mem_nil _) settled (List.forall_mem_nil _))

end Kept

/-- Of different values there are at most as many as of values to which they are equal. -/
theorem length_le_of_coveredBy {items others : List Value} (formed : ∀ item ∈ items, item.Formed)
    (formed' : ∀ other ∈ others, other.Formed)
    (apart : items.Pairwise fun first second => equal first second = false ∧ equal second first = false)
    (covered : CoveredBy items others) : items.length ≤ others.length := by
  induction items generalizing others with
  | nil => exact Nat.zero_le _
  | cons head tail ih =>
    obtain ⟨shape, shapes⟩ := List.forall_mem_cons.mp formed
    obtain ⟨first, rest⟩ := List.pairwise_cons.mp apart
    obtain ⟨other, inside, equals⟩ := covered head List.mem_cons_self
    obtain ⟨before, after, rfl⟩ := List.append_of_mem inside
    have shape' := formed' other inside
    have remaining : CoveredBy tail (before ++ after) := by
      intro item member
      obtain ⟨found, present, same⟩ := covered item (List.mem_cons_of_mem _ member)
      rcases List.mem_append.mp present with early | late
      · exact ⟨found, List.mem_append_left _ early, same⟩
      rcases List.mem_cons.mp late with rfl | late
      · have meets := equal_trans shape shape' (shapes item member) equals
          (equal_symm (shapes item member) shape' same)
        exact absurd meets (by simp [(first item member).1])
      · exact ⟨found, List.mem_append_right _ late, same⟩
    have size := ih shapes (fun found present => formed' found
      (List.perm_middle.symm.subset (List.mem_cons_of_mem _ present))) rest remaining
    simp only [List.length_append, List.length_cons] at size ⊢
    omega

theorem length_distinct_le {items others : List Value} (formed : ∀ item ∈ items, item.Formed)
    (formed' : ∀ other ∈ others, other.Formed) (covered : CoveredBy items others) :
    (distinct items).length ≤ (distinct others).length := by
  have kept := distinct_kept formed
  have kept' := distinct_kept formed'
  refine length_le_of_coveredBy (fun item member => formed item (kept.inside member))
    (fun other member => formed' other (kept'.inside member)) kept.apart fun item member => ?_
  obtain ⟨other, inside, equals⟩ := covered item (kept.inside member)
  obtain ⟨found, present, same⟩ := kept'.covers other inside
  have shape := formed item (kept.inside member)
  have shape' := formed' other inside
  have shape'' := formed' found (kept'.inside present)
  exact ⟨found, present, equal_trans shape shape' shape'' equals (equal_symm shape'' shape' same)⟩

theorem length_distinct_of_subset {items others : List Value} (formed : ∀ other ∈ others, other.Formed)
    (inside : items ⊆ others) : (distinct items).length ≤ (distinct others).length :=
  have shapes : ∀ item ∈ items, item.Formed := fun item member => formed item (inside member)
  length_distinct_le shapes formed (coveredBy_of_subset shapes inside)

/-- A value that is equal to one that is there adds nothing. -/
theorem length_distinct_repeated {items : List Value} {item : Value}
    (formed : ∀ other ∈ item :: items, other.Formed) (seen : ∃ other ∈ items, equal item other = true) :
    (distinct (item :: items)).length ≤ (distinct items).length := by
  have shapes := List.forall_mem_of_forall_mem_cons formed
  exact length_distinct_le formed shapes
    (List.forall_mem_cons.mpr ⟨seen, coveredBy_of_subset shapes (List.Subset.refl _)⟩)

/-- A value that is equal to none that is there adds one. -/
theorem length_distinct_fresh {items : List Value} {item : Value}
    (formed : ∀ other ∈ item :: items, other.Formed) (fresh : ∀ other ∈ items, equal other item = false) :
    (distinct items).length < (distinct (item :: items)).length := by
  obtain ⟨shape, shapes⟩ := List.forall_mem_cons.mp formed
  have kept := distinct_kept shapes
  have kept' := distinct_kept formed
  refine length_le_of_coveredBy (List.forall_mem_cons.mpr ⟨shape, fun other member => shapes other
      (kept.inside member)⟩) (fun other member => formed other (kept'.inside member))
    (.cons (fun other member => ?_) kept.apart) fun other member => ?_
  · have differ := fresh other (kept.inside member)
    refine ⟨Bool.eq_false_iff.mpr fun equals => ?_, differ⟩
    exact absurd (equal_symm shape (shapes other (kept.inside member)) equals) (by simp [differ])
  · have inside : other ∈ item :: items := List.cons_subset_cons _ kept.inside member
    obtain ⟨found, present, equals⟩ := kept'.covers other inside
    exact ⟨found, present, equal_symm (formed found (kept'.inside present)) (formed other inside) equals⟩

end Terradoc.Value
