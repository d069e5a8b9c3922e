import Terradoc.Proofs.Function.Call
import Terradoc.Proofs.Value.Order

/-! Sets as sorted lists. Known values that tie are equal, but equal ones need not tie: maps with other
orders of keys have other texts. Where nothing stands between two equal values, a set depends on its
elements only. -/

namespace Terradoc.Value

mutual
/-- Different known values have different JSON forms. -/
theorem toJson_injective : ∀ {left right : Value}, left.unknowns = [] → right.unknowns = [] →
    left.toJson = right.toJson → left = right
  | .unknown _, _, known, _, _ => by simp [unknowns] at known
  | _, .unknown _, _, known, _ => by simp [unknowns] at known
  | .null, right, _, known, same => by cases right <;> simp_all [toJson, unknowns]
  | .bool _, right, _, known, same => by cases right <;> simp_all [toJson, unknowns]
  | .number _, right, _, known, same => by cases right <;> simp_all [toJson, unknowns]
  | .string _, right, _, known, same => by cases right <;> simp_all [toJson, unknowns]
  | .list items, right, known, known', same => by
    cases right with
    | list others =>
      rw [itemsToJson_injective known known' (by simpa [toJson] using same)]
    | unknown => simp [unknowns] at known'
    | _ => simp [toJson] at same
  | .map entries, right, known, known', same => by
    cases right with
    | map others =>
      rw [entriesToJson_injective known known' (by simpa [toJson] using same)]
    | unknown => simp [unknowns] at known'
    | _ => simp [toJson] at same

theorem itemsToJson_injective : ∀ {left right : List Value}, unknownsOfItems left = [] →
    unknownsOfItems right = [] → itemsToJson left = itemsToJson right → left = right
  | [], [], _, _, _ => rfl
  | [], _ :: _, _, _, same => by simp [itemsToJson] at same
  | _ :: _, [], _, _, same => by simp [itemsToJson] at same
  | _ :: _, _ :: _, known, known', same => by
    obtain ⟨first, rest⟩ := List.append_eq_nil_iff.mp known
    obtain ⟨first', rest'⟩ := List.append_eq_nil_iff.mp known'
    obtain ⟨head, tail⟩ := List.cons.inj same
    rw [toJson_injective first first' head, itemsToJson_injective rest rest' tail]

theorem entriesToJson_injective : ∀ {left right : Entries Value}, unknownsOfEntries left = [] →
    unknownsOfEntries right = [] → entriesToJson left = entriesToJson right → left = right
  | [], [], _, _, _ => rfl
  | [], _ :: _, _, _, same => by simp [entriesToJson] at same
  | _ :: _, [], _, _, same => by simp [entriesToJson] at same
  | (_, _) :: _, (_, _) :: _, known, known', same => by
    obtain ⟨first, rest⟩ := List.append_eq_nil_iff.mp known
    obtain ⟨first', rest'⟩ := List.append_eq_nil_iff.mp known'
    obtain ⟨head, tail⟩ := List.cons.inj same
    obtain ⟨rfl, value⟩ := Prod.mk.inj head
    rw [toJson_injective first first' value, entriesToJson_injective rest rest' tail]
end

/-- Known values that tie are equal. -/
theorem equal_of_order_eq {left right : Value} (first : left.Formed) (second : right.Formed)
    (known : left.unknowns = []) (known' : right.unknowns = []) (tie : order left right = .eq) :
    equal left right = true := by
  by_cases numbers : ∃ number other, left = .number number ∧ right = .number other
  · obtain ⟨number, other, rfl, rfl⟩ := numbers
    cases first with
    | number finite =>
      cases second with
      | number finite' =>
        rw [order, Number.order_eq_compare finite finite', compare_eq_iff_eq] at tie
        rw [equal, Number.numericallyEqual_iff finite finite']
        exact tie
  by_cases strings : ∃ text other, left = .string text ∧ right = .string other
  · obtain ⟨text, other, rfl, rfl⟩ := strings
    rw [order, compare_eq_iff_eq] at tie
    rw [tie]
    exact equal_refl second
  rw [order_eq_text (fun _ _ same => numbers ⟨_, _, same⟩) fun _ _ same => strings ⟨_, _, same⟩,
    compare_eq_iff_eq] at tie
  have same := toJson_injective known known'
    (Json.compact_injective first.toJson_finite second.toJson_finite tie)
  rw [same]
  exact equal_refl second

theorem notAfter_total (left right : Value) :
    (notAfter left right || notAfter right left) = true := by
  rw [Bool.or_eq_true, notAfter_iff, notAfter_iff, order_swap left right]
  cases order left right <;> simp

/-- What dropping repeats keeps of a list: its elements up to equality, each once. -/
structure Kept (items kept : List Value) : Prop where
  inside : kept ⊆ items
  covers : ∀ item ∈ items, ∃ other ∈ kept, equal other item = true
  apart : kept.Pairwise fun first second => equal first second = false ∧ equal second first = false

namespace Kept

variable {items kept : List Value} {item : Value}

theorem skip (done : Kept items kept) (seen : kept.any (equal · item) = true) :
    Kept (items ++ [item]) kept where
  inside := List.subset_append_of_subset_left _ done.inside
  covers := by
    rw [List.forall_mem_append, List.forall_mem_singleton]
    exact ⟨done.covers, List.any_eq_true.mp seen⟩
  apart := done.apart

theorem keep (done : Kept items kept) (shapes : ∀ other ∈ items, other.Formed) (formed : item.Formed)
    (fresh : kept.any (equal · item) = false) : Kept (items ++ [item]) (kept ++ [item]) where
  inside := List.append_subset.mpr ⟨List.subset_append_of_subset_left _ done.inside,
    List.subset_append_right _ _⟩
  covers := by
    rw [List.forall_mem_append, List.forall_mem_singleton]
    refine ⟨fun other member => ?_, item, List.mem_append_right _ (List.mem_singleton_self _),
      equal_refl formed⟩
    obtain ⟨found, inside, equals⟩ := done.covers other member
    exact ⟨found, List.mem_append_left _ inside, equals⟩
  apart := by
    rw [List.pairwise_append]
    refine ⟨done.apart, List.pairwise_singleton _ _, fun first member second single => ?_⟩
    obtain rfl := List.mem_singleton.mp single
    have differs : equal first second ≠ true := List.any_eq_false.mp fresh first member
    refine ⟨Bool.eq_false_iff.mpr differs, Bool.eq_false_iff.mpr fun equals => differs ?_⟩
    exact equal_symm formed (shapes first (done.inside member)) equals

/-- One turn over the items that are left. -/
private theorem run {done : List Value} (items seen : List Value)
    (shapes : ∀ item ∈ done, item.Formed) (formed : ∀ item ∈ items, item.Formed)
    (before : Kept done seen.reverse) : Kept (done ++ items) (items.foldl
      (fun seen item => if seen.any (equal · item) then seen else item :: seen) seen).reverse := by
  induction items generalizing done seen with
  | nil => simpa using before
  | cons item rest ih =>
    obtain ⟨first, others⟩ := List.forall_mem_cons.mp formed
    rw [List.foldl_cons, List.append_cons]
    refine ih _ (List.forall_mem_append.mpr ⟨shapes, List.forall_mem_singleton.mpr first⟩) others ?_
    cases known : seen.any (equal · item) with
    | true => exact before.skip (by rw [List.any_reverse, known])
    | false =>
      rw [if_neg Bool.false_ne_true, List.reverse_cons]
      exact before.keep shapes first (by rw [List.any_reverse, known])

end Kept

theorem distinct_kept {items : List Value} (formed : ∀ item ∈ items, item.Formed) :
    Kept items (distinct items) :=
  Kept.run items [] (List.forall_mem_nil _) formed ⟨List.Subset.refl _, List.forall_mem_nil _, .nil⟩

private theorem distinct_run {items seen : List Value}
    (fresh : ∀ item ∈ items, seen.any (equal · item) = false)
    (apart : items.Pairwise fun first second => equal first second = false) :
    items.foldl (fun seen item => if seen.any (equal · item) then seen else item :: seen) seen =
      items.reverse ++ seen := by
  induction items generalizing seen with
  | nil => rfl
  | cons item rest ih =>
    obtain ⟨first, later⟩ := List.pairwise_cons.mp apart
    obtain ⟨new, others⟩ := List.forall_mem_cons.mp fresh
    rw [List.foldl_cons, new, if_neg Bool.false_ne_true, ih _ later]
    · simp
    · intro other member
      rw [List.any_cons, first other member, others other member]
      rfl

theorem distinct_eq_self {items : List Value}
    (apart : items.Pairwise fun first second => equal first second = false) : distinct items = items := by
  rw [distinct, distinct_run (fun _ _ => rfl) apart]
  simp

theorem Kept.of_perm {items kept others : List Value} (done : Kept items kept)
    (order : others.Perm kept) : Kept items others where
  inside := List.Subset.trans order.subset done.inside
  covers item member := by
    obtain ⟨other, inside, equals⟩ := done.covers item member
    exact ⟨other, order.symm.subset inside, equals⟩
  apart := done.apart.perm order.symm fun differ => ⟨differ.2, differ.1⟩

theorem toSet_kept {items : List Value} (formed : ∀ item ∈ items, item.Formed) :
    Kept items (toSet items) :=
  (distinct_kept formed).of_perm (List.mergeSort_perm _ _)

/-- Values in order, no two of them equal. -/
def Ascending (items : List Value) : Prop :=
  items.Pairwise fun first second => order first second = .lt ∧ equal first second = false

/-- Every value of the first list is equal to one of the second. -/
def CoveredBy (items others : List Value) : Prop :=
  ∀ item ∈ items, ∃ other ∈ others, equal item other = true

/-- Lists over some values make the same set when they have the same elements. -/
def SetsDetermined (values : List Value) : Prop :=
  ∀ items ⊆ values, ∀ others ⊆ values, CoveredBy items others → CoveredBy others items →
    equalItems (toSet items) (toSet others) = true

/-- The functions on sets among some values: those that make a set look at the elements only, and the
order of the sides of a union does not matter. -/
structure SetFunctionsDetermined (functions : FunctionTable) (values : List Value) : Prop where
  toset : ∀ items ⊆ values, ∀ others ⊆ values, CoveredBy items others → CoveredBy others items →
    ∃ set set', functions "toset" [list items] = .ok set ∧
      functions "toset" [list others] = .ok set' ∧ equal set set' = true
  setunion : ∀ items ⊆ values, ∀ others ⊆ values,
    ∃ set set', functions "setunion" [list items, list others] = .ok set ∧
      functions "setunion" [list others, list items] = .ok set' ∧ equal set set' = true

/-- No value stands between two equal ones without being equal to them. -/
def EqualTogether (values : List Value) : Prop :=
  ∀ first ∈ values, ∀ middle ∈ values, ∀ last ∈ values, equal first last = true →
    order first middle = .lt → order middle last = .lt → equal first middle = true

section Sets

variable {values : List Value} (formed : ∀ value ∈ values, value.Formed)
  (known : ∀ value ∈ values, value.unknowns = [])

include formed known

/-- Known values are in order: there are no templates among them. -/
theorem orderedAmong_of_known : OrderedAmong values := by
  rw [orderedAmong_iff formed]
  intro _ _ marker _ _ _ inside
  have := known _ inside
  simp [unknowns] at this

/-- A set holds the elements of its list, each once, in order. -/
theorem toSet_ascending {items : List Value} (within : items ⊆ values) :
    Kept items (toSet items) ∧ Ascending (toSet items) := by
  have shapes : ∀ item ∈ items, item.Formed := fun item member => formed item (within member)
  have places : ∀ item ∈ distinct items, item ∈ values :=
    fun item member => within ((distinct_kept shapes).inside member)
  have kept := toSet_kept shapes
  have ordered := orderedAmong_of_known formed known
  have sorted := pairwise_mergeSort_of_mem
    (fun first member second inside third last =>
      ordered first (places first member) second (places second inside) third (places third last))
    (fun first _ second _ => notAfter_total first second)
  refine ⟨kept, (sorted.and kept.apart).imp_of_mem fun {first second} member inside both => ⟨?_, both.2.1⟩⟩
  have place := within (kept.inside member)
  have place' := within (kept.inside inside)
  cases order_eq : order first second with
  | lt => rfl
  | eq =>
    have equals := equal_of_order_eq (formed first place) (formed second place') (known first place)
      (known second place') order_eq
    exact absurd equals (by simp [both.2.1])
  | gt => exact absurd order_eq ((notAfter_iff _ _).mp both.1)

/-- A sorted list without repeats is a set already. -/
theorem toSet_eq_self (apart : values.Pairwise fun first second => equal first second = false)
    (sorted : values.IsChain fun value next => notAfter value next = true) : toSet values = values := by
  rw [toSet, distinct_eq_self apart]
  exact List.mergeSort_of_pairwise (pairwise_of_isChain (orderedAmong_of_known formed known) sorted)

/-- The first elements of two sets with the same elements are equal: otherwise the smaller one would
stand between the other and what is equal to it. -/
private theorem heads_equal (together : EqualTogether values) {first head : Value}
    {rest tail : List Value} (within : first :: rest ⊆ values) (within' : head :: tail ⊆ values)
    (sorted : Ascending (first :: rest)) (sorted' : Ascending (head :: tail))
    (covered : CoveredBy (first :: rest) (head :: tail))
    (covered' : CoveredBy (head :: tail) (first :: rest)) : equal first head = true := by
  have place := within List.mem_cons_self
  have place' := within' List.mem_cons_self
  have turn := @equal_symm head (formed head place') first (formed first place)
  obtain ⟨low, low', equals⟩ := covered first List.mem_cons_self
  obtain ⟨high, high', equals'⟩ := covered' head List.mem_cons_self
  rcases List.mem_cons.mp low' with rfl | later
  · exact equals
  rcases List.mem_cons.mp high' with rfl | later'
  · exact turn equals'
  have after := (List.rel_of_pairwise_cons sorted' later).1
  have after' := (List.rel_of_pairwise_cons sorted later').1
  cases order_eq : order first head with
  | lt => exact together first place head place' low (within' low') equals order_eq after
  | eq =>
    exact equal_of_order_eq (formed first place) (formed head place') (known first place)
      (known head place') order_eq
  | gt =>
    have below : order head first = .lt := by rw [order_swap first head, order_eq]; rfl
    exact turn (together head place' first place high (within high') equals' below after')

omit known in
/-- Without the first elements, which are equal, two sets still have the same elements. -/
private theorem tails_covered {first head : Value} {rest tail : List Value}
    (within : first :: rest ⊆ values) (within' : head :: tail ⊆ values)
    (sorted : Ascending (first :: rest)) (heads : equal first head = true)
    (covered : CoveredBy (first :: rest) (head :: tail)) : CoveredBy rest tail := by
  intro item member
  obtain ⟨other, inside, equals⟩ := covered item (List.mem_cons_of_mem _ member)
  rcases List.mem_cons.mp inside with rfl | later
  · have shape := formed first (within List.mem_cons_self)
    have shape' := formed item (within (List.mem_cons_of_mem _ member))
    have shape'' := formed other (within' List.mem_cons_self)
    have same := equal_trans shape shape'' shape' heads (equal_symm shape' shape'' equals)
    exact absurd same (by simp [(List.rel_of_pairwise_cons sorted member).2])
  · exact ⟨other, later, equals⟩

private theorem forall₂_of_covered (together : EqualTogether values) {items others : List Value}
    (within : items ⊆ values) (within' : others ⊆ values) (sorted : Ascending items)
    (sorted' : Ascending others) (covered : CoveredBy items others)
    (covered' : CoveredBy others items) :
    List.Forall₂ (fun first second => equal first second = true) items others := by
  induction items generalizing others with
  | nil =>
    cases others with
    | nil => exact .nil
    | cons head tail =>
      obtain ⟨_, member, _⟩ := covered' head List.mem_cons_self
      cases member
  | cons first rest ih =>
    cases others with
    | nil =>
      obtain ⟨_, member, _⟩ := covered first List.mem_cons_self
      cases member
    | cons head tail =>
      have heads := heads_equal formed known together within within' sorted sorted' covered covered'
      have heads' := equal_symm (formed first (within List.mem_cons_self))
        (formed head (within' List.mem_cons_self)) heads
      exact .cons heads (ih (List.subset_of_cons_subset within) (List.subset_of_cons_subset within')
        sorted.of_cons sorted'.of_cons (tails_covered formed within within' sorted heads covered)
        (tails_covered formed within' within sorted' heads' covered'))

omit known in
/-- What is kept of lists with the same elements has the same elements. -/
private theorem kept_covered {items others left right : List Value} (within : items ⊆ values)
    (within' : others ⊆ values) (kept : Kept items left) (kept' : Kept others right)
    (covered : CoveredBy items others) : CoveredBy left right := by
  intro item member
  obtain ⟨other, inside, equals⟩ := covered item (kept.inside member)
  obtain ⟨found, inside', equals'⟩ := kept'.covers other inside
  have shape := formed item (within (kept.inside member))
  have shape' := formed other (within' inside)
  have shape'' := formed found (within' (kept'.inside inside'))
  exact ⟨found, inside', equal_trans shape shape' shape'' equals (equal_symm shape'' shape' equals')⟩

omit formed known in
theorem toSet_pair {first second : Value} (differ : equal first second = false) :
    toSet [first, second] =
      if notAfter first second then [first, second] else [second, first] := by
  have kept : distinct [first, second] = [first, second] := by simp [distinct, differ]
  rw [toSet, kept, List.mergeSort]
  simp [List.MergeSort.Internal.splitInTwo, List.merge]

/-- Sets are determined by their elements just when no value stands between two that are equal. -/
theorem setsDetermined_iff : SetsDetermined values ↔ EqualTogether values := by
  constructor
  · intro determined first place middle place' last place'' equals below above
    have shape := formed first place
    have shape' := formed middle place'
    have shape'' := formed last place''
    by_contra differs
    have differ : equal first middle = false := Bool.eq_false_iff.mpr differs
    have differ' : equal last middle = false := by
      rw [Bool.eq_false_iff]
      exact fun same => differs (equal_trans shape shape'' shape' equals same)
    have itself := equal_refl shape'
    have same := determined [first, middle] (by simp [place, place']) [last, middle]
      (by simp [place', place'']) (by simp [CoveredBy, equals, itself])
      (by simp [CoveredBy, equal_symm shape shape'' equals, itself])
    have after : notAfter last middle = false := by
      rw [notAfter, order_swap middle last, above]
      rfl
    rw [toSet_pair differ, toSet_pair differ', if_pos (by rw [notAfter, below]; rfl), after,
      if_neg Bool.false_ne_true, equalItems_iff] at same
    cases same with
    | cons heads _ => exact differs heads
  · intro together items within others within' covered covered'
    obtain ⟨kept, sorted⟩ := toSet_ascending formed known within
    obtain ⟨kept', sorted'⟩ := toSet_ascending formed known within'
    rw [equalItems_iff]
    exact forall₂_of_covered formed known together (List.Subset.trans kept.inside within)
      (List.Subset.trans kept'.inside within') sorted sorted'
      (kept_covered formed within within' kept kept' covered)
      (kept_covered formed within' within kept' kept covered')

end Sets

section Functions

variable (host : Host) (root : Path) (depth : Nat)

theorem functionTable_toset (items : List Value) :
    functionTable host root depth "toset" [list items] = .ok (list (toSet items)) :=
  functionTable_call (fun _ => rfl) rfl

theorem functionTable_setunion {items others : List Value}
    (known : ∀ item ∈ items, item.unknowns = []) (known' : ∀ item ∈ others, item.unknowns = []) :
    functionTable host root depth "setunion" [list items, list others] =
      .ok (list (toSet (toSet items ++ toSet others))) := by
  have plain : ∀ value ∈ [list items, list others], value.unknowns = [] := by
    simp [unknowns, unknownsOfItems_eq_nil_iff.mpr known, unknownsOfItems_eq_nil_iff.mpr known']
  have joined : List.flatMap toSet [items, others] = toSet items ++ toSet others := by simp
  rw [← joined]
  exact functionTable_run (fun _ => rfl) rfl plain rfl rfl

end Functions

theorem coveredBy_of_subset {items others : List Value} (formed : ∀ item ∈ items, item.Formed)
    (inside : items ⊆ others) : CoveredBy items others :=
  fun item member => ⟨item, inside member, equal_refl (formed item member)⟩

/-- Where sets are determined by their elements, so is what the functions on sets give. -/
theorem setFunctionsDetermined_of_sets {values : List Value} (formed : ∀ value ∈ values, value.Formed)
    (known : ∀ value ∈ values, value.unknowns = []) (determined : SetsDetermined values) (host : Host)
    (root : Path) (depth : Nat) : SetFunctionsDetermined (functionTable host root depth) values where
  toset items within others within' covered covered' :=
    ⟨_, _, functionTable_toset host root depth items, functionTable_toset host root depth others,
      determined items within others within' covered covered'⟩
  setunion items within others within' := by
    have known' : ∀ item ∈ items, item.unknowns = [] := fun item member => known item (within member)
    have known'' : ∀ item ∈ others, item.unknowns = [] := fun item member => known item (within' member)
    refine ⟨_, _, functionTable_setunion host root depth known' known'',
      functionTable_setunion host root depth known'' known', ?_⟩
    have inside := (toSet_ascending formed known within).1.inside
    have inside' := (toSet_ascending formed known within').1.inside
    have union : toSet items ++ toSet others ⊆ values :=
      List.append_subset.mpr ⟨List.Subset.trans inside within, List.Subset.trans inside' within'⟩
    have turned : toSet others ++ toSet items ⊆ values :=
      List.append_subset.mpr ⟨List.Subset.trans inside' within', List.Subset.trans inside within⟩
    have shapes {some : List Value} (part : some ⊆ values) : ∀ item ∈ some, item.Formed :=
      fun item member => formed item (part member)
    exact determined _ union _ turned
      (coveredBy_of_subset (shapes union) (List.perm_append_comm.subset))
      (coveredBy_of_subset (shapes turned) (List.perm_append_comm.subset))

/-- Sets of known values are determined by their elements just when no value stands between two equal ones,
and where they are, the functions on sets look at the elements only. -/
theorem sets_determined_iff {values : List Value} (formed : ∀ value ∈ values, value.Formed)
    (known : ∀ value ∈ values, value.unknowns = []) :
    (SetsDetermined values ↔ EqualTogether values) ∧
      (EqualTogether values → ∀ host root depth,
        SetFunctionsDetermined (functionTable host root depth) values) :=
  ⟨setsDetermined_iff formed known, fun together host root depth =>
    setFunctionsDetermined_of_sets formed known ((setsDetermined_iff formed known).mpr together)
      host root depth⟩

def forwards : Value := map [("a", ofInt 1), ("b", ofInt 2)]

/-- The same map with its keys in the other order. -/
def backwards : Value := map [("b", ofInt 2), ("a", ofInt 1)]

/-- A map whose text stands between those two. -/
def between : Value := map [("a", ofInt 1), ("c", ofInt 3)]

theorem sets_determined_without_between :
    (∀ value ∈ [string "b", forwards, ofInt 2, backwards], value.Formed) ∧
      (∀ value ∈ [string "b", forwards, ofInt 2, backwards], value.unknowns = []) ∧
      SetsDetermined [string "b", forwards, ofInt 2, backwards] := by
  have number (value : Int) : (ofInt value).Formed := .number trivial
  have formed : ∀ value ∈ [string "b", forwards, ofInt 2, backwards], value.Formed := by
    refine List.forall_mem_cons.mpr ⟨.string _, List.forall_mem_cons.mpr ⟨.map (by decide) ?_,
      List.forall_mem_cons.mpr ⟨number 2, List.forall_mem_singleton.mpr (.map (by decide) ?_)⟩⟩⟩ <;>
      simp [number]
  have known : ∀ value ∈ [string "b", forwards, ofInt 2, backwards], value.unknowns = [] := by
    decide
  refine ⟨formed, known, (sets_determined_iff formed known).1.mpr ?_⟩
  unfold EqualTogether
  decide

theorem sets_not_determined :
    (∀ value ∈ [forwards, between, backwards], value.unknowns = []) ∧
      CoveredBy [forwards, between] [backwards, between] ∧
      CoveredBy [backwards, between] [forwards, between] ∧
      equalItems (toSet [forwards, between]) (toSet [backwards, between]) = false := by
  refine ⟨by decide, ?_, ?_, ?_⟩
  · unfold CoveredBy
    decide
  · unfold CoveredBy
    decide
  · rw [toSet_pair (by decide), toSet_pair (by decide)]
    decide

end Terradoc.Value
