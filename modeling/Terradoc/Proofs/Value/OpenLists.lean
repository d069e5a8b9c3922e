import Terradoc.Proofs.Value.Membership
import Terradoc.Proofs.Value.OpenSets

/-! The functions `flatten` and `toset` take lists that hold unknowns. What they make of such a list stands
when the unknowns are filled in only if none of them is an element that counts: an item to be flattened, or
one by which the elements of the set are told apart and put in order. -/

namespace Terradoc.Value

/-- When unknowns in a list are filled in, the result of a call on the list is the same but for unknowns that
are filled in. -/
def ResultStands (functions : FunctionTable) (name : String) (items : List Value) : Prop :=
  ∀ filled, List.Forall₂ Fills items filled → ∀ result result', functions name [list items] = .ok result →
    functions name [list filled] = .ok result' → result.Below result'

theorem resultStands_iff {functions : FunctionTable} {name : String} {run : List Value → List Value}
    (gives : ∀ items, functions name [list items] = .ok (list (run items))) {items : List Value} :
    ResultStands functions name items ↔
      ∀ filled, List.Forall₂ Fills items filled → List.Forall₂ Below (run items) (run filled) := by
  constructor
  · intro stands filled rows
    cases stands filled rows _ _ (gives items) (gives filled) with
    | list below => exact below
  · intro stands filled rows result result' one other
    cases (gives items).symm.trans one
    cases (gives filled).symm.trans other
    exact .list (stands filled rows)

section Flattening

open Functions (leaves leavesOf)

-- Recursion is on the first value: the order of values is a nested relation without an induction tactic.
mutual
/-- Without unknowns among the leaves a value keeps its leaves when it is filled in. -/
theorem leaves_below : ∀ {left right : Value}, left.Below right →
    (∀ leaf ∈ leaves left, leaf.isUnknown = false) → List.Forall₂ Below (leaves left) (leaves right)
  | .unknown _, _, _, settled => by simp [leaves, isUnknown] at settled
  | .null, _, .null, _ => .cons .null .nil
  | .bool value, _, .bool _, _ => .cons (.bool value) .nil
  | .number value, _, .number _, _ => .cons (.number value) .nil
  | .string value, _, .string _, _ => .cons (.string value) .nil
  | .map _, _, .map entries, _ => .cons (.map entries) .nil
  | .list _, _, .list items, settled => by
    rw [leaves, leaves]
    exact leavesOf_below items (by simpa [leaves] using settled)

theorem leavesOf_below : ∀ {left right : List Value}, List.Forall₂ Below left right →
    (∀ leaf ∈ leavesOf left, leaf.isUnknown = false) → List.Forall₂ Below (leavesOf left) (leavesOf right)
  | [], _, .nil, _ => .nil
  | _ :: _, _, .cons head tail, settled => by
    obtain ⟨first, rest⟩ := List.forall_mem_append.mp settled
    exact List.rel_append (leaves_below head first) (leavesOf_below tail rest)
end

mutual
/-- An empty list in the place of an unknown leaf takes the leaf away. -/
theorem length_leaves_plug : ∀ value : Value,
    (leaves (plug (list []) value)).length + (leaves value).countP isUnknown = (leaves value).length
  | .unknown _ => by simp [plug, leaves, leavesOf, isUnknown]
  | .null | .bool _ | .number _ | .string _ | .map _ => by simp [plug, leaves, isUnknown]
  | .list items => by simpa [plug, leaves] using length_leavesOf_plug items

theorem length_leavesOf_plug : ∀ items : List Value,
    (leavesOf (plugItems (list []) items)).length + (leavesOf items).countP isUnknown =
      (leavesOf items).length
  | [] => rfl
  | item :: rest => by
    have first := length_leaves_plug item
    have others := length_leavesOf_plug rest
    simp only [plugItems, leavesOf, List.length_append, List.countP_append]
    omega
end

theorem fills_plugItems {items : List Value} (formed : ∀ item ∈ items, item.Formed) :
    List.Forall₂ Fills items (plugItems (list []) items) := by
  rw [plugItems_eq_map, List.forall₂_map_right_iff, List.forall₂_same]
  intro item member
  have filled := plug_completes (formed item member) (.list (List.forall_mem_nil _)) rfl
  exact ⟨filled.below, filled.formed⟩

variable {host : Host} {root : Path} {depth : Nat}

theorem functionTable_flatten (items : List Value) :
    functionTable host root depth "flatten" [list items] = .ok (list (leavesOf items)) :=
  functionTable_call (fun _ => rfl) rfl

/-- What is flattened stands just when no unknown is a leaf. -/
theorem flatten_stands_iff {items : List Value} (formed : ∀ item ∈ items, item.Formed) :
    ResultStands (functionTable host root depth) "flatten" items ↔
      ∀ leaf ∈ leavesOf items, leaf.isUnknown = false := by
  rw [resultStands_iff functionTable_flatten]
  constructor
  · intro stands
    have size := (stands _ (fills_plugItems formed)).length_eq
    have count := length_leavesOf_plug items
    have none : (leavesOf items).countP isUnknown = 0 := by omega
    simpa using List.countP_eq_zero.mp none
  · intro settled filled rows
    exact leavesOf_below (rows.imp fun _ _ fills => fills.below) settled

end Flattening

/-- However unknowns are filled in, the first value comes before the second. -/
def Precedes (first second : Value) : Prop :=
  ∀ filled filled', Fills first filled → Fills second filled' → order filled filled' = .lt

/-- Which elements of a list are equal does not depend on unknowns, and neither does the order of those
that are kept. -/
structure SetSettled (items : List Value) : Prop where
  decided : items.Pairwise fun first second => (decided first second).isSome = true
  ordered : (toSet items).Pairwise Precedes

theorem exists_fills {items : List Value} (formed : ∀ item ∈ items, item.Formed) :
    ∃ filled, List.Forall₂ Fills items filled :=
  exists_forall₂ fun item member => ⟨item, .refl item, formed item member⟩

theorem filled_formed {items filled : List Value} (rows : List.Forall₂ Fills items filled) :
    ∀ item ∈ filled, item.Formed :=
  forall_of_forall₂ rows fun _ _ fills => fills.formed

theorem fills_of_below {items filled : List Value} (rows : List.Forall₂ Below items filled)
    (formed : ∀ item ∈ filled, item.Formed) : List.Forall₂ Fills items filled := by
  induction rows with
  | nil => exact .nil
  | cons head tail ih =>
    obtain ⟨shape, shapes⟩ := List.forall_mem_cons.mp formed
    exact .cons ⟨head, shape⟩ (ih shapes)

/-- Two elements whose equality is open, the first of them not known, can be merged or made different. -/
private theorem exists_sizes {first second : Value} {rest : List Value}
    (shapes : ∀ item ∈ first :: second :: rest, item.Formed) (undecided : decided first second = none)
    (place : first.unknowns ≠ []) :
    ∃ filled filled', List.Forall₂ Fills (first :: second :: rest) filled ∧
      List.Forall₂ Fills (first :: second :: rest) filled' ∧
      (distinct filled).length < (distinct filled').length := by
  obtain ⟨shape, others⟩ := List.forall_mem_cons.mp shapes
  obtain ⟨shape', remaining⟩ := List.forall_mem_cons.mp others
  obtain ⟨image, image', completes, completes', equals⟩ :=
    answerable_of_formed shape second shape' true (by simp [undecided])
  obtain ⟨filled, rows⟩ := exists_fills remaining
  have around : List.Forall₂ Fills (second :: rest) (image' :: filled) :=
    .cons ⟨completes'.below, completes'.formed⟩ rows
  obtain ⟨fresh, apart, differs⟩ := exists_fresh shape place (filled_formed around)
  have merged : List.Forall₂ Fills (first :: second :: rest) (image :: image' :: filled) :=
    .cons ⟨completes.below, completes.formed⟩ around
  have different : List.Forall₂ Fills (first :: second :: rest) (fresh :: image' :: filled) :=
    .cons ⟨apart.below, apart.formed⟩ around
  refine ⟨_, _, merged, different, Nat.lt_of_le_of_lt ?_
    (length_distinct_fresh (filled_formed different) differs)⟩
  exact length_distinct_repeated (filled_formed merged) ⟨image', List.mem_cons_self, equals⟩

/-- Two values are filled in as said, and nothing else is. -/
private theorem exists_fill {first second filled filled' : Value} (different : first ≠ second)
    (fills : Fills first filled) (fills' : Fills second filled') :
    ∃ fill : Value → Value, fill first = filled ∧ fill second = filled' ∧
      ∀ item : Value, item.Formed → Fills item (fill item) := by
  refine ⟨Function.update (Function.update id second filled') first filled, by simp,
    by simp [different.symm], fun item formed => ?_⟩
  by_cases one : item = first
  · simpa [one] using fills
  by_cases other : item = second
  · simpa [other, different.symm] using fills'
  · simpa [one, other] using ⟨.refl item, formed⟩

/-- Values that differ, whatever is filled in, cannot become one. -/
private theorem not_fills_both {first second image : Value} (formed : first.Formed)
    (differ : decided first second = some false) (fills : Fills first image) : ¬ Fills second image := by
  intro fills'
  have unequal := decided_agrees formed fills.below fills'.below false differ
  exact absurd (equal_refl fills.formed) (by simp [unequal])

section Sets

variable {items : List Value} (formed : ∀ item ∈ items, item.Formed)

include formed

section Standing

variable (stands : ∀ filled, List.Forall₂ Fills items filled →
  List.Forall₂ Below (toSet items) (toSet filled))

include stands

omit formed in
/-- However the elements are filled in, and in whatever order, as many are kept. -/
private theorem length_distinct_of_stands {others filled : List Value} (order : items.Perm others)
    (rows : List.Forall₂ Fills others filled) : (distinct filled).length = (toSet items).length := by
  obtain ⟨image, rows', order'⟩ := List.perm_comp_forall₂ order rows
  have kept := (stands image rows').length_eq
  have same : (toSet image).length = (distinct image).length := List.length_mergeSort _
  have one := length_distinct_of_subset (filled_formed rows) order'.subset
  have other := length_distinct_of_subset (filled_formed rows') order'.symm.subset
  omega

/-- Where the set stands, no equality is open: the size of the set would change. -/
theorem decided_of_stands :
    items.Pairwise fun first second => (Value.decided first second).isSome = true := by
  refine List.pairwise_of_forall_sublist fun {first second} pair => ?_
  obtain ⟨rest, order⟩ := pair.exists_perm_append
  have shapes : ∀ item ∈ first :: second :: rest, item.Formed :=
    fun item member => formed item (order.symm.subset member)
  have shape := shapes first List.mem_cons_self
  have shape' := shapes second (List.mem_cons_of_mem _ List.mem_cons_self)
  by_contra undecided
  rw [Option.not_isSome_iff_eq_none] at undecided
  rcases unknowns_of_undecided shape shape' undecided with place | place
  · obtain ⟨filled, filled', rows, rows', less⟩ := exists_sizes shapes undecided place
    rw [length_distinct_of_stands stands order rows,
      length_distinct_of_stands stands order rows'] at less
    exact absurd less (lt_irrefl _)
  · have turned : items.Perm (second :: first :: rest) := order.trans (.swap second first rest)
    rw [← decided_comm shape shape'] at undecided
    obtain ⟨filled, filled', rows, rows', less⟩ :=
      exists_sizes (fun item member => formed item (turned.symm.subset member)) undecided place
    rw [length_distinct_of_stands stands turned rows,
      length_distinct_of_stands stands turned rows'] at less
    exact absurd less (lt_irrefl _)

end Standing

section Settled

variable (settled : items.Pairwise fun first second => (Value.decided first second).isSome = true)

include settled

/-- What is kept differs whatever is filled in. -/
theorem differ_of_settled {kept : List Value} (done : Kept items kept) :
    kept.Pairwise fun first second => Value.decided first second = some false := by
  have pairs : items.Pairwise fun first second => (Value.decided first second).isSome = true ∧
      (Value.decided second first).isSome = true :=
    settled.imp_of_mem fun {first second} member inside known => by
      refine ⟨known, ?_⟩
      rwa [decided_comm (formed first member) (formed second inside)]
  refine done.apart.imp_of_mem fun {first second} member inside apart => ?_
  have shape := formed first (done.inside member)
  have different : first ≠ second := by
    rintro rfl
    exact absurd (equal_refl shape) (by simp [apart.1])
  obtain ⟨answer, known⟩ := Option.isSome_iff_exists.mp (forall_of_pairwise pairs
    (fun _ _ both => ⟨both.2, both.1⟩) (done.inside member) (done.inside inside) different).1
  rw [known, ← decided_agrees shape (.refl first) (.refl second) answer known, apart.1]

/-- No template is among the elements of a settled set, so that its filled in elements are in order. -/
theorem toSet_filled_sorted {filled : List Value} (rows : List.Forall₂ Fills items filled) :
    (toSet filled).Pairwise fun first second => notAfter first second = true := by
  have kept := distinct_filled (fun _ _ fills => fills) rows formed settled
  have shapes : ∀ item ∈ distinct filled, item.Formed :=
    fun item member => filled_formed rows item ((distinct_kept (filled_formed rows)).inside member)
  have known : (distinct filled).Pairwise fun first second =>
      first.isUnknown = false ∧ second.isUnknown = false :=
    pairwise_of_forall₂ kept (differ_of_settled formed settled (distinct_kept formed))
      fun first second image other differ fills fills' => by
        obtain ⟨one, next⟩ := isUnknown_of_decided (Option.isSome_of_mem differ)
        exact ⟨fills.below.known one, fills'.below.known next⟩
  have ordered : OrderedAmong (distinct filled) := by
    rw [orderedAmong_iff shapes]
    intro low high marker template inside _ member _ _
    have both := forall_of_pairwise known (fun _ _ both => ⟨both.2, both.1⟩) inside member (by simp)
    exact absurd both.2 (by simp [isUnknown])
  exact pairwise_mergeSort_of_mem
    (fun first member second inside third last => ordered first member second inside third last)
    (fun first _ second _ => notAfter_total first second)

/-- The set of a list whose elements are filled in has the elements of the set, filled in, in some order. -/
theorem exists_image {relation : Value → Value → Prop}
    (fills : ∀ value filled, relation value filled → Fills value filled) {filled : List Value}
    (rows : List.Forall₂ relation items filled) :
    ∃ image, List.Forall₂ relation (toSet items) image ∧ image.Perm (toSet filled) := by
  have kept := distinct_filled fills rows formed settled
  obtain ⟨image, rows', order⟩ := List.perm_comp_forall₂ (List.mergeSort_perm (distinct items) notAfter) kept
  exact ⟨image, rows', order.trans (List.mergeSort_perm _ _).symm⟩

/-- What has an order that does not depend on unknowns keeps it. -/
theorem toSet_filled {filled : List Value} (rows : List.Forall₂ Fills items filled)
    (ordered : (toSet items).Pairwise Precedes) : List.Forall₂ Fills (toSet items) (toSet filled) := by
  obtain ⟨image, rows', turned⟩ := exists_image formed settled (fun _ _ fills => fills) rows
  have sorted : image.Pairwise fun first second => order first second = .lt :=
    pairwise_of_forall₂ rows' ordered fun _ _ _ _ keeps fills fills' => keeps _ _ fills fills'
  have either : image.Pairwise fun first second =>
      order first second = .lt ∨ order second first = .lt := sorted.imp .inl
  have same : image = toSet filled := by
    refine List.Perm.eq_of_pairwise (fun first second member inside below above => ?_)
      (sorted.imp fun less => ?_) (toSet_filled_sorted formed settled rows) turned
    · by_contra different
      rw [notAfter_iff, order_swap first second] at above
      rw [notAfter_iff] at below
      rcases forall_of_pairwise either (fun _ _ => Or.symm) member (turned.symm.subset inside) different
        with less | less
      · simp [less] at above
      · rw [order_swap second first, less] at below
        exact below rfl
    · rw [notAfter_iff, less]
      decide
  exact same ▸ rows'

/-- Where the set stands, the order of its elements does not depend on unknowns: they would change places. -/
theorem ordered_of_stands (stands : ∀ filled, List.Forall₂ Fills items filled →
      List.Forall₂ Below (toSet items) (toSet filled)) : (toSet items).Pairwise Precedes := by
  have kept := toSet_kept formed
  have differ := differ_of_settled formed settled kept
  refine List.pairwise_of_forall_sublist fun {first second} pair filled filled' fills fills' => ?_
  have shape := formed first (kept.inside (pair.subset (by simp)))
  have shape' := formed second (kept.inside (pair.subset (by simp)))
  have apart := differ.forall_sublist pair
  have different : first ≠ second := by
    rintro rfl
    exact not_fills_both shape apart ⟨.refl _, shape⟩ ⟨.refl _, shape⟩
  obtain ⟨fill, rfl, rfl, fillsAll⟩ := exists_fill different fills fills'
  have rows : List.Forall₂ (fun item image => Fills item image ∧ fill item = image) items (items.map fill) :=
    List.forall₂_map_right_iff.mpr
      (List.forall₂_same.mpr fun item member => ⟨fillsAll item (formed item member), rfl⟩)
  have filledRows : List.Forall₂ Fills items (items.map fill) := rows.imp fun _ _ both => both.1
  obtain ⟨image, rows', turned⟩ := exists_image formed settled (fun _ _ both => both.1) rows
  obtain rfl := eq_map_of_forall₂ (rows'.imp fun _ _ both => both.2)
  have shapes := filled_formed filledRows
  have images := fills_of_below (stands _ filledRows) fun item member =>
    shapes item ((toSet_kept shapes).inside member)
  have same : toSet (items.map fill) = (toSet items).map fill :=
    eq_of_forall₂_perm images (rows'.imp fun _ _ both => both.1) turned.symm
      (differ.imp_of_mem fun member _ different _ fills =>
        not_fills_both (formed _ (kept.inside member)) different fills)
  have sorted := toSet_filled_sorted formed settled filledRows
  rw [same] at sorted
  have below := (notAfter_iff _ _).mp (sorted.forall_sublist (pair.map fill))
  have tie := order_ne_of_decided fills.formed fills'.formed (decided_of_fills shape shape' fills fills' apart)
  cases result : order (fill first) (fill second) with
  | lt => rfl
  | eq => exact absurd result tie
  | gt => exact absurd result below

end Settled

end Sets

/-- What becomes of a set stands just when neither the equality nor the order of its elements is open. -/
theorem toset_stands_iff {host : Host} {root : Path} {depth : Nat} {items : List Value}
    (formed : ∀ item ∈ items, item.Formed) :
    ResultStands (functionTable host root depth) "toset" items ↔ SetSettled items := by
  rw [resultStands_iff (functionTable_toset host root depth)]
  constructor
  · intro stands
    have settled := decided_of_stands formed stands
    exact ⟨settled, ordered_of_stands formed settled stands⟩
  · intro settled filled rows
    exact (toSet_filled formed settled.decided rows settled.ordered).imp fun _ _ fills => fills.below

/-- What `flatten` and `toset` make of a list stands, however unknowns in it are filled in, just when no
unknown is a leaf, and when neither the equality nor the order of elements of the set is open. -/
theorem openLists_stand_iff (host : Host) (root : Path) (depth : Nat) {items : List Value}
    (formed : ∀ item ∈ items, item.Formed) :
    (ResultStands (functionTable host root depth) "flatten" items ↔
      ∀ leaf ∈ Functions.leavesOf items, leaf.isUnknown = false) ∧
    (ResultStands (functionTable host root depth) "toset" items ↔ SetSettled items) :=
  ⟨flatten_stands_iff formed, toset_stands_iff formed⟩

/-- The unknown of a variable without a value. -/
def unset : Value := unresolved "var.u" "u"

private theorem order_pairs (left right : Value) :
    order (list [string "a", left]) (list [string "b", right]) = .lt := by
  rw [order_eq_text (by simp) (by simp), compare_lt_iff_lt, String.lt_iff_toList_lt]
  simp only [jsonText, toJson, itemsToJson, Json.compact, Json.compactItems, Json.quote, String.toList_append,
    String.toList_ofList]
  exact .cons (.cons (.rel (by decide)))

private theorem eq_pair_of_below {text : String} {filled : Value}
    (below : (list [string text, unset]).Below filled) : ∃ value, filled = list [string text, value] := by
  cases below with
  | list rows =>
    obtain _ | ⟨head, _ | ⟨_, _ | _⟩⟩ := rows
    cases head
    exact ⟨_, rfl⟩

/-- Lists that differ in what comes before an unknown keep their places in a set; flattened, the unknown is
an item like others. -/
theorem openLists_stand_of_pairs :
    let functions := functionTable ⟨.directory [], ⟨"/"⟩, "/", ⟨"/tmp"⟩⟩ ⟨"/"⟩ 0
    (∀ item ∈ [list [string "b", unset], list [string "a", unset]], item.Formed) ∧
      ResultStands functions "toset" [list [string "b", unset], list [string "a", unset]] ∧
      ¬ ResultStands functions "flatten" [list [string "b", unset], list [string "a", unset]] := by
  intro functions
  have pair (text : String) : (list [string text, unset]).Formed :=
    .list (List.forall_mem_cons.mpr ⟨.string text, List.forall_mem_singleton.mpr (.unknown _)⟩)
  have formed : ∀ item ∈ [list [string "b", unset], list [string "a", unset]], item.Formed :=
    List.forall_mem_cons.mpr ⟨pair "b", List.forall_mem_singleton.mpr (pair "a")⟩
  obtain ⟨flattened, set⟩ := openLists_stand_iff _ ⟨"/"⟩ 0 formed
  refine ⟨formed, set.mpr ⟨by decide, ?_⟩, fun stands => ?_⟩
  · have turned : notAfter (list [string "b", unset]) (list [string "a", unset]) = false := by decide
    rw [toSet_pair (by decide), turned, if_neg Bool.false_ne_true, List.pairwise_pair]
    intro filled filled' fills fills'
    obtain ⟨left, rfl⟩ := eq_pair_of_below fills.below
    obtain ⟨right, rfl⟩ := eq_pair_of_below fills'.below
    exact order_pairs left right
  · have := flattened.mp stands unset (by decide)
    cases this

/-- A list filled in for an unknown brings its items, and a number filled in can be there already. -/
theorem openLists_change :
    let functions := functionTable ⟨.directory [], ⟨"/"⟩, "/", ⟨"/tmp"⟩⟩ ⟨"/"⟩ 0
    ¬ ResultStands functions "flatten" [list [ofInt 1], unset] ∧
      ¬ ResultStands functions "toset" [unset, ofInt 1] := by
  intro functions
  have number (value : Int) : (ofInt value).Formed := .number trivial
  have same (value : Int) : Fills (ofInt value) (ofInt value) := ⟨.refl _, number value⟩
  constructor
  · rw [resultStands_iff functionTable_flatten]
    intro stands
    have rows : List.Forall₂ Fills [list [ofInt 1], unset] [list [ofInt 1], list [ofInt 2, ofInt 3]] :=
      .cons ⟨.refl _, .list (by simp [number])⟩ (.cons ⟨.unknown _ _, .list (by simp [number])⟩ .nil)
    exact absurd (stands _ rows).length_eq (by decide)
  · rw [resultStands_iff (functionTable_toset _ _ _)]
    intro stands
    have rows : List.Forall₂ Fills [unset, ofInt 1] [ofInt 1, ofInt 1] :=
      .cons ⟨.unknown _ _, number 1⟩ (.cons (same 1) .nil)
    have size := (stands _ rows).length_eq
    rw [toSet, toSet, List.length_mergeSort, List.length_mergeSort] at size
    exact absurd size (by decide)

end Terradoc.Value
