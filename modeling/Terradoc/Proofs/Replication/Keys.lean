import Terradoc.Proofs.Entries
import Terradoc.Proofs.Lists
import Terradoc.Proofs.Replication.Instances
import Terradoc.Proofs.Text.Bytes

namespace Terradoc

section Sorting

/-- The sort leaves entries of one key in the order in which they came. -/
theorem filter_mergeSort_byKey {α : Type} (entries : List (String × α)) (key : String) :
    (entries.mergeSort fun left right => !(right.1 < left.1)).filter (·.1 == key) =
      entries.filter (·.1 == key) := by
  have sorted : (entries.filter (·.1 == key)).Pairwise fun left right => !(right.1 < left.1) := by
    refine List.pairwise_of_forall_mem_list fun first member second inside => ?_
    have same : first.1 = second.1 :=
      (beq_iff_eq.mp (List.mem_filter.mp member).2).trans (beq_iff_eq.mp (List.mem_filter.mp inside).2).symm
    simp [same]
  have kept := List.sublist_mergeSort (notAbove_trans Prod.fst) (notAbove_total Prod.fst) sorted
    List.filter_sublist
  have order := (List.mergeSort_perm entries fun left right => !(right.1 < left.1)).filter (·.1 == key)
  refine (List.Sublist.eq_of_length ?_ order.length_eq.symm).symm
  simpa [List.filter_filter] using kept.filter (·.1 == key)

theorem get?_mergeSort_byKey {α : Type} (entries : Entries α) (key : String) :
    Entries.get? (entries.mergeSort fun left right => !(right.1 < left.1)) key =
      Entries.get? entries key := by
  rw [Entries.get?_eq_head?, filter_mergeSort_byKey, ← Entries.get?_eq_head?]

/-- Of the entries of a key, the first stays. -/
theorem get?_dropRepeats (entries : List (String × Value)) (key : String) :
    Entries.get? (dropRepeats entries) key = Entries.get? entries key := by
  induction entries with
  | nil => rfl
  | cons first rest ih =>
    rw [dropRepeats, Entries.get?_cons, ← ih]
    cases dropRepeats rest with
    | nil => rw [Entries.get?_cons]
    | cons next others =>
      dsimp only
      split
      · rename_i same
        rw [Entries.get?_cons, Entries.get?_cons, beq_iff_eq.mp same]
        split <;> rfl
      · rw [Entries.get?_cons]

end Sorting

section Collections

/-- What the entries that a collection is replicated over hold: the entries of a map, and the texts of a
list, each under itself. -/
inductive Entries.Holds (entries : Entries Value) : Value → Prop where
  | map {fields : Entries Value} (same : ∀ key, get? entries key = get? fields key) :
    Holds entries (.map fields)
  | list {items : List Value}
    (texts : ∀ key value, (key, value) ∈ entries ↔
      value = .string key ∧ ∃ item ∈ items, item.toText = .ok key) : Holds entries (.list items)

theorem itemEntry_eq_ok {item : Value} {entry : String × Value} (made : itemEntry item = .ok entry) :
    item.toText = .ok entry.1 ∧ entry.2 = .string entry.1 := by
  unfold itemEntry at made
  split at made
  any_goals cases made; exact ⟨rfl, rfl⟩
  cases made

theorem mem_entries_of_items {items : List Value} {all : List (String × Value)}
    (rows : List.Forall₂ (fun item entry => itemEntry item = .ok entry) items all) (key : String)
    (value : Value) :
    (key, value) ∈ all ↔ value = .string key ∧ ∃ item ∈ items, item.toText = .ok key := by
  constructor
  · intro member
    obtain ⟨item, inside, made⟩ := exists_of_forall₂ rows member
    obtain ⟨text, same⟩ := itemEntry_eq_ok made
    exact ⟨same, item, inside, text⟩
  · rintro ⟨rfl, item, inside, text⟩
    obtain ⟨⟨name, value⟩, member, made⟩ := exists_of_forall₂ rows.flip inside
    obtain ⟨written, same⟩ := itemEntry_eq_ok made
    cases text.symm.trans written
    exact same ▸ member

/-- Entries come in the order of the bytes of their keys and hold what the collection does. -/
theorem replicationEntries_holds {value : Value} {entries : List (String × Value)}
    (found : replicationEntries value = .ok entries) : Entries.Holds entries value := by
  have once : (entries.map Prod.fst).Nodup :=
    List.pairwise_map.mpr ((replicationEntries_ascending found).imp String.ne_of_lt)
  unfold replicationEntries at found
  split at found
  · cases found
    exact .map fun key => by rw [get?_dropRepeats, get?_mergeSort_byKey]
  · rename_i items
    cases texts : items.mapM itemEntry with
    | error => rw [texts] at found; cases found
    | ok all =>
      rw [texts] at found
      cases found
      have held := mem_entries_of_items (mapM_eq_ok_iff.mp texts)
      refine .list fun key value => ?_
      rw [← Entries.get?_eq_some_iff once, get?_dropRepeats, get?_mergeSort_byKey, ← held]
      refine ⟨Entries.mem_of_get?, fun member => ?_⟩
      obtain ⟨other, present⟩ := Option.isSome_iff_exists.mp (Entries.get?_isSome_of_mem member)
      rw [present, ((held _ _).mp (Entries.mem_of_get? present)).1, ((held _ _).mp member).1]
  · cases found

theorem eq_of_ascending {entries others : List (String × Value)}
    (sorted : entries.Pairwise fun left right => left.1 < right.1)
    (ordered : others.Pairwise fun left right => left.1 < right.1)
    (same : ∀ key value, (key, value) ∈ entries ↔ (key, value) ∈ others) : entries = others := by
  have distinct {all : List (String × Value)} (ascending : all.Pairwise fun left right => left.1 < right.1) :
      all.Nodup := ascending.imp fun below => ne_of_apply_ne Prod.fst (String.ne_of_lt below)
  refine List.Perm.eq_of_pairwise (fun left right _ _ below above => ?_) sorted ordered
    ((List.perm_ext_iff_of_nodup (distinct sorted) (distinct ordered)).mpr fun entry => same entry.1 entry.2)
  exact absurd (String.lt_trans below above) (String.lt_irrefl _)

end Collections

section Instances

variable {body : Body} {env : Environment} {all : List Instance}

theorem countOf?_ofNat {count : Nat} (bounded : (count : Int) ≤ Number.maxWord) :
    countOf? (.ofNat count) = some count := by
  simp [countOf?, Value.ofNat, Number.toInt?, Number.clampWord_ofNat bounded]

theorem instances_of_count {expr : Expr} {value : Value} (made : instances body env = .ok all)
    (asked : body.attribute? "count" = some expr) (given : expr.eval env = .ok value) :
    countInstances value = .ok all := by
  unfold instances at made
  rw [asked] at made
  split at made
  · cases made
  · rename_i same _
    cases same
    rwa [replicationValue, given] at made
  · rename_i absent _
    cases absent
  · rename_i absent _
    cases absent

theorem instances_of_forEach {expr : Expr} {value : Value} (made : instances body env = .ok all)
    (asked : body.attribute? "for_each" = some expr) (given : expr.eval env = .ok value) :
    entryInstances value = .ok all := by
  unfold instances at made
  rw [asked] at made
  split at made
  · cases made
  · rename_i absent
    cases absent
  · rename_i same
    cases same
    rwa [replicationValue, given] at made
  · rename_i absent
    cases absent

/-- The entries that a known collection is replicated over. -/
theorem exists_entries_of_forEach {expr : Expr} {value : Value} (made : instances body env = .ok all)
    (asked : body.attribute? "for_each" = some expr) (given : expr.eval env = .ok value)
    (known : ∀ marker, value ≠ .unknown marker) (present : value ≠ .null) :
    ∃ entries : List (String × Value), all = entries.map Instance.keyed ∧
      (entries.Pairwise fun left right => left.1 < right.1) ∧ Entries.Holds entries value := by
  have keyed := instances_of_forEach made asked given
  unfold entryInstances at keyed
  split at keyed
  · exact absurd rfl (known _)
  · exact absurd rfl present
  · cases found : replicationEntries value with
    | error => rw [found] at keyed; cases keyed
    | ok entries =>
      rw [found] at keyed
      cases keyed
      exact ⟨entries, rfl, replicationEntries_ascending found, replicationEntries_holds found⟩

/-- What the instances of a block are: told apart by their suffixes; with a known count, one for each index
below it, in order; with a known collection, one for each key, in the order of the bytes of the keys. -/
structure CanonicalKeys (body : Body) (env : Environment) (all : List Instance) : Prop where
  apart : (all.map fun inst => keySuffix inst.key).Nodup
  counted : ∀ {expr : Expr} {value : Value}, body.attribute? "count" = some expr →
    expr.eval env = .ok value → (∀ marker, value ≠ .unknown marker) → value ≠ .null →
    ∃ count, countOf? value = some count ∧
      (∀ whole : Nat, value = .ofNat whole → (whole : Int) ≤ Number.maxWord → count = whole) ∧
      all = (List.range count).map fun index => ⟨some (.index index), none, some (.ofNat index)⟩
  keyed : ∀ {expr : Expr} {value : Value}, body.attribute? "for_each" = some expr →
    expr.eval env = .ok value → (∀ marker, value ≠ .unknown marker) → value ≠ .null →
    ∃ entries : List (String × Value),
      (all = entries.map fun (key, value) => ⟨some (.key key), some (.string key, value), none⟩) ∧
      (entries.Pairwise fun left right => Text.toBytes left.1 < Text.toBytes right.1) ∧
      Entries.Holds entries value

/-- The instances of a block have keys that tell them apart, and lists of the same texts have the same
instances, in whatever order and however often the texts stand. -/
theorem instances_canonical (made : instances body env = .ok all) :
    CanonicalKeys body env all ∧
    ∀ {other : Body} {around : Environment} {others : List Instance} {expr expr' : Expr}
      {items items' : List Value}, instances other around = .ok others →
      body.attribute? "for_each" = some expr → expr.eval env = .ok (.list items) →
      other.attribute? "for_each" = some expr' → expr'.eval around = .ok (.list items') →
      (∀ text, (∃ item ∈ items, item.toText = .ok text) ↔ ∃ item ∈ items', item.toText = .ok text) →
      others = all := by
  refine ⟨⟨(instances_replicated made).suffixes_nodup, ?_, ?_⟩, ?_⟩
  · intro expr value asked given known present
    have counted := instances_of_count made asked given
    unfold countInstances at counted
    split at counted
    · exact absurd rfl (known _)
    · exact absurd rfl present
    · split at counted
      · rename_i count found
        cases counted
        refine ⟨count, found, fun whole same bounded => ?_, rfl⟩
        subst same
        exact Option.some.inj (found.symm.trans (countOf?_ofNat bounded))
      · cases counted
  · intro expr value asked given known present
    obtain ⟨entries, rfl, ascending, holds⟩ := exists_entries_of_forEach made asked given known present
    exact ⟨entries, rfl, ascending.imp Text.toBytes_lt, holds⟩
  · intro other around others expr expr' items items' made' asked given asked' given' same
    have known (items : List Value) :
        (∀ marker, Value.list items ≠ .unknown marker) ∧ Value.list items ≠ .null :=
      ⟨fun _ => nofun, nofun⟩
    obtain ⟨entries, rfl, sorted, holds⟩ :=
      exists_entries_of_forEach made asked given (known _).1 (known _).2
    obtain ⟨entries', rfl, ordered, holds'⟩ :=
      exists_entries_of_forEach made' asked' given' (known _).1 (known _).2
    cases holds with
    | list texts =>
      cases holds' with
      | list texts' => rw [eq_of_ascending ordered sorted fun key value => by rw [texts, texts', same]]

theorem instances_canonical_of_repeated_items :
    let env : Environment := .ofScope (Scope.empty ⟨"/"⟩ ⟨"/"⟩ ⟨"/"⟩) fun _ _ => .ok .null
    let body (items : List String) : Body := [.attribute "for_each" (.array (items.map .string))]
    ∃ all, instances (body ["b", "a", "b"]) env = .ok all ∧ CanonicalKeys (body ["b", "a", "b"]) env all ∧
      instances (body ["a", "b"]) env = .ok all := by
  intro env body
  have evaluated (items : List String) :
      (Expr.array (items.map .string)).eval env = .ok (.list (items.map .string)) := by
    have each : evalItems env (items.map .string) = .ok (items.map .string) := by
      induction items with
      | nil => rw [List.map_nil, evalItems]; rfl
      | cons item rest ih => rw [List.map_cons, evalItems, Expr.eval, ih]; rfl
    rw [Expr.eval, each]
    rfl
  have made (items : List String) : ∃ all, instances (body items) env = .ok all := by
    have entries : (items.map Value.string).mapM itemEntry =
        .ok (items.map fun item => (item, .string item)) :=
      mapM_eq_ok_iff.mpr (List.forall₂_map_left_iff.mpr (List.forall₂_map_right_iff.mpr
        (List.forall₂_same.mpr fun _ _ => rfl)))
    refine ⟨(dropRepeats ((items.map fun item => (item, Value.string item)).mergeSort
      fun left right => !(right.1 < left.1))).map Instance.keyed, ?_⟩
    change (replicationValue env (.array (items.map .string)) >>= entryInstances) = _
    rw [replicationValue, evaluated]
    change (replicationEntries (.list (items.map .string))).map (List.map Instance.keyed) = _
    rw [replicationEntries, entries]
    rfl
  obtain ⟨all, first⟩ := made ["b", "a", "b"]
  obtain ⟨others, second⟩ := made ["a", "b"]
  obtain ⟨canonical, unordered⟩ := instances_canonical first
  have same := unordered second rfl (evaluated _) rfl (evaluated _) (by simp [Value.toText])
  exact ⟨all, first, canonical, same ▸ second⟩

end Instances

end Terradoc
