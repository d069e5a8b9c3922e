import Mathlib.Data.List.Forall2
import Mathlib.Data.List.Perm.Subperm
import Terradoc.Proofs.Number.Order
import Terradoc.Value.Order

/-! Equality inside the language. On values as evaluation makes them it is an equivalence: numbers go by
their doubles, lists item by item, and maps key by key. -/

namespace Terradoc.Value

/-- A value as evaluation makes it: its numbers are finite, and its maps have each key once. -/
inductive Formed : Value → Prop where
  | null : Formed .null
  | bool (value : Bool) : Formed (.bool value)
  | number {value : Number} (finite : value.Finite) : Formed (.number value)
  | string (value : String) : Formed (.string value)
  | unknown (marker : Unknown) : Formed (.unknown marker)
  | list {items : List Value} (below : ∀ item ∈ items, Formed item) : Formed (.list items)
  | map {entries : Entries Value} (once : (entries.map Prod.fst).Nodup)
      (below : ∀ entry ∈ entries, Formed entry.2) : Formed (.map entries)

theorem equalItems_iff {left right : List Value} :
    equalItems left right = true ↔
      List.Forall₂ (fun first second => equal first second = true) left right := by
  induction left generalizing right with
  | nil => cases right <;> simp [equalItems]
  | cons head tail ih => cases right <;> simp [equalItems, ih]

theorem equalEntries_iff {left right : Entries Value} :
    equalEntries left right = true ↔
      ∀ entry ∈ left, ∃ value, Entries.get? right entry.1 = some value ∧ equal entry.2 value = true := by
  induction left with
  | nil => simp [equalEntries]
  | cons head tail ih =>
    obtain ⟨key, value⟩ := head
    rw [equalEntries, Bool.and_eq_true, ih, List.forall_mem_cons]
    refine and_congr_left fun _ => ?_
    cases Entries.get? right key <;> simp

/-- A value is equal to itself. -/
theorem equal_refl {value : Value} (formed : value.Formed) : equal value value = true := by
  induction formed with
  | null => rfl
  | bool => simp [equal, same]
  | number finite => 
    rw [equal]
    exact (Number.numericallyEqual_iff finite finite).mpr rfl
  | string => simp [equal, same]
  | unknown => simp [equal, same]
  | list below ih =>
    rw [equal, equalItems_iff, List.forall₂_same]
    exact ih
  | map once below ih =>
    rw [equal, Bool.and_eq_true, equalEntries_iff]
    exact ⟨beq_self_eq_true _, fun entry member =>
      ⟨entry.2, (Entries.get?_eq_some_iff once).mpr member, ih entry member⟩⟩

/-- What is neither a number nor a collection is equal to itself only. -/
private theorem eq_of_equal {left right : Value} (equals : equal left right = true)
    (notNumber : ∀ number, left ≠ .number number) (notList : ∀ items, left ≠ .list items)
    (notMap : ∀ entries, left ≠ .map entries) : left = right := by
  cases left with
  | number value => exact absurd rfl (notNumber value)
  | list items => exact absurd rfl (notList items)
  | map entries => exact absurd rfl (notMap entries)
  | _ => cases right <;> simp_all [equal, same]

private theorem flip_of_mem {left right : List Value}
    (items : List.Forall₂ (fun first second => equal first second = true) left right)
    (turn : ∀ first ∈ left, ∀ second ∈ right, equal first second = true → equal second first = true) :
    List.Forall₂ (fun first second => equal first second = true) right left := by
  induction items with
  | nil => exact .nil
  | cons head tail ih =>
    exact .cons (turn _ List.mem_cons_self _ List.mem_cons_self head)
      (ih fun first member second member' =>
        turn first (List.mem_cons_of_mem _ member) second (List.mem_cons_of_mem _ member'))

private theorem through_of_mem {left middle right : List Value}
    (items : List.Forall₂ (fun first second => equal first second = true) left middle)
    (others : List.Forall₂ (fun first second => equal first second = true) middle right)
    (join : ∀ first ∈ left, ∀ second ∈ middle, ∀ third ∈ right,
      equal first second = true → equal second third = true → equal first third = true) :
    List.Forall₂ (fun first second => equal first second = true) left right := by
  induction items generalizing right with
  | nil =>
    cases others
    exact .nil
  | cons head tail ih =>
    cases others with
    | cons next rest =>
      refine .cons (join _ List.mem_cons_self _ List.mem_cons_self _ List.mem_cons_self head next)
        (ih rest fun first member second inside third within => ?_)
      exact join first (List.mem_cons_of_mem _ member) second (List.mem_cons_of_mem _ inside) third
        (List.mem_cons_of_mem _ within)

/-- Two maps of one size, where the first has no key that the second lacks, have the same keys. -/
private theorem keys_subset {left right : Entries Value} (once : (left.map Prod.fst).Nodup)
    (size : left.length = right.length)
    (found : ∀ entry ∈ left, ∃ value, Entries.get? right entry.1 = some value ∧
      equal entry.2 value = true) : right.map Prod.fst ⊆ left.map Prod.fst := by
  have included : left.map Prod.fst ⊆ right.map Prod.fst := by
    intro key member
    obtain ⟨entry, inside, rfl⟩ := List.mem_map.mp member
    obtain ⟨value, present, _⟩ := found entry inside
    exact List.mem_map.mpr ⟨_, Entries.mem_of_get? present, rfl⟩
  have same := (List.subperm_of_subset once included).perm_of_length_le (by simp [size])
  exact same.symm.subset

theorem equal_symm {left : Value} (formed : left.Formed) {right : Value} (other : right.Formed)
    (equals : equal left right = true) : equal right left = true := by
  induction formed generalizing right with
  | number finite =>
    cases other with
    | number finite' =>
      rw [equal, Number.numericallyEqual_iff finite finite'] at equals
      rw [equal, Number.numericallyEqual_iff finite' finite]
      exact equals.symm
    | _ => cases equals
  | list below ih =>
    cases other with
    | list below' =>
      rw [equal, equalItems_iff] at equals ⊢
      exact flip_of_mem equals fun first member second member' =>
        ih first member (below' second member')
    | _ => cases equals
  | map once below ih =>
    cases other with
    | map once' below' =>
      rw [equal, Bool.and_eq_true, equalEntries_iff] at equals ⊢
      obtain ⟨size, found⟩ := equals
      rw [beq_iff_eq] at size
      refine ⟨beq_iff_eq.mpr size.symm, fun entry member => ?_⟩
      obtain ⟨first, inside, key⟩ :=
        List.mem_map.mp (keys_subset once size found (List.mem_map_of_mem member))
      obtain ⟨value, present, equals⟩ := found first inside
      rw [key, (Entries.get?_eq_some_iff once').mpr member] at present
      obtain rfl := Option.some.inj present
      exact ⟨first.2, (Entries.get?_eq_some_iff once).mpr (key ▸ inside),
        ih first inside (below' entry member) equals⟩
    | _ => cases equals
  | null | bool | string | unknown =>
    obtain rfl := eq_of_equal equals nofun nofun nofun
    exact equals

theorem equal_trans {left : Value} (formed : left.Formed) {middle right : Value} (next : middle.Formed)
    (last : right.Formed) (first : equal left middle = true) (second : equal middle right = true) :
    equal left right = true := by
  induction formed generalizing middle right with
  | number finite =>
    cases next with
    | number finite' =>
      cases last with
      | number finite'' =>
        rw [equal, Number.numericallyEqual_iff finite finite'] at first
        rw [equal, Number.numericallyEqual_iff finite' finite''] at second
        rw [equal, Number.numericallyEqual_iff finite finite'']
        exact first.trans second
      | _ => cases second
    | _ => cases first
  | list below ih =>
    cases next with
    | list below' =>
      cases last with
      | list below'' =>
        rw [equal, equalItems_iff] at first second ⊢
        exact through_of_mem first second fun item member _ inside _ within =>
          ih item member (below' _ inside) (below'' _ within)
      | _ => cases second
    | _ => cases first
  | map once below ih =>
    cases next with
    | map once' below' =>
      cases last with
      | map once'' below'' =>
        rw [equal, Bool.and_eq_true, equalEntries_iff, beq_iff_eq] at first second ⊢
        refine ⟨first.1.trans second.1, fun entry member => ?_⟩
        obtain ⟨value, present, same⟩ := first.2 entry member
        have inside := Entries.mem_of_get? present
        obtain ⟨image, present', same'⟩ := second.2 _ inside
        exact ⟨image, present', ih entry member (below' _ inside)
          (below'' _ (Entries.mem_of_get? present')) same same'⟩
      | _ => cases second
    | _ => cases first
  | null | bool | string | unknown =>
    obtain rfl := eq_of_equal first nofun nofun nofun
    exact second

end Terradoc.Value
