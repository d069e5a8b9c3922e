import Terradoc.Proofs.Value.Comparison

/-! Values of one's own choice for unknowns: the same one in every place, or one that makes the whole unlike
all values of a list. -/

namespace Terradoc.Value

mutual
def plug (part : Value) : Value → Value
  | unknown _ => part
  | list items => list (plugItems part items)
  | map entries => map (plugEntries part entries)
  | other => other

/-- Items with the same part in the place of all unknowns. -/
def plugItems (part : Value) : List Value → List Value
  | [] => []
  | item :: rest => plug part item :: plugItems part rest

/-- Entries with the same part in the place of all unknowns. -/
def plugEntries (part : Value) : Entries Value → Entries Value
  | [] => []
  | (key, value) :: rest => (key, plug part value) :: plugEntries part rest
end

theorem plugItems_eq_map (part : Value) (items : List Value) :
    plugItems part items = items.map (plug part) := by
  induction items with
  | nil => rfl
  | cons item rest ih => rw [plugItems, ih, List.map_cons]

theorem plugEntries_eq_map (part : Value) (entries : Entries Value) :
    plugEntries part entries = entries.map fun entry => (entry.1, plug part entry.2) := by
  induction entries with
  | nil => rfl
  | cons entry rest ih => rw [plugEntries, ih, List.map_cons]

/-- A known part leaves nothing unknown. -/
theorem plug_completes {value part : Value} (formed : value.Formed) (shape : part.Formed)
    (known : part.unknowns = []) : Completes value (plug part value) := by
  induction formed with
  | unknown marker =>
    rw [plug]
    exact ⟨.unknown marker part, shape, known⟩
  | list _ ih =>
    rw [plug, plugItems_eq_map]
    exact .list (List.forall₂_map_right_iff.mpr (List.forall₂_same.mpr ih))
  | map once _ ih =>
    rw [plug, plugEntries_eq_map]
    exact .map once (List.forall₂_map_right_iff.mpr
      (List.forall₂_same.mpr fun entry member => ⟨rfl, ih entry member⟩))
  | null => exact ⟨.refl _, .null, rfl⟩
  | bool value => exact ⟨.refl _, .bool value, rfl⟩
  | number finite => exact ⟨.refl _, .number finite, rfl⟩
  | string value => exact ⟨.refl _, .string value, rfl⟩

/-- Different parts make different values, where there is a place for them. -/
theorem equal_of_equal_plug {value part other : Value} (formed : value.Formed)
    (unsettled : value.unknowns ≠ []) (equals : equal (plug part value) (plug other value) = true) :
    equal part other = true := by
  induction formed with
  | unknown => simpa [plug] using equals
  | @list items _ ih =>
    obtain ⟨item, member, place⟩ : ∃ item ∈ items, item.unknowns ≠ [] := by
      by_contra none
      push Not at none
      exact unsettled (unknownsOfItems_eq_nil_iff.mpr none)
    rw [plug, plug, equal, equalItems_iff, plugItems_eq_map, plugItems_eq_map,
      List.forall₂_map_left_iff, List.forall₂_map_right_iff, List.forall₂_same] at equals
    exact ih item member place (equals item member)
  | @map entries once _ ih =>
    obtain ⟨entry, member, place⟩ : ∃ entry ∈ entries, entry.2.unknowns ≠ [] := by
      by_contra none
      push Not at none
      exact unsettled (unknownsOfEntries_eq_nil_iff.mpr none)
    rw [plug, plug, equal, Bool.and_eq_true, equalEntries_iff, plugEntries_eq_map,
      plugEntries_eq_map] at equals
    obtain ⟨found, present, same⟩ := equals.2 _ (List.mem_map_of_mem member)
    rw [Entries.get?_map, (Entries.get?_eq_some_iff once).mpr member] at present
    cases present
    exact ih entry member place same
  | null | bool | number | string => exact absurd rfl unsettled

private def mark (length : Nat) : Value := string (String.ofList (List.replicate length 'x'))

private theorem mark_injective {length other : Nat} (equals : equal (mark length) (mark other) = true) :
    length = other := by
  simp only [mark, equal, same, beq_iff_eq, String.ofList_inj] at equals
  simpa using congrArg List.length equals

/-- Whatever is to be avoided, all long marks in the place of the unknowns avoid it. -/
private theorem exists_bound {value : Value} (formed : value.Formed) (unsettled : value.unknowns ≠ [])
    {others : List Value} (shapes : ∀ other ∈ others, other.Formed) :
    ∃ bound, ∀ length ≥ bound, ∀ other ∈ others, equal other (plug (mark length) value) ≠ true := by
  have filled (length : Nat) : (plug (mark length) value).Formed :=
    (plug_completes formed (.string _) rfl).formed
  induction others with
  | nil => exact ⟨0, fun _ _ => List.forall_mem_nil _⟩
  | cons head rest ih =>
    obtain ⟨shape, shapes⟩ := List.forall_mem_cons.mp shapes
    obtain ⟨bound, avoids⟩ := ih shapes
    by_cases met : ∃ length, equal head (plug (mark length) value) = true
    · -- only one length meets the head: marks of two lengths would be equal
      obtain ⟨length, meets⟩ := met
      refine ⟨max bound (length + 1), fun longer after => List.forall_mem_cons.mpr ⟨fun equals => ?_,
        avoids longer (le_of_max_le_left after)⟩⟩
      have same := equal_trans (filled length) shape (filled longer)
        (equal_symm shape (filled length) meets) equals
      have := mark_injective (equal_of_equal_plug formed unsettled same)
      omega
    · push Not at met
      exact ⟨bound, fun length after => List.forall_mem_cons.mpr ⟨met length, avoids length after⟩⟩

/-- A value that is not known can be filled in to be unlike all of some values. -/
theorem exists_fresh {value : Value} (formed : value.Formed) (unsettled : value.unknowns ≠ [])
    {others : List Value} (shapes : ∀ other ∈ others, other.Formed) :
    ∃ filled, Completes value filled ∧ ∀ other ∈ others, equal other filled = false := by
  obtain ⟨bound, avoids⟩ := exists_bound formed unsettled shapes
  refine ⟨plug (mark bound) value, plug_completes formed (.string _) rfl, fun other member => ?_⟩
  exact Bool.eq_false_iff.mpr (avoids bound le_rfl other member)

end Terradoc.Value
