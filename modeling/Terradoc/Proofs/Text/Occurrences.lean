import Mathlib.Data.List.Infix
import Terradoc.Text.Pieces

/-! Where a mark occurs in a text. A text breaks at the first place of a mark, which is the place before which
the mark does not occur, not even with its own beginning. -/

namespace Terradoc.Text

variable {mark text before rest : List Char}

theorem after?_eq_none_iff : after? mark text = none ↔ ¬ mark <+: text := by
  rw [← Option.not_isSome_iff_eq_none, not_iff_not, Option.isSome_iff_exists]
  exact exists_congr fun rest => after?_eq_some.trans eq_comm

theorem after?_append (mark rest : List Char) : after? mark (mark ++ rest) = some rest :=
  after?_eq_some.mpr rfl

/-- The first place of a mark: with its last character left off, it is not yet there. -/
theorem breakAt?_eq_some_iff (marked : mark ≠ []) :
    breakAt? mark text = some (before, rest) ↔
      text = before ++ mark ++ rest ∧ ¬ mark <:+: before ++ mark.dropLast := by
  have shorter : mark.dropLast.length < mark.length := by
    rw [List.length_dropLast]
    exact Nat.sub_lt (List.length_pos_iff.mpr marked) Nat.one_pos
  induction text generalizing before with
  | nil =>
    have missing : after? mark [] = none := after?_eq_none_iff.mpr fun here => marked (List.prefix_nil.mp here)
    rw [breakAt?, missing]
    constructor
    · intro found
      cases found
    · rintro ⟨whole, -⟩
      have empty := (List.append_eq_nil_iff.mp (List.append_eq_nil_iff.mp whole.symm).1).2
      exact absurd empty marked
  | cons char tail ih =>
    simp only [breakAt?]
    cases here : after? mark (char :: tail) with
    | some found =>
      have whole := after?_eq_some.mp here
      simp only [Option.some.injEq, Prod.mk.injEq]
      constructor
      · rintro ⟨rfl, rfl⟩
        exact ⟨whole, fun inside => Nat.not_le_of_lt shorter inside.length_le⟩
      · rintro ⟨split, first⟩
        -- The mark stands at the start, so it would occur before any later place.
        have start : before = [] := by
          by_contra nonempty
          have starts : mark <+: char :: tail := ⟨found, whole.symm⟩
          refine first (List.IsPrefix.isInfix (List.prefix_of_prefix_length_le starts
            ⟨mark.getLast marked :: rest, ?_⟩ ?_))
          · rw [split, List.append_assoc, List.append_assoc, List.append_right_inj, List.append_cons,
              List.dropLast_concat_getLast]
          · have := List.length_pos_iff.mpr nonempty
            rw [List.length_append, List.length_dropLast]
            omega
        subst start
        rw [whole, List.nil_append, List.append_right_inj] at split
        exact ⟨rfl, split⟩
    | none =>
      have other := after?_eq_none_iff.mp here
      simp only [Option.map_eq_some_iff, Prod.exists, Prod.mk.injEq]
      constructor
      · rintro ⟨front, after, found, rfl, rfl⟩
        obtain ⟨split, first⟩ := ih.mp found
        refine ⟨by rw [split, List.cons_append, List.cons_append], ?_⟩
        rw [List.cons_append, List.infix_cons_iff, not_or]
        refine ⟨fun prefixed => other (prefixed.trans ⟨mark.getLast marked :: after, ?_⟩), first⟩
        rw [split, List.cons_append, List.append_assoc, List.append_assoc, List.append_cons,
          List.dropLast_concat_getLast]
      · rintro ⟨split, first⟩
        cases before with
        | nil => exact absurd ⟨rest, split.symm⟩ other
        | cons head front =>
          obtain ⟨rfl, later⟩ := List.cons.inj split
          rw [List.cons_append, List.infix_cons_iff, not_or] at first
          exact ⟨front, rest, ih.mpr ⟨later, first.2⟩, rfl, rfl⟩

theorem breakAt?_eq_none_iff : breakAt? mark text = none ↔ ¬ mark <:+: text := by
  induction text with
  | nil => simp [breakAt?, after?_eq_none_iff]
  | cons char tail ih =>
    rw [breakAt?, List.infix_cons_iff, not_or, ← after?_eq_none_iff, ← ih]
    cases after? mark (char :: tail) <;> simp

theorem occursIn_iff : occursIn mark text = true ↔ mark <:+: text := by
  rw [occursIn, ← not_iff_not, Bool.not_eq_true, Option.isSome_eq_false_iff, Option.isNone_iff_eq_none,
    breakAt?_eq_none_iff]

/-- A mark does not reach over a character that it does not have. -/
theorem infix_append_cons_iff {char : Char} (foreign : char ∉ mark) {right : List Char} :
    mark <:+: before ++ char :: right ↔ mark <:+: before ∨ mark <:+: right := by
  have apart : ∀ {piece : List Char}, piece ≠ [] → piece ⊆ mark → ¬ piece <+: char :: right := by
    intro piece nonempty inside starts
    obtain ⟨head, more, rfl⟩ := List.exists_cons_of_ne_nil nonempty
    obtain ⟨same, -⟩ := List.cons_prefix_cons.mp starts
    exact foreign (inside (same ▸ List.mem_cons_self))
  rw [List.infix_append_iff_ne_nil, List.infix_cons_iff]
  constructor
  · rintro (left | (here | later) | ⟨_, piece, _, nonempty, rfl, _, starts⟩)
    · exact .inl left
    · by_cases empty : mark = []
      · exact .inl (empty ▸ List.nil_infix)
      · exact absurd here (apart empty (List.Subset.refl _))
    · exact .inr later
    · exact absurd starts (apart nonempty (List.subset_append_right _ _))
  · rintro (left | right)
    · exact .inl left
    · exact .inr (.inl (.inr right))

theorem prefix_append_cons_iff {char : Char} (foreign : char ∉ mark) {right : List Char} :
    mark <+: before ++ char :: right ↔ mark <+: before := by
  refine ⟨?_, fun starts => starts.trans (List.prefix_append _ _)⟩
  rintro ⟨rest, whole⟩
  rcases List.append_eq_append_iff.mp whole with ⟨others, same, -⟩ | ⟨others, same, after⟩
  · exact ⟨others, same.symm⟩
  · cases others with
    | nil => exact ⟨[], by simpa using same⟩
    | cons head more =>
      obtain ⟨rfl, -⟩ := List.cons.inj after
      exact absurd (same ▸ List.mem_append_right _ List.mem_cons_self) foreign

/-- A mark whose first character it has only once cannot begin in what comes before and end in itself. -/
theorem infix_append_dropLast_iff (marked : mark ≠ []) (once : ∀ first ∈ mark.head?, first ∉ mark.tail) :
    mark <:+: before ++ mark.dropLast ↔ mark <:+: before := by
  refine ⟨fun inside => ?_, List.infix_append_of_infix_left⟩
  rcases List.infix_append_iff_ne_nil.mp inside with
    left | own | ⟨front, back, someFront, someBack, whole, _, starts⟩
  · exact left
  · have := own.length_le
    have := List.length_pos_iff.mpr marked
    rw [List.length_dropLast] at *
    omega
  · -- What ends the mark would start it as well.
    obtain ⟨head, others, rfl⟩ := List.exists_cons_of_ne_nil someBack
    obtain ⟨start, tail, rfl⟩ := List.exists_cons_of_ne_nil someFront
    obtain ⟨more, rfl⟩ := starts.trans (List.dropLast_prefix _)
    refine absurd ?_ (once head rfl)
    rw [List.cons_append] at whole
    rw [List.cons_append, List.tail_cons, (List.cons.inj whole).2]
    exact List.mem_append_right _ List.mem_cons_self

/-- The first place of a mark whose first character it has only once. -/
theorem breakAt?_append (marked : mark ≠ []) (once : ∀ first ∈ mark.head?, first ∉ mark.tail)
    (outside : ¬ mark <:+: before) (rest : List Char) :
    breakAt? mark (before ++ mark ++ rest) = some (before, rest) :=
  (breakAt?_eq_some_iff marked).mpr ⟨rfl, mt (infix_append_dropLast_iff marked once).mp outside⟩

def marked (mark : List Char) (part : Option (List Char)) : List Char := part.elim [] (mark ++ ·)

theorem startsWith_iff {text start : String} :
    text.startsWith start = true ↔ ∃ rest, text = start ++ rest := by
  rw [String.startsWith_string_iff]
  constructor
  · rintro ⟨rest, same⟩
    exact ⟨String.ofList rest, String.toList_inj.mp (by simp [← same])⟩
  · rintro ⟨rest, rfl⟩
    exact ⟨rest.toList, String.toList_append.symm⟩

theorem not_startsWith_of_not_mem {char : Char} {text start : String} (inside : char ∈ start.toList)
    (outside : char ∉ text.toList) : text.startsWith start = false := by
  rw [String.startsWith_string_eq_false_iff]
  rintro ⟨rest, same⟩
  exact outside (same ▸ List.mem_append_left rest inside)

theorem endsWith_iff {text ending : String} :
    text.endsWith ending = true ↔ ∃ stem, text = stem ++ ending := by
  rw [String.endsWith_eq_endsWith_toSlice, String.Slice.endsWith_string_iff, String.copy_toSlice]
  constructor
  · rintro ⟨front, same⟩
    exact ⟨String.ofList front, String.toList_inj.mp (by simp [same])⟩
  · rintro ⟨stem, rfl⟩
    exact ⟨stem.toList, String.toList_append.symm⟩

end Terradoc.Text
