import Mathlib.Data.List.Nodup
import Mathlib.Logic.Function.Basic
import Terradoc.Entries
import Terradoc.Proofs.Lists

/-! What insertion does to entries: their keys stand once, in the order in which they came. Values that are
gathered by their keys keep their order, too. -/

namespace Terradoc.Entries

variable {α : Type}

theorem insert_of_fresh {entries : Entries α} {key : String} (value : α)
    (fresh : key ∉ entries.map Prod.fst) : insert entries key value = entries ++ [(key, value)] := by
  induction entries with
  | nil => rfl
  | cons head rest ih =>
    obtain ⟨other, old⟩ := head
    obtain ⟨differ, later⟩ := not_or.mp (List.mem_cons.not.mp fresh)
    rw [insert, if_neg (by simpa using Ne.symm differ), ih later]
    rfl

theorem keys_insert (entries : Entries α) (key : String) (value : α) :
    (insert entries key value).map Prod.fst =
      if key ∈ entries.map Prod.fst then entries.map Prod.fst else entries.map Prod.fst ++ [key] := by
  induction entries with
  | nil => rfl
  | cons head rest ih =>
    obtain ⟨other, old⟩ := head
    by_cases same : other = key
    · subst same
      simp [insert]
    · rw [insert, if_neg (by simpa using same), List.map_cons, ih, List.map_cons]
      simp only [List.mem_cons, Ne.symm same, false_or]
      split <;> simp

/-- Insertion keeps each key once. -/
theorem nodup_insert {entries : Entries α} (once : (entries.map Prod.fst).Nodup) (key : String) (value : α) :
    ((insert entries key value).map Prod.fst).Nodup := by
  rw [keys_insert]
  split
  · exact once
  · rename_i fresh
    exact List.concat_eq_append ▸ once.concat fresh

theorem nodup_insertAll {entries : Entries α} (once : (entries.map Prod.fst).Nodup)
    (more : List (String × α)) : ((insertAll entries more).map Prod.fst).Nodup := by
  induction more generalizing entries with
  | nil => exact once
  | cons entry rest ih => exact ih (nodup_insert once entry.1 entry.2)

theorem nodup_ofList (entries : List (String × α)) : ((ofList entries).map Prod.fst).Nodup :=
  @nodup_insertAll α [] List.nodup_nil entries

theorem mem_insert {entries : Entries α} {key : String} {value : α}
    {entry : String × α} (member : entry ∈ insert entries key value) :
    entry ∈ entries ∨ entry = (key, value) := by
  induction entries with
  | nil => exact .inr (List.mem_singleton.mp member)
  | cons head rest ih =>
    obtain ⟨other, old⟩ := head
    rw [insert] at member
    split at member
    · rename_i same
      rcases List.mem_cons.mp member with rfl | later
      · exact .inr (by rw [beq_iff_eq.mp same])
      · exact .inl (List.mem_cons_of_mem _ later)
    · rcases List.mem_cons.mp member with rfl | later
      · exact .inl List.mem_cons_self
      · exact (ih later).imp_left (List.mem_cons_of_mem _)

theorem get?_eq_head? (entries : Entries α) (key : String) :
    get? entries key = ((entries.filter (·.1 == key)).head?).map Prod.snd := by
  induction entries with
  | nil => rfl
  | cons first rest ih =>
    obtain ⟨other, value⟩ := first
    rw [get?_cons, List.filter_cons, ih, Bool.beq_comm]
    cases other == key <;> rfl

theorem contains_iff {entries : Entries α} {key : String} :
    contains entries key = true ↔ key ∈ entries.map Prod.fst := by
  rw [contains, Option.isSome_iff_exists]
  constructor
  · rintro ⟨value, found⟩
    exact List.mem_map.mpr ⟨_, mem_of_get? found, rfl⟩
  · intro member
    obtain ⟨entry, inside, rfl⟩ := List.mem_map.mp member
    exact Option.isSome_iff_exists.mp (get?_isSome_of_mem inside)

theorem get?_eq_none_iff {entries : Entries α} {key : String} :
    get? entries key = none ↔ key ∉ entries.map Prod.fst := by
  rw [← contains_iff, contains, Bool.not_eq_true, Option.isSome_eq_false_iff, Option.isNone_iff_eq_none]

/-- Entries that come in one by one leave their keys in the order of first occurrence. -/
theorem keys_ofList (entries : List (String × α)) :
    (ofList entries).map Prod.fst = (entries.map Prod.fst).eraseDups := by
  induction entries using List.reverseRecOn with
  | nil => rfl
  | append_singleton rest entry ih =>
    have last : ofList (rest ++ [entry]) = insert (ofList rest) entry.1 entry.2 := by
      rw [ofList, insertAll, List.foldl_append]
      rfl
    rw [last, keys_insert, ih, List.map_append, List.map_singleton, List.eraseDups_concat]
    simp only [List.mem_eraseDups]

/-- Entries with the same keys in the same order are the same where the keys have the same values. -/
theorem eq_of_get? {left right : Entries α} (once : (left.map Prod.fst).Nodup)
    (keys : left.map Prod.fst = right.map Prod.fst) (values : ∀ key, get? left key = get? right key) :
    left = right := by
  induction left generalizing right with
  | nil => exact (List.map_eq_nil_iff.mp keys.symm).symm
  | cons head rest ih =>
    cases right with
    | nil => cases keys
    | cons other others =>
      obtain ⟨key, value⟩ := head
      obtain ⟨_, image⟩ := other
      obtain ⟨rfl, tail⟩ := List.cons.inj keys
      obtain ⟨fresh, once⟩ := List.nodup_cons.mp once
      have here := values key
      rw [get?_cons, get?_cons, if_pos (beq_self_eq_true key), if_pos (beq_self_eq_true key)] at here
      obtain rfl := Option.some.inj here
      refine congrArg _ (ih once tail fun name => ?_)
      by_cases same : name = key
      · subst same
        rw [get?_eq_none_iff.mpr fresh, get?_eq_none_iff.mpr (tail ▸ fresh)]
      · have later := values name
        rwa [get?_cons, get?_cons, if_neg (by simpa using same), if_neg (by simpa using same)] at later

/-- Entries whose keys stand once stay as they are. -/
theorem ofList_of_nodup {entries : List (String × α)} (once : (entries.map Prod.fst).Nodup) :
    ofList entries = entries := by
  refine eq_of_get? (nodup_ofList entries) ?_ fun key => ?_
  · rw [keys_ofList, List.eraseDups_of_nodup once]
  · rw [get?_ofList, get?_of_perm (List.reverse_perm entries).symm once]

/-- A part of the entries that come in may come in as what it leaves by itself. -/
theorem ofList_append_ofList (before inner after : List (String × α)) :
    ofList (before ++ ofList inner ++ after) = ofList (before ++ inner ++ after) := by
  have part (key : String) : get? (ofList inner).reverse key = get? inner.reverse key := by
    rw [← get?_of_perm (List.reverse_perm (ofList inner)).symm (nodup_ofList inner), get?_ofList]
  refine eq_of_get? (nodup_ofList _) ?_ fun key => ?_
  · rw [keys_ofList, keys_ofList]
    simp only [List.map_append, keys_ofList]
    exact List.eraseDups_append_eraseDups _ _ _
  · rw [get?_ofList, get?_ofList]
    simp only [List.reverse_append, get?_append, part]

theorem get?_tabulate (keys : List String) (image : String → α) (key : String) :
    get? (keys.map fun key => (key, image key)) key = if key ∈ keys then some (image key) else none := by
  induction keys with
  | nil => rfl
  | cons first rest ih =>
    rw [List.map_cons, get?_cons, ih]
    by_cases same : key = first
    · subst same
      simp
    · simp [same]

theorem insert_tabulate {keys : List String} (once : keys.Nodup) {key : String} (member : key ∈ keys)
    (image : String → α) (value : α) :
    insert (keys.map fun key => (key, image key)) key value =
      keys.map fun other => (other, Function.update image key value other) := by
  induction keys with
  | nil => cases member
  | cons first rest ih =>
    obtain ⟨fresh, once⟩ := List.nodup_cons.mp once
    rw [List.map_cons, insert]
    by_cases same : first = key
    · subst same
      rw [if_pos (beq_self_eq_true first), List.map_cons, Function.update_self]
      congr 1
      refine List.map_congr_left fun other inside => ?_
      rw [Function.update_of_ne]
      rintro rfl
      exact fresh inside
    · have later : key ∈ rest := (List.mem_cons.mp member).resolve_left (Ne.symm same)
      rw [if_neg (by simpa using same), ih once later, List.map_cons, Function.update_of_ne same]

section Grouping

variable {β : Type} {items : List (String × α)} {key : String}

def under (items : List (String × α)) (key : String) : List α := (items.filter (·.1 == key)).map Prod.snd

/-- Each key with what is made of its values, in the order in which the keys first come. -/
def grouped (wrap : List α → β) (items : List (String × α)) : Entries β :=
  (items.map Prod.fst).eraseDups.map fun key => (key, wrap (under items key))

theorem under_concat (items : List (String × α)) (name key : String) (value : α) :
    under (items ++ [(name, value)]) key = if key = name then under items key ++ [value] else under items key := by
  rw [under, List.filter_append, List.map_append]
  split
  · rename_i same
    simp [under, same]
  · rename_i differ
    simp [under, Ne.symm differ]

theorem under_of_fresh (fresh : key ∉ items.map Prod.fst) : under items key = [] := by
  rw [under, List.map_eq_nil_iff, List.filter_eq_nil_iff]
  intro item member same
  exact fresh (List.mem_map.mpr ⟨item, member, beq_iff_eq.mp same⟩)

theorem get?_grouped (wrap : List α → β) (items : List (String × α)) (key : String) :
    get? (grouped wrap items) key =
      if key ∈ items.map Prod.fst then some (wrap (under items key)) else none := by
  rw [grouped, get?_tabulate]
  simp only [List.mem_eraseDups]

theorem nodup_grouped (wrap : List α → β) (items : List (String × α)) :
    ((grouped wrap items).map Prod.fst).Nodup := by
  have keys : (grouped wrap items).map Prod.fst = (items.map Prod.fst).eraseDups := by
    rw [grouped, List.map_map]
    exact List.map_id _
  rw [keys]
  exact List.nodup_eraseDups _

/-- One more value joins those of its key, or starts a key at the end. -/
theorem alter_grouped (wrap : List α → β) {start : β} {change : β → β} {value : α} (empty : wrap [] = start)
    (more : ∀ values, change (wrap values) = wrap (values ++ [value])) (items : List (String × α))
    (name : String) : alter (grouped wrap items) name start change = grouped wrap (items ++ [(name, value)]) := by
  -- A key that is new has no values, and the start is what is made of none, so both cases change the same.
  have held : (get? (grouped wrap items) name).getD start = wrap (under items name) := by
    rw [get?_grouped]
    split
    · rfl
    · rename_i fresh
      rw [under_of_fresh fresh, empty]
      rfl
  have others {key : String} (differ : key ≠ name) : under (items ++ [(name, value)]) key = under items key := by
    rw [under_concat, if_neg differ]
  have own : under (items ++ [(name, value)]) name = under items name ++ [value] := by
    rw [under_concat, if_pos rfl]
  rw [alter, held, more, ← own, grouped, grouped, List.map_append, List.map_singleton, List.eraseDups_concat]
  split
  · rename_i known
    rw [insert_tabulate (List.nodup_eraseDups _) (List.mem_eraseDups.mpr known)]
    refine List.map_congr_left fun key _ => ?_
    by_cases same : key = name
    · rw [same, Function.update_self]
    · rw [Function.update_of_ne same, others same]
  · rename_i fresh
    rw [insert_of_fresh _ (by simpa using fresh), List.map_append, List.map_singleton]
    refine congrArg (· ++ _) (List.map_congr_left fun key member => ?_)
    rw [others]
    rintro rfl
    exact fresh (List.mem_eraseDups.mp member)

end Grouping

end Terradoc.Entries
