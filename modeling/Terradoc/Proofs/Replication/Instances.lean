import Mathlib.Data.Int.Order.Basic
import Mathlib.Data.List.Nodup
import Terradoc.Module.Settle
import Terradoc.Proofs.Lists

/-! The instances of a block: a single one without a key, one for each index below a count, or one for
each key of a collection, in order. -/

namespace Terradoc

section Numbers

open Number

theorem Number.readDigits_le {base : Nat} {negative : Bool} {start result : Int} {digits : List Char}
    (read : readDigits base negative start digits = .ok result) (bounded : start ≤ maxWord) :
    result ≤ maxWord := by
  induction digits generalizing start with
  | nil =>
    cases read
    exact bounded
  | cons digit rest ih =>
    rw [readDigits] at read
    cases found : digitIn? base digit with
    | none => rw [found] at read; cases read
    | some size =>
      rw [found] at read
      dsimp only at read
      generalize (if negative = true then start * base - size else start * base + size) = next at read
      split at read
      · cases read
      · split at read
        · cases read
        · rename_i below
          exact ih read (not_lt.mp below)

theorem Number.parseInteger_le {base : Nat} {text : String} {result : Int}
    (read : parseInteger base text = .ok result) : result ≤ maxWord := by
  have bounded : (0 : Int) ≤ maxWord := by decide
  unfold parseInteger at read
  split at read
  · cases read
  · cases read
  · cases read
  · exact readDigits_le read bounded
  · exact readDigits_le read bounded
  · exact readDigits_le read bounded

theorem Number.clampWord_le (value : Int) : clampWord value ≤ maxWord :=
  max_le (by decide) (min_le_left _ _)

theorem Number.clampWord_ofNat {value : Nat} (bounded : (value : Int) ≤ maxWord) :
    clampWord value = value := by
  rw [clampWord, min_eq_right bounded, max_eq_right]
  exact le_trans (by decide : minWord ≤ 0) (Int.natCast_nonneg value)

theorem Number.toInt?_le {number : Number} {whole : Int} (found : number.toInt? = some whole) :
    whole ≤ maxWord := by
  cases number with
  | int value =>
    cases found
    exact clampWord_le value
  | float value =>
    obtain ⟨wide, -, rfl⟩ := Option.map_eq_some_iff.mp found
    exact clampWord_le wide

end Numbers

/-- A count is a signed word. -/
theorem countOf?_le {value : Value} {count : Nat} (counted : countOf? value = some count) :
    (count : Int) ≤ Number.maxWord := by
  unfold countOf? at counted
  obtain ⟨whole, found, given⟩ := Option.bind_eq_some_iff.mp counted
  have bounded : whole ≤ Number.maxWord := by
    cases value with
    | number number => exact Number.toInt?_le found
    | string text =>
      cases read : Number.parseInteger 10 (Text.trim text) with
      | error => simp [read, Except.toOption] at found
      | ok result =>
        simp only [read, Except.toOption, Option.some.injEq] at found
        exact found ▸ Number.parseInteger_le read
    | _ => cases found
  split at given
  · rename_i positive
    cases given
    rwa [Int.toNat_of_nonneg positive]
  · cases given

section Keys

variable {α : Type}

theorem dropRepeats_sublist (entries : List (String × Value)) : (dropRepeats entries).Sublist entries := by
  induction entries with
  | nil => exact .slnil
  | cons entry rest ih =>
    rw [dropRepeats]
    cases kept : dropRepeats rest with
    | nil => exact (List.nil_sublist rest).cons_cons entry
    | cons next others =>
      rw [kept] at ih
      dsimp only
      split
      · exact (List.sublist_of_cons_sublist ih).cons_cons entry
      · exact ih.cons_cons entry

/-- Sorted entries without repeats have ascending keys. -/
theorem dropRepeats_ascending {entries : List (String × Value)}
    (sorted : entries.Pairwise fun left right => ¬ right.1 < left.1) :
    (dropRepeats entries).Pairwise fun left right => left.1 < right.1 := by
  induction entries with
  | nil => exact .nil
  | cons entry rest ih =>
    obtain ⟨first, later⟩ := List.pairwise_cons.mp sorted
    have ascending := ih later
    have subset := (dropRepeats_sublist rest).subset
    rw [dropRepeats]
    cases kept : dropRepeats rest with
    | nil => exact List.pairwise_singleton _ _
    | cons next others =>
      rw [kept] at ascending subset
      obtain ⟨below, tail⟩ := List.pairwise_cons.mp ascending
      have start : entry.1 ≤ next.1 := String.not_lt.mp (first next (subset List.mem_cons_self))
      dsimp only
      split
      · rename_i same
        refine List.pairwise_cons.mpr ⟨fun other member => ?_, tail⟩
        exact beq_iff_eq.mp same ▸ below other member
      · rename_i differ
        have strict : entry.1 < next.1 := String.not_le.mp fun other =>
          differ (beq_iff_eq.mpr (String.le_antisymm start other))
        refine List.pairwise_cons.mpr ⟨fun other member => ?_, ascending⟩
        rcases List.mem_cons.mp member with rfl | further
        · exact strict
        · exact String.lt_trans strict (below other further)

theorem sorted_byKey (entries : List (String × α)) :
    (entries.mergeSort fun left right => !(right.1 < left.1)).Pairwise
      fun left right => ¬ right.1 < left.1 :=
  (pairwise_mergeSort_texts Prod.fst entries).imp String.not_lt.mpr

theorem replicationEntries_ascending {value : Value} {entries : List (String × Value)}
    (found : replicationEntries value = .ok entries) :
    entries.Pairwise fun left right => left.1 < right.1 := by
  unfold replicationEntries at found
  split at found
  · cases found
    exact dropRepeats_ascending (sorted_byKey _)
  · rename_i items
    cases texts : items.mapM itemEntry with
    | error => rw [texts] at found; cases found
    | ok all =>
      rw [texts] at found
      cases found
      exact dropRepeats_ascending (sorted_byKey all)
  · cases found

end Keys

/-- What the instances of a block can be. -/
inductive Replicated : List Instance → Prop where
  | single (inst : Instance) (unkeyed : inst.key = none) : Replicated [inst]
  | counted (count : Nat) (bounded : (count : Int) ≤ Number.maxWord) :
      Replicated ((List.range count).map Instance.indexed)
  | keyed (entries : List (String × Value))
      (ascending : entries.Pairwise fun left right => left.1 < right.1) :
      Replicated (entries.map Instance.keyed)

theorem countInstances_replicated {value : Value} {all : List Instance}
    (made : countInstances value = .ok all) : Replicated all := by
  unfold countInstances at made
  split at made
  · cases made
    exact .single _ rfl
  · cases made
    exact .single _ rfl
  · split at made
    · rename_i counted
      cases made
      exact .counted _ (countOf?_le counted)
    · cases made

theorem entryInstances_replicated {value : Value} {all : List Instance}
    (made : entryInstances value = .ok all) : Replicated all := by
  unfold entryInstances at made
  split at made
  · cases made
    exact .single _ rfl
  · cases made
    exact .single _ rfl
  · cases found : replicationEntries value with
    | error => rw [found] at made; cases made
    | ok entries =>
      rw [found] at made
      cases made
      exact .keyed entries (replicationEntries_ascending found)

theorem instances_replicated {body : Body} {env : Environment} {all : List Instance}
    (made : instances body env = .ok all) : Replicated all := by
  unfold instances at made
  split at made
  · cases made
  · rename_i count _ _
    cases asked : replicationValue env count with
    | error => rw [asked] at made; cases made
    | ok value => rw [asked] at made; exact countInstances_replicated made
  · rename_i collection _ _
    cases asked : replicationValue env collection with
    | error => rw [asked] at made; cases made
    | ok value => rw [asked] at made; exact entryInstances_replicated made
  · cases made
    exact .single _ rfl

theorem instancesOrSingle_replicated (env : Environment) (body : Body) :
    Replicated (instancesOrSingle env body) := by
  unfold instancesOrSingle
  cases made : instances body env with
  | error => exact .single _ rfl
  | ok all => exact instances_replicated made

/-- The suffixes of the paths of the instances of a block are different. -/
theorem Replicated.suffixes_nodup {all : List Instance} (replicated : Replicated all) :
    (all.map fun inst => keySuffix inst.key).Nodup := by
  cases replicated with
  | single inst => exact List.nodup_singleton _
  | counted count bounded =>
    rw [List.map_map]
    refine List.Nodup.map (fun left right same => ?_) List.nodup_range
    have digits : toString left = toString right := by
      have texts : "[" ++ toString left ++ "]" = "[" ++ toString right ++ "]" := same
      rwa [String.append_left_inj, String.append_right_inj] at texts
    have read := congrArg (fun text => Nat.ofDigitChars 10 text.toList 0) digits
    simpa using read
  | keyed entries ascending =>
    rw [List.map_map, List.Nodup, List.pairwise_map]
    refine ascending.imp fun {left right} below same => ?_
    have texts : "[\"" ++ left.1 ++ "\"]" = "[\"" ++ right.1 ++ "\"]" := same
    rw [String.append_left_inj, String.append_right_inj] at texts
    exact String.lt_irrefl _ (texts ▸ below)

section Keys

variable {all : List Instance} (replicated : Replicated all) (keyed : ∀ inst ∈ all, inst.key.isSome)
include replicated

/-- Different instances of a block have different keys. -/
theorem Replicated.keys_nodup : (all.map Instance.key).Nodup := by
  have suffixes : (all.map (keySuffix ∘ Instance.key)).Nodup := replicated.suffixes_nodup
  rw [← List.map_map] at suffixes
  exact suffixes.of_map keySuffix

/-- An index of an instance is one of a signed word. -/
theorem Replicated.index_lt {inst : Instance} (member : inst ∈ all) {index : Nat}
    (key : inst.key = some (.index index)) : (index : Int) < Number.maxWord := by
  cases replicated with
  | single inst unkeyed =>
    obtain rfl := List.mem_singleton.mp member
    cases unkeyed.symm.trans key
  | counted count bounded =>
    obtain ⟨position, below, rfl⟩ := List.mem_map.mp member
    cases key
    exact lt_of_lt_of_le (Int.ofNat_lt.mpr (List.mem_range.mp below)) bounded
  | keyed entries =>
    obtain ⟨entry, -, rfl⟩ := List.mem_map.mp member
    cases key

include keyed

/-- Instances with keys have their places as indices, or they have names. -/
theorem Replicated.indexed_or_named :
    (∀ (place : Nat) (inst : Instance), all[place]? = some inst → inst.key = some (.index place)) ∨
      ∀ inst ∈ all, ∃ name, inst.key = some (.key name) := by
  cases replicated with
  | single inst unkeyed =>
    have present := keyed inst (List.mem_singleton_self inst)
    rw [unkeyed] at present
    cases present
  | counted count =>
    refine .inl fun place inst found => ?_
    rw [List.getElem?_map] at found
    obtain ⟨position, here, rfl⟩ := Option.map_eq_some_iff.mp found
    obtain ⟨_, same⟩ := List.getElem?_eq_some_iff.mp here
    rw [List.getElem_range] at same
    rw [same, Instance.indexed]
  | keyed entries =>
    refine .inr fun inst member => ?_
    obtain ⟨entry, -, rfl⟩ := List.mem_map.mp member
    exact ⟨entry.1, rfl⟩

end Keys

section Collected

/-- Values under indices make a list. -/
theorem collectInstances_of_indices {entries : List (Option InstanceKey × Value)}
    (indices : ∀ entry ∈ entries, ∃ index, entry.1 = some (.index index)) :
    collectInstances entries = .list (entries.map Prod.snd) := by
  cases entries with
  | nil => rfl
  | cons first rest =>
    obtain ⟨key, value⟩ := first
    obtain ⟨index, same⟩ := indices _ List.mem_cons_self
    obtain rfl : key = some (.index index) := same
    rfl

/-- Values under names make a map of them. -/
theorem collectInstances_of_names {entries : List (Option InstanceKey × Value)} (filled : entries ≠ [])
    (names : ∀ entry ∈ entries, ∃ name, entry.1 = some (.key name)) :
    ∃ fields, collectInstances entries = .map (Entries.ofList fields) ∧
      ∀ name value, (name, value) ∈ fields ↔ (some (.key name), value) ∈ entries := by
  cases entries with
  | nil => exact absurd rfl filled
  | cons first rest =>
    obtain ⟨key, value⟩ := first
    obtain ⟨name, same⟩ := names _ List.mem_cons_self
    obtain rfl : key = some (.key name) := same
    refine ⟨_, rfl, fun name value => ?_⟩
    rw [List.mem_filterMap]
    constructor
    · rintro ⟨⟨key, other⟩, member, kept⟩
      split at kept
      · rename_i same
        cases kept
        cases same
        exact member
      · cases kept
    · intro member
      exact ⟨_, member, rfl⟩

end Collected

section Iterations

variable {env : Environment}

theorem Instance.environment_keyed (uncounted : env.count = none) (entry : String × Value) :
    (Instance.keyed entry).environment env = env.withEach (.string entry.1) entry.2 := by
  rw [environment, Environment.withEach, uncounted]
  rfl

theorem Instance.environment_indexed (outside : env.each = none) (index : Nat) :
    (Instance.indexed index).environment env = env.withCount (.ofNat index) := by
  rw [environment, Environment.withCount, outside]
  rfl

/-- References to `each` in the instance of an entry are to that entry. -/
theorem Instance.eval_each (session : Session) (scope : Scope) (entry : String × Value) :
    let env := (Instance.keyed entry).environment (session.environment scope)
    (Expr.traversal (.variable "each") [.attribute "key"]).eval env = .ok (.string entry.1) ∧
      (Expr.traversal (.variable "each") [.attribute "value"]).eval env = .ok entry.2 := by
  dsimp only
  rw [environment_keyed rfl]
  exact ⟨rfl, rfl⟩

/-- A reference to the index in a counted instance is to its own index. -/
theorem Instance.eval_count (session : Session) (scope : Scope) (index : Nat) :
    (Expr.traversal (.variable "count") [.attribute "index"]).eval
      ((Instance.indexed index).environment (session.environment scope)) = .ok (.ofNat index) := by
  rw [environment_indexed rfl]
  rfl

end Iterations

end Terradoc
