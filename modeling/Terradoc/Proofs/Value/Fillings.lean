import Terradoc.Proofs.Information.Value
import Terradoc.Proofs.Lists
import Terradoc.Proofs.Value.Equality

/-! Equality of values that hold unknowns, as an answer that may be open: what it says is what all ways to
fill in the unknowns agree on, and where it says nothing both answers can be reached. -/

namespace Terradoc.Value

/-- Whether both of two questions have the answer yes, as far as it is known. -/
def both : Option Bool → Option Bool → Option Bool
  | some false, _ | _, some false => some false
  | some true, some true => some true
  | _, _ => none

mutual
/-- Whether two values are equal, as far as that does not depend on unknowns. -/
def decided : Value → Value → Option Bool
  | unknown _, _ | _, unknown _ => none
  | list left, list right => decidedItems left right
  | map left, map right =>
    if left.length = right.length then decidedEntries left right else some false
  | left, right => some (equal left right)

/-- Whether two lists hold equal values, as far as that does not depend on unknowns. -/
def decidedItems : List Value → List Value → Option Bool
  | [], [] => some true
  | left :: lefts, right :: rights => both (decided left right) (decidedItems lefts rights)
  | _, _ => some false

/-- Whether every entry of the first map has an equal one in the second, as far as that does not depend
on unknowns. -/
def decidedEntries : Entries Value → Entries Value → Option Bool
  | [], _ => some true
  | (key, value) :: rest, other =>
    both (match Entries.get? other key with
      | some found => decided value found
      | none => some false) (decidedEntries rest other)
end

def Agrees (known : Option Bool) (answer : Bool) : Prop := ∀ value, known = some value → answer = value

theorem Agrees.open (answer : Bool) : Agrees none answer := nofun

theorem Agrees.self (answer : Bool) : Agrees (some answer) answer := fun _ same => Option.some.inj same

theorem Agrees.both {first second : Option Bool} {left right : Bool} (head : Agrees first left)
    (tail : Agrees second right) : Agrees (both first second) (left && right) := by
  cases first with
  | none =>
    rcases second with _ | (_ | _)
    · exact Agrees.open _
    · rw [tail false rfl, Bool.and_false]
      exact Agrees.self false
    · exact Agrees.open _
  | some value =>
    obtain rfl := head value rfl
    cases left with
    | false => exact Agrees.self false
    | true =>
      rcases second with _ | (_ | _)
      · exact Agrees.open _
      · rw [tail false rfl]
        exact Agrees.self false
      · rw [tail true rfl]
        exact Agrees.self true

theorem both_ne_false {first second : Option Bool} (maybe : both first second ≠ some false) :
    first ≠ some false ∧ second ≠ some false := by
  refine ⟨?_, ?_⟩
  · rintro rfl
    exact maybe rfl
  · rintro rfl
    rcases first with _ | (_ | _) <;> exact maybe rfl

theorem both_ne_true {first second : Option Bool} (doubt : both first second ≠ some true) :
    first ≠ some true ∨ second ≠ some true := by
  by_contra sure
  push Not at sure
  obtain ⟨rfl, rfl⟩ := sure
  exact doubt rfl

/-- Two values that are not unknown and are not two lists or two maps. -/
structure Apart (left right : Value) : Prop where
  known : left.isUnknown = false
  known' : right.isUnknown = false
  lists : ∀ items others, ¬ (left = list items ∧ right = list others)
  maps : ∀ entries others, ¬ (left = map entries ∧ right = map others)

namespace Apart

variable {left right : Value} (apart : Apart left right)

include apart

theorem decided_eq : decided left right = some (equal left right) := by
  obtain ⟨known, known', lists, maps⟩ := apart
  cases left <;> cases right <;> first | rfl | simp [isUnknown] at known known' lists maps

/-- Nothing can be filled in that counts. -/
theorem equal_eq {filled filled' : Value} (below : left.Below filled) (below' : right.Below filled') :
    equal filled filled' = equal left right := by
  obtain ⟨known, known', lists, maps⟩ := apart
  cases below <;> cases below' <;> first | rfl | simp [isUnknown] at known known' lists maps

theorem agrees {filled filled' : Value} (below : left.Below filled) (below' : right.Below filled') :
    Agrees (decided left right) (equal filled filled') := by
  rw [apart.decided_eq, apart.equal_eq below below']
  exact Agrees.self _

end Apart

private theorem decidedItems_agrees {left right filled filled' : List Value}
    (ih : ∀ item ∈ left, ∀ {other image image' : Value}, item.Below image → other.Below image' →
      Agrees (decided item other) (equal image image'))
    (below : List.Forall₂ Below left filled) (below' : List.Forall₂ Below right filled') :
    Agrees (decidedItems left right) (equalItems filled filled') := by
  induction below generalizing right filled' with
  | nil => cases below' <;> exact Agrees.self _
  | cons head tail next =>
    cases below' with
    | nil => exact Agrees.self false
    | cons head' tail' =>
      obtain ⟨first, rest⟩ := List.forall_mem_cons.mp ih
      exact (first head head').both (next rest tail')

private theorem decidedEntries_agrees {left right filled filled' : Entries Value}
    (ih : ∀ entry ∈ left, ∀ {other image image' : Value}, entry.2.Below image → other.Below image' →
      Agrees (decided entry.2 other) (equal image image'))
    (below : EntriesBelow left filled) (below' : EntriesBelow right filled') :
    Agrees (decidedEntries left right) (equalEntries filled filled') := by
  induction below with
  | nil => exact Agrees.self true
  | cons head tail next =>
    obtain ⟨first, rest⟩ := List.forall_mem_cons.mp ih
    cases head with
    | entry key value =>
      refine Agrees.both ?_ (next rest)
      rcases rel_cases (below'.get? key) with ⟨_, _, here, there, value'⟩ | ⟨here, there⟩
      · rw [here, there]
        exact first value value'
      · rw [here, there]
        exact Agrees.self false

/-- Filling in unknowns does not change what is decided. -/
theorem decided_agrees {left right filled filled' : Value} (formed : left.Formed)
    (below : left.Below filled) (below' : right.Below filled') :
    Agrees (decided left right) (equal filled filled') := by
  induction formed generalizing right filled filled' with
  | unknown =>
    rw [decided]
    exact Agrees.open _
  | list _ ih =>
    have whole := below'
    cases below' with
    | unknown => exact Agrees.open _
    | list others =>
      cases below with
      | list items => exact decidedItems_agrees ih items others
    | _ => exact Apart.agrees ⟨rfl, rfl, by simp, by simp⟩ below whole
  | map _ _ ih =>
    have whole := below'
    cases below' with
    | unknown => exact Agrees.open _
    | @map _ filled' others =>
      cases below with
      | @map _ filled entries =>
        rw [decided, equal, entries.length_eq, others.length_eq]
        by_cases size : filled.length = filled'.length
        · rw [if_pos size, beq_iff_eq.mpr size, Bool.true_and]
          exact decidedEntries_agrees ih entries others
        · rw [if_neg size, beq_eq_false_iff_ne.mpr size]
          exact Agrees.self false
    | _ => exact Apart.agrees ⟨rfl, rfl, by simp, by simp⟩ below whole
  | null | bool | number | string =>
    rcases right.unknown_or_known with ⟨marker, rfl⟩ | known
    · exact Agrees.open _
    · exact Apart.agrees ⟨rfl, known, by simp, by simp⟩ below below'

/-- The second value is the first one with all of its unknowns filled in. -/
structure Completes (value filled : Value) : Prop where
  below : value.Below filled
  formed : filled.Formed
  known : filled.unknowns = []

/-- The same key with a value that is the first one with all of its unknowns filled in. -/
structure EntryCompletes (entry filled : String × Value) : Prop where
  key : filled.1 = entry.1
  value : Completes entry.2 filled.2

theorem Completes.list {items filled : List Value} (all : List.Forall₂ Completes items filled) :
    Completes (list items) (list filled) where
  below := .list (all.imp fun _ _ one => one.below)
  formed := .list (forall_of_forall₂ all fun _ _ one => one.formed)
  known := unknownsOfItems_eq_nil_iff.mpr (forall_of_forall₂ all fun _ _ one => one.known)

theorem EntryCompletes.below {entry filled : String × Value} (one : EntryCompletes entry filled) :
    EntryBelow entry filled := by
  obtain ⟨key, value⟩ := entry
  obtain ⟨other, image⟩ := filled
  obtain rfl : other = key := one.key
  exact .entry other one.value.below

theorem keys_of_below {left right : Entries Value} (below : EntriesBelow left right) :
    right.map Prod.fst = left.map Prod.fst := by
  induction below with
  | nil => rfl
  | cons head tail ih =>
    cases head with
    | entry key value => simp [ih]

theorem Completes.map {entries filled : Entries Value} (once : (entries.map Prod.fst).Nodup)
    (all : List.Forall₂ EntryCompletes entries filled) : Completes (map entries) (map filled) where
  below := .map (all.imp fun _ _ one => one.below)
  formed := by
    refine .map ?_ (forall_of_forall₂ all fun _ _ one => one.value.formed)
    rwa [keys_of_below (all.imp fun _ _ one => one.below)]
  known := unknownsOfEntries_eq_nil_iff.mpr (forall_of_forall₂ all fun _ _ one => one.value.known)

private theorem exists_entries {entries : Entries Value}
    (each : ∀ entry ∈ entries, ∃ filled, Completes entry.2 filled) :
    ∃ filled, List.Forall₂ EntryCompletes entries filled := by
  refine exists_forall₂ fun entry member => ?_
  obtain ⟨filled, one⟩ := each entry member
  exact ⟨(entry.1, filled), rfl, one⟩

/-- All unknowns of a value can be filled in. -/
theorem exists_completes {value : Value} (formed : value.Formed) : ∃ filled, Completes value filled := by
  induction formed with
  | unknown marker => exact ⟨null, .unknown marker _, .null, rfl⟩
  | list _ ih =>
    obtain ⟨filled, all⟩ := exists_forall₂ ih
    exact ⟨_, .list all⟩
  | @map entries once _ ih =>
    obtain ⟨filled, all⟩ := exists_entries ih
    exact ⟨_, .map once all⟩
  | null => exact ⟨_, .refl _, .null, rfl⟩
  | bool value => exact ⟨_, .refl _, .bool value, rfl⟩
  | number finite => exact ⟨_, .refl _, .number finite, rfl⟩
  | string value => exact ⟨_, .refl _, .string value, rfl⟩

/-- Some way to fill in all unknowns of two values answers whether they are equal. -/
def Reachable (left right : Value) (answer : Bool) : Prop :=
  ∃ filled filled', Completes left filled ∧ Completes right filled' ∧ equal filled filled' = answer

/-- Some way to fill in all unknowns of two lists answers whether their items are equal. -/
def ItemsReachable (left right : List Value) (answer : Bool) : Prop :=
  ∃ filled filled', List.Forall₂ Completes left filled ∧ List.Forall₂ Completes right filled' ∧
    equalItems filled filled' = answer

/-- Some way to fill in all unknowns of two maps answers whether the second has the entries of the first. -/
def EntriesReachable (left right : Entries Value) (answer : Bool) : Prop :=
  ∃ filled filled', List.Forall₂ EntryCompletes left filled ∧ List.Forall₂ EntryCompletes right filled' ∧
    equalEntries filled filled' = answer

/-- Against every other value, the answers that are not ruled out can be reached. -/
def Answerable (value : Value) : Prop :=
  ∀ other : Value, other.Formed → ∀ answer, decided value other ≠ some !answer →
    Reachable value other answer

private theorem exists_all_complete {items : List Value} (formed : ∀ item ∈ items, item.Formed) :
    ∃ filled, List.Forall₂ Completes items filled :=
  exists_forall₂ fun item member => exists_completes (formed item member)

private theorem items_reach_true {left right : List Value} (answers : ∀ item ∈ left, Answerable item)
    (formed : ∀ item ∈ right, item.Formed) (maybe : decidedItems left right ≠ some false) :
    ItemsReachable left right true := by
  induction left generalizing right with
  | nil =>
    cases right with
    | nil => exact ⟨[], [], .nil, .nil, rfl⟩
    | cons => exact absurd rfl maybe
  | cons head tail ih =>
    cases right with
    | nil => exact absurd rfl maybe
    | cons head' tail' =>
      obtain ⟨first, rest⟩ := List.forall_mem_cons.mp answers
      obtain ⟨shape, shapes⟩ := List.forall_mem_cons.mp formed
      obtain ⟨start, more⟩ := both_ne_false maybe
      obtain ⟨one, one', completes, completes', equals⟩ := first head' shape true start
      obtain ⟨others, others', all, all', equals'⟩ := ih rest shapes more
      exact ⟨one :: others, one' :: others', .cons completes all, .cons completes' all',
        by rw [equalItems, equals, equals']; rfl⟩

private theorem items_reach_false {left right : List Value} (answers : ∀ item ∈ left, Answerable item)
    (formed : ∀ item ∈ left, item.Formed) (formed' : ∀ item ∈ right, item.Formed)
    (doubt : decidedItems left right ≠ some true) : ItemsReachable left right false := by
  induction left generalizing right with
  | nil =>
    cases right with
    | nil => exact absurd rfl doubt
    | cons =>
      obtain ⟨filled, all⟩ := exists_all_complete formed'
      cases all with
      | cons head tail => exact ⟨[], _, .nil, .cons head tail, rfl⟩
  | cons head tail ih =>
    cases right with
    | nil =>
      obtain ⟨filled, all⟩ := exists_all_complete formed
      cases all with
      | cons head tail => exact ⟨_, [], .cons head tail, .nil, rfl⟩
    | cons head' tail' =>
      obtain ⟨first, rest⟩ := List.forall_mem_cons.mp answers
      obtain ⟨shape, shapes⟩ := List.forall_mem_cons.mp formed
      obtain ⟨shape', shapes'⟩ := List.forall_mem_cons.mp formed'
      rcases both_ne_true doubt with start | more
      · obtain ⟨one, one', completes, completes', differ⟩ := first head' shape' false start
        obtain ⟨others, all⟩ := exists_all_complete shapes
        obtain ⟨others', all'⟩ := exists_all_complete shapes'
        exact ⟨one :: others, one' :: others', .cons completes all, .cons completes' all',
          by rw [equalItems, differ]; rfl⟩
      · obtain ⟨one, completes⟩ := exists_completes shape
        obtain ⟨one', completes'⟩ := exists_completes shape'
        obtain ⟨others, others', all, all', differ⟩ := ih rest shapes shapes' more
        exact ⟨one :: others, one' :: others', .cons completes all, .cons completes' all',
          by rw [equalItems, differ, Bool.and_false]⟩

private theorem found_of_decidedEntries {left right : Entries Value}
    (maybe : decidedEntries left right ≠ some false) :
    ∀ entry ∈ left, ∃ found, Entries.get? right entry.1 = some found ∧
      decided entry.2 found ≠ some false := by
  induction left with
  | nil => simp
  | cons head tail ih =>
    obtain ⟨first, rest⟩ := both_ne_false maybe
    refine List.forall_mem_cons.mpr ⟨?_, ih rest⟩
    cases found : Entries.get? right head.1 with
    | none => exact absurd rfl (found ▸ first)
    | some value => exact ⟨value, rfl, by simpa [found] using first⟩

private theorem doubt_of_decidedEntries {left right : Entries Value}
    (doubt : decidedEntries left right ≠ some true) :
    ∃ entry ∈ left, ∀ found, Entries.get? right entry.1 = some found →
      decided entry.2 found ≠ some true := by
  induction left with
  | nil => exact absurd rfl doubt
  | cons head tail ih =>
    rcases both_ne_true doubt with first | rest
    · refine ⟨head, List.mem_cons_self, fun found present => ?_⟩
      rwa [present] at first
    · obtain ⟨entry, inside, differs⟩ := ih rest
      exact ⟨entry, List.mem_cons_of_mem _ inside, differs⟩

/-- The entries of a map, completed; the values under the keys of another map as it is said. -/
private theorem exists_entries_complete {entries others : Entries Value}
    (formed : ∀ entry ∈ entries, entry.2.Formed) (once : (others.map Prod.fst).Nodup)
    (choice : String → Value → Value → Value)
    (fits : ∀ key value other, (key, value) ∈ entries → (key, other) ∈ others →
      Completes value (choice key value other)) :
    ∃ filled, List.Forall₂ (fun entry image => EntryCompletes entry image ∧
      ∀ other, (entry.1, other) ∈ others → image.2 = choice entry.1 entry.2 other) entries filled := by
  refine exists_forall₂ ?_
  rintro ⟨key, value⟩ member
  by_cases present : ∃ other, (key, other) ∈ others
  · obtain ⟨other, inside⟩ := present
    refine ⟨(key, choice key value other), ⟨rfl, fits key value other member inside⟩, ?_⟩
    intro found inside'
    rw [← Entries.get?_eq_some_iff once] at inside inside'
    rw [Option.some.inj (inside.symm.trans inside')]
  · obtain ⟨filled, completes⟩ := exists_completes (formed (key, value) member)
    exact ⟨(key, filled), ⟨rfl, completes⟩, fun other inside => absurd ⟨other, inside⟩ present⟩

section Maps

variable {left right : Entries Value} (formed : ∀ entry ∈ left, entry.2.Formed)
  (formed' : ∀ entry ∈ right, entry.2.Formed) (once : (left.map Prod.fst).Nodup)
  (once' : (right.map Prod.fst).Nodup)

include formed formed' once once'

/-- Two maps, completed so that the values under each key that they share answer as they should. -/
private theorem entries_complete_together {wanted : String → Bool → Prop}
    (reach : ∀ key value other, (key, value) ∈ left → (key, other) ∈ right →
      ∃ answer, wanted key answer ∧ Reachable value other answer) :
    ∃ filled filled', List.Forall₂ EntryCompletes left filled ∧
      List.Forall₂ EntryCompletes right filled' ∧
      ∀ key value other, (key, value) ∈ filled → (key, other) ∈ filled' →
        wanted key (equal value other) := by
  have pairs : ∀ key value other, (key, value) ∈ left → (key, other) ∈ right →
      ∃ image image', Completes value image ∧ Completes other image' ∧ wanted key (equal image image') := by
    intro key value other inside inside'
    obtain ⟨_, good, image, image', completes, completes', rfl⟩ := reach key value other inside inside'
    exact ⟨image, image', completes, completes', good⟩
  -- a key tells the values of both maps, so that what is filled in can be chosen by key
  choose! first second completes completes' good using pairs
  obtain ⟨filled, all⟩ := exists_entries_complete formed once' first completes
  obtain ⟨filled', all'⟩ := exists_entries_complete formed' once
    (fun key other value => second key value other)
    fun key other value inside' inside => completes' key value other inside inside'
  refine ⟨filled, filled', all.imp fun _ _ one => one.1, all'.imp fun _ _ one => one.1, ?_⟩
  intro key image image' member member'
  obtain ⟨⟨_, value⟩, inside, ⟨rfl, _⟩, chosen⟩ := exists_of_forall₂ all member
  obtain ⟨⟨_, other⟩, inside', ⟨rfl, _⟩, chosen'⟩ := exists_of_forall₂ all' member'
  have here : image = first _ value other := chosen other inside'
  have there : image' = second _ value other := chosen' value inside
  rw [here, there]
  exact good _ value other inside inside'

variable (answers : ∀ entry ∈ left, Answerable entry.2)

include answers

private theorem entries_reach_true (maybe : decidedEntries left right ≠ some false) :
    EntriesReachable left right true := by
  have shared := found_of_decidedEntries maybe
  obtain ⟨filled, filled', all, all', good⟩ :=
    @entries_complete_together left right formed formed' once once' (fun _ answer => answer = true) <| by
      intro key value other inside inside'
      obtain ⟨found, present, maybe⟩ := shared (key, value) inside
      rw [(Entries.get?_eq_some_iff once').mpr inside'] at present
      obtain rfl := Option.some.inj present
      exact ⟨true, rfl, answers (key, value) inside other (formed' (key, other) inside') true maybe⟩
  refine ⟨filled, filled', all, all', equalEntries_iff.mpr ?_⟩
  rintro ⟨key, value⟩ member
  obtain ⟨⟨_, old⟩, inside, ⟨rfl, _⟩⟩ := exists_of_forall₂ all member
  obtain ⟨found, present, _⟩ := shared _ inside
  have images := EntriesBelow.get? (all'.imp fun _ _ one => one.below) key
  rcases rel_cases images with ⟨_, other, _, there, _⟩ | ⟨here, _⟩
  · exact ⟨other, there, good key value other member (Entries.mem_of_get? there)⟩
  · exact absurd (here.symm.trans present) nofun

private theorem entries_reach_false (doubt : decidedEntries left right ≠ some true) :
    EntriesReachable left right false := by
  obtain ⟨⟨key, value⟩, inside, differs⟩ := doubt_of_decidedEntries doubt
  obtain ⟨filled, filled', all, all', good⟩ := @entries_complete_together left right formed formed'
      once once' (fun name answer => name = key → answer = false) <| by
    intro name first second member member'
    by_cases here : name = key
    · subst here
      have same : some first = some value := by
        rw [← (Entries.get?_eq_some_iff once).mpr member, (Entries.get?_eq_some_iff once).mpr inside]
      obtain rfl := Option.some.inj same
      exact ⟨false, fun _ => rfl, answers _ inside second (formed' _ member') false
        (differs second ((Entries.get?_eq_some_iff once').mpr member'))⟩
    · obtain ⟨image, completes⟩ := exists_completes (formed _ member)
      obtain ⟨image', completes'⟩ := exists_completes (formed' _ member')
      exact ⟨_, fun same => absurd same here, image, image', completes, completes', rfl⟩
  refine ⟨filled, filled', all, all', Bool.eq_false_iff.mpr fun equals => ?_⟩
  obtain ⟨⟨_, image⟩, member, ⟨rfl, _⟩⟩ := exists_of_forall₂ all.flip inside
  obtain ⟨other, present, same⟩ := equalEntries_iff.mp equals _ member
  have differ := good _ image other member (Entries.mem_of_get? present) rfl
  exact absurd same (by simp [differ])

end Maps

theorem Apart.reach {left right : Value} (apart : Apart left right) (formed : left.Formed)
    (formed' : right.Formed) {answer : Bool} (possible : decided left right ≠ some !answer) :
    Reachable left right answer := by
  obtain ⟨filled, completes⟩ := exists_completes formed
  obtain ⟨filled', completes'⟩ := exists_completes formed'
  refine ⟨filled, filled', completes, completes', ?_⟩
  rw [apart.equal_eq completes.below completes'.below]
  rw [apart.decided_eq] at possible
  cases equals : equal left right <;> cases answer <;> simp [equals] at possible ⊢

/-- Some value is equal to a given one, and some other is not. -/
private theorem exists_answer {value : Value} (formed : value.Formed) (known : value.unknowns = [])
    (answer : Bool) : ∃ other : Value, other.Formed ∧ other.unknowns = [] ∧
      equal other value = answer ∧ equal value other = answer := by
  cases answer with
  | true => exact ⟨value, formed, known, equal_refl formed, equal_refl formed⟩
  | false =>
    cases value with
    | null => exact ⟨bool true, .bool true, rfl, rfl, rfl⟩
    | _ => exact ⟨null, .null, rfl, rfl, rfl⟩

private theorem reach_of_unknown (marker : Unknown) {value : Value} (formed : value.Formed)
    (answer : Bool) : Reachable (unknown marker) value answer ∧ Reachable value (unknown marker) answer := by
  obtain ⟨filled, completes⟩ := exists_completes formed
  obtain ⟨other, shape, known, equals, equals'⟩ := exists_answer completes.formed completes.known answer
  have free : Completes (unknown marker) other := ⟨.unknown marker other, shape, known⟩
  exact ⟨⟨other, filled, free, completes, equals⟩, ⟨filled, other, completes, free, equals'⟩⟩

private theorem lists_reach {left right : List Value} (answers : ∀ item ∈ left, Answerable item)
    (formed : ∀ item ∈ left, item.Formed) (formed' : ∀ item ∈ right, item.Formed) {answer : Bool}
    (possible : decided (list left) (list right) ≠ some !answer) :
    Reachable (list left) (list right) answer := by
  rw [decided] at possible
  have items : ItemsReachable left right answer := by
    cases answer with
    | true => exact items_reach_true answers formed' possible
    | false => exact items_reach_false answers formed formed' possible
  obtain ⟨filled, filled', all, all', equals⟩ := items
  exact ⟨_, _, .list all, .list all', equals⟩

private theorem maps_reach {left right : Entries Value} (answers : ∀ entry ∈ left, Answerable entry.2)
    (formed : ∀ entry ∈ left, entry.2.Formed) (formed' : ∀ entry ∈ right, entry.2.Formed)
    (once : (left.map Prod.fst).Nodup) (once' : (right.map Prod.fst).Nodup) {answer : Bool}
    (possible : decided (map left) (map right) ≠ some !answer) :
    Reachable (map left) (map right) answer := by
  rw [decided] at possible
  by_cases size : left.length = right.length
  · rw [if_pos size] at possible
    have entries : EntriesReachable left right answer := by
      cases answer with
      | true => exact entries_reach_true formed formed' once once' answers possible
      | false => exact entries_reach_false formed formed' once once' answers possible
    obtain ⟨filled, filled', all, all', equals⟩ := entries
    refine ⟨_, _, .map once all, .map once' all', ?_⟩
    rw [equal, ← all.length_eq, ← all'.length_eq, beq_iff_eq.mpr size, equals, Bool.true_and]
  · rw [if_neg size] at possible
    obtain ⟨filled, all⟩ := exists_entries fun entry member => exists_completes (formed entry member)
    obtain ⟨filled', all'⟩ := exists_entries fun entry member => exists_completes (formed' entry member)
    refine ⟨_, _, .map once all, .map once' all', ?_⟩
    rw [equal, ← all.length_eq, ← all'.length_eq, beq_eq_false_iff_ne.mpr size, Bool.false_and]
    cases answer with
    | true => exact absurd rfl possible
    | false => rfl

/-- Whatever is not decided can come out either way. -/
theorem answerable_of_formed {value : Value} (formed : value.Formed) : Answerable value := by
  have whole := formed
  induction formed with
  | unknown marker => exact fun _ formed answer _ => (reach_of_unknown marker formed answer).1
  | list below ih =>
    intro other formed answer possible
    have whole' := formed
    cases formed with
    | unknown marker => exact (reach_of_unknown marker whole answer).2
    | list below' =>
      exact lists_reach (fun item member => ih item member (below item member)) below below' possible
    | _ => exact Apart.reach ⟨rfl, rfl, by simp, by simp⟩ whole whole' possible
  | map once below ih =>
    intro other formed answer possible
    have whole' := formed
    cases formed with
    | unknown marker => exact (reach_of_unknown marker whole answer).2
    | map once' below' =>
      exact maps_reach (fun entry member => ih entry member (below entry member)) below below' once once'
        possible
    | _ => exact Apart.reach ⟨rfl, rfl, by simp, by simp⟩ whole whole' possible
  | null | bool | number | string =>
    intro other formed answer possible
    rcases other.unknown_or_known with ⟨marker, rfl⟩ | known
    · exact (reach_of_unknown marker whole answer).2
    · exact Apart.reach ⟨rfl, known, by simp, by simp⟩ whole formed possible

/-- What is decided of two values is what all ways to fill in their unknowns agree on. -/
theorem decided_eq_some_iff {left right : Value} (formed : left.Formed) (formed' : right.Formed)
    {answer : Bool} : decided left right = some answer ↔
      ∀ filled filled', Completes left filled → Completes right filled' → equal filled filled' = answer := by
  constructor
  · intro known filled filled' completes completes'
    exact decided_agrees formed completes.below completes'.below answer known
  · intro agree
    by_contra differs
    have possible : decided left right ≠ some !(!answer) := by rwa [Bool.not_not]
    obtain ⟨filled, filled', completes, completes', equals⟩ :=
      answerable_of_formed formed right formed' (!answer) possible
    rw [agree filled filled' completes completes'] at equals
    cases answer <;> cases equals

end Terradoc.Value
