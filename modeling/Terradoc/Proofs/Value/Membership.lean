import Terradoc.Proofs.Value.Sets

/-! The functions on sets as an algebra of sets. What is in a list is what `contains` finds there, which goes
by equality and not by identity, so that every law rests on equality being an equivalence. -/

namespace Terradoc.Value

/-- A known value as evaluation makes it. -/
structure Plain (value : Value) : Prop where
  formed : value.Formed
  known : value.unknowns = []

theorem forall_formed {items : List Value} (plain : ∀ item ∈ items, item.Plain) :
    ∀ item ∈ items, item.Formed :=
  fun item member => (plain item member).formed

/-- The function `contains` finds a value in a list. -/
def Finds (functions : FunctionTable) (items : List Value) (value : Value) : Prop :=
  functions "contains" [list items, value] = .ok (.bool true)

/-- A call on lists gives a list without repeats in which just those values are found that belong there. -/
def GivesSet (functions : FunctionTable) (name : String) (lists : List (List Value))
    (belongs : Value → Prop) : Prop :=
  ∃ set, functions name (lists.map list) = .ok (list set) ∧
    (set.Pairwise fun first second => equal first second = false ∧ equal second first = false) ∧
    ∀ value, value.Plain → (Finds functions set value ↔ belongs value)

/-- The functions on sets do to what is found in lists of known values what their names say. -/
structure SetAlgebra (functions : FunctionTable) : Prop where
  toset : ∀ items, (∀ item ∈ items, item.Plain) →
    GivesSet functions "toset" [items] fun value => Finds functions items value
  distinct : ∀ items, (∀ item ∈ items, item.Plain) →
    GivesSet functions "distinct" [items] fun value => Finds functions items value
  setunion : ∀ lists, (∀ items ∈ lists, ∀ item ∈ items, item.Plain) →
    GivesSet functions "setunion" lists fun value => ∃ items ∈ lists, Finds functions items value
  setintersection : ∀ first rest, (∀ items ∈ first :: rest, ∀ item ∈ items, item.Plain) →
    GivesSet functions "setintersection" (first :: rest) fun value =>
      ∀ items ∈ first :: rest, Finds functions items value
  setsubtract : ∀ left right, (∀ item ∈ left, item.Plain) → (∀ item ∈ right, item.Plain) →
    GivesSet functions "setsubtract" [left, right] fun value =>
      Finds functions left value ∧ ¬ Finds functions right value

section Holding

open Functions (holds intersection)

theorem holds_iff {items : List Value} {value : Value} :
    holds items value = true ↔ ∃ item ∈ items, equal item value = true :=
  List.any_eq_true

/-- Equal values are held by the same lists. -/
theorem holds_congr {items : List Value} {value other : Value} (plain : ∀ item ∈ items, item.Plain)
    (formed : value.Formed) (formed' : other.Formed) (equals : equal value other = true) :
    holds items value = true ↔ holds items other = true := by
  rw [holds_iff, holds_iff]
  refine exists_congr fun item => and_congr_right fun member => ⟨fun same => ?_, fun same => ?_⟩
  · exact equal_trans (plain item member).formed formed formed' same equals
  · exact equal_trans (plain item member).formed formed' formed same (equal_symm formed formed' equals)

/-- What is kept of a list holds what the list holds. -/
theorem Kept.holds_iff {items kept : List Value} (done : Kept items kept)
    (plain : ∀ item ∈ items, item.Plain) {value : Value} (formed : value.Formed) :
    holds kept value = true ↔ holds items value = true := by
  rw [Value.holds_iff, Value.holds_iff]
  constructor
  · rintro ⟨item, member, equals⟩
    exact ⟨item, done.inside member, equals⟩
  · rintro ⟨item, member, equals⟩
    obtain ⟨other, inside, same⟩ := done.covers item member
    have shape := (plain other (done.inside inside)).formed
    exact ⟨other, inside, equal_trans shape (plain item member).formed formed same equals⟩

theorem toSet_plain {items : List Value} (plain : ∀ item ∈ items, item.Plain) :
    ∀ item ∈ toSet items, item.Plain :=
  fun item member => plain item ((toSet_kept (forall_formed plain)).inside member)

theorem holds_toSet {items : List Value} (plain : ∀ item ∈ items, item.Plain) {value : Value}
    (formed : value.Formed) : holds (toSet items) value = true ↔ holds items value = true :=
  (toSet_kept (forall_formed plain)).holds_iff plain formed

theorem holds_flatMap {lists : List (List Value)} {change : List Value → List Value} {value : Value} :
    holds (lists.flatMap change) value = true ↔ ∃ items ∈ lists, holds (change items) value = true := by
  simp only [holds_iff, List.mem_flatMap]
  constructor
  · rintro ⟨item, ⟨items, member, inside⟩, equals⟩
    exact ⟨items, member, item, inside, equals⟩
  · rintro ⟨items, member, item, inside, equals⟩
    exact ⟨item, ⟨items, member, inside⟩, equals⟩

/-- A filter that tells no two equal values apart acts on what is held. -/
theorem holds_filter {items : List Value} {keep : Value → Bool} {value : Value}
    (alike : ∀ item ∈ items, equal item value = true → (keep item = true ↔ keep value = true)) :
    holds (items.filter keep) value = true ↔ holds items value = true ∧ keep value = true := by
  rw [holds_iff, holds_iff]
  constructor
  · rintro ⟨item, member, equals⟩
    obtain ⟨inside, kept⟩ := List.mem_filter.mp member
    exact ⟨⟨item, inside, equals⟩, (alike item inside equals).mp kept⟩
  · rintro ⟨⟨item, inside, equals⟩, kept⟩
    exact ⟨item, List.mem_filter.mpr ⟨inside, (alike item inside equals).mpr kept⟩, equals⟩

/-- Asked from the other side, equality gives the same answer. -/
theorem any_equal_iff {items : List Value} (plain : ∀ item ∈ items, item.Plain) {value : Value}
    (formed : value.Formed) : items.any (equal value ·) = true ↔ holds items value = true := by
  rw [holds_iff, List.any_eq_true]
  refine exists_congr fun item => and_congr_right fun member => ⟨?_, ?_⟩
  · exact equal_symm formed (plain item member).formed
  · exact equal_symm (plain item member).formed formed

theorem holds_intersection {first : List Value} {rest : List (List Value)}
    (plain : ∀ items ∈ first :: rest, ∀ item ∈ items, item.Plain) {value : Value}
    (formed : value.Formed) : holds (intersection first rest) value = true ↔
      ∀ items ∈ first :: rest, holds items value = true := by
  obtain ⟨here, others⟩ := List.forall_mem_cons.mp plain
  have everywhere {item : Value} (shape : item.Formed) :
      (rest.all fun other => (toSet other).any (equal item ·)) = true ↔
        ∀ items ∈ rest, holds items item = true := by
    rw [List.all_eq_true]
    refine forall₂_congr fun items member => ?_
    rw [any_equal_iff (toSet_plain (others items member)) shape, holds_toSet (others items member) shape]
  rw [intersection, holds_filter, holds_toSet here formed, everywhere formed, List.forall_mem_cons]
  intro item member equals
  have shape := (toSet_plain here item member).formed
  rw [everywhere shape, everywhere formed]
  exact forall₂_congr fun items inside => holds_congr (others items inside) shape formed equals

theorem holds_subtract {left right : List Value} (plain : ∀ item ∈ left, item.Plain)
    (plain' : ∀ item ∈ right, item.Plain) {value : Value} (formed : value.Formed) :
    holds ((toSet left).filter fun item => !right.any (equal item ·)) value = true ↔
      holds left value = true ∧ ¬ holds right value = true := by
  have outside {item : Value} (shape : item.Formed) :
      (!right.any (equal item ·)) = true ↔ ¬ holds right item = true := by
    rw [Bool.not_eq_true', ← Bool.not_eq_true, any_equal_iff plain' shape]
  rw [holds_filter, holds_toSet plain formed, outside formed]
  intro item member equals
  have shape := (toSet_plain plain item member).formed
  rw [outside shape, outside formed, holds_congr plain' shape formed equals]

end Holding

section Functions

variable {host : Host} {root : Path} {depth : Nat}

theorem acceptAll_lists (index : Nat) (lists : List (List Value)) :
    Param.list.acceptAll index (lists.map list) = .ok lists := by
  induction lists generalizing index with
  | nil => rfl
  | cons items rest ih =>
    rw [List.map_cons, Param.acceptAll, ih]
    rfl

theorem list_known {items : List Value} (plain : ∀ item ∈ items, item.Plain) :
    (list items).unknowns = [] :=
  unknownsOfItems_eq_nil_iff.mpr fun item member => (plain item member).known

theorem lists_known {lists : List (List Value)} (plain : ∀ items ∈ lists, ∀ item ∈ items, item.Plain) :
    ∀ value ∈ lists.map list, value.unknowns = [] := by
  intro value member
  obtain ⟨items, inside, rfl⟩ := List.mem_map.mp member
  exact list_known (plain items inside)

/-- Among known values `contains` answers whether a list holds a value. -/
theorem finds_iff {items : List Value} (plain : ∀ item ∈ items, item.Plain) {value : Value}
    (known : value.unknowns = []) :
    Finds (functionTable host root depth) items value ↔ Functions.holds items value = true := by
  have answer : functionTable host root depth "contains" [list items, value] =
      .ok (.bool (Functions.holds items value)) :=
    functionTable_run (fun _ => rfl) rfl
      (List.forall_mem_cons.mpr ⟨list_known plain, List.forall_mem_singleton.mpr known⟩) rfl rfl
  rw [Finds, answer]
  simp

theorem givesSet_of_holds {name : String} {lists : List (List Value)} {set : List Value}
    {belongs : Value → Prop} (gives : functionTable host root depth name (lists.map list) = .ok (list set))
    (plain : ∀ item ∈ set, item.Plain)
    (apart : set.Pairwise fun first second => equal first second = false ∧ equal second first = false)
    (same : ∀ value : Value, value.Plain → (Functions.holds set value = true ↔ belongs value)) :
    GivesSet (functionTable host root depth) name lists belongs :=
  ⟨set, gives, apart, fun value whole => (finds_iff plain whole.known).trans (same value whole)⟩

theorem toset_givesSet {items : List Value} (plain : ∀ item ∈ items, item.Plain) :
    GivesSet (functionTable host root depth) "toset" [items]
      fun value => Finds (functionTable host root depth) items value := by
  refine givesSet_of_holds (functionTable_toset host root depth items) (toSet_plain plain)
    (toSet_kept (forall_formed plain)).apart fun value whole => ?_
  rw [finds_iff plain whole.known, holds_toSet plain whole.formed]

theorem distinct_givesSet {items : List Value} (plain : ∀ item ∈ items, item.Plain) :
    GivesSet (functionTable host root depth) "distinct" [items]
      fun value => Finds (functionTable host root depth) items value := by
  have kept := distinct_kept (forall_formed plain)
  have gives : functionTable host root depth "distinct" [list items] = .ok (list (distinct items)) :=
    functionTable_run (fun _ => rfl) rfl (List.forall_mem_singleton.mpr (list_known plain)) rfl rfl
  refine givesSet_of_holds gives (fun item member => plain item (kept.inside member)) kept.apart
    fun value whole => ?_
  rw [finds_iff plain whole.known, kept.holds_iff plain whole.formed]

theorem setunion_givesSet {lists : List (List Value)}
    (plain : ∀ items ∈ lists, ∀ item ∈ items, item.Plain) :
    GivesSet (functionTable host root depth) "setunion" lists
      fun value => ∃ items ∈ lists, Finds (functionTable host root depth) items value := by
  have sets : ∀ item ∈ lists.flatMap toSet, item.Plain := by
    intro item member
    obtain ⟨items, inside, member⟩ := List.mem_flatMap.mp member
    exact toSet_plain (plain items inside) item member
  have gives : functionTable host root depth "setunion" (lists.map list) =
      .ok (list (toSet (lists.flatMap toSet))) :=
    functionTable_run (fun _ => rfl) (by simp [Function.takes]) (lists_known plain)
      (acceptAll_lists 0 lists) rfl
  refine givesSet_of_holds gives (toSet_plain sets) (toSet_kept (forall_formed sets)).apart fun value whole => ?_
  rw [holds_toSet sets whole.formed, holds_flatMap]
  refine exists_congr fun items => and_congr_right fun member => ?_
  rw [finds_iff (plain items member) whole.known, holds_toSet (plain items member) whole.formed]

theorem setintersection_givesSet {first : List Value} {rest : List (List Value)}
    (plain : ∀ items ∈ first :: rest, ∀ item ∈ items, item.Plain) :
    GivesSet (functionTable host root depth) "setintersection" (first :: rest)
      fun value => ∀ items ∈ first :: rest, Finds (functionTable host root depth) items value := by
  have here := plain first List.mem_cons_self
  have accepted : Arguments.accept (some .list) [.list] 0 ((first :: rest).map list) =
      .ok (first, rest) := by
    rw [List.map_cons, Arguments.accept, Arguments.accept, acceptAll_lists]
    rfl
  have gives : functionTable host root depth "setintersection" ((first :: rest).map list) =
      .ok (list (Functions.intersection first rest)) :=
    functionTable_run (fun _ => rfl) (by simp [Function.takes]) (lists_known plain) accepted rfl
  refine givesSet_of_holds gives
    (fun item member => toSet_plain here item (List.mem_of_mem_filter member))
    ((toSet_kept (forall_formed here)).apart.filter _) fun value whole => ?_
  rw [holds_intersection plain whole.formed]
  exact forall₂_congr fun items member => (finds_iff (plain items member) whole.known).symm

theorem setsubtract_givesSet {left right : List Value} (plain : ∀ item ∈ left, item.Plain)
    (plain' : ∀ item ∈ right, item.Plain) :
    GivesSet (functionTable host root depth) "setsubtract" [left, right]
      fun value => Finds (functionTable host root depth) left value ∧
        ¬ Finds (functionTable host root depth) right value := by
  have gives : functionTable host root depth "setsubtract" [list left, list right] =
      .ok (list ((toSet left).filter fun item => !right.any (equal item ·))) :=
    functionTable_run (fun _ => rfl) rfl
      (List.forall_mem_cons.mpr ⟨list_known plain, List.forall_mem_singleton.mpr (list_known plain')⟩)
      rfl rfl
  refine givesSet_of_holds gives
    (fun item member => toSet_plain plain item (List.mem_of_mem_filter member))
    ((toSet_kept (forall_formed plain)).apart.filter _) fun value whole => ?_
  rw [holds_subtract plain plain' whole.formed, finds_iff plain whole.known, finds_iff plain' whole.known]

end Functions

/-- Equality is an equivalence on the values that evaluation makes, and going by it the functions on sets are
those of an algebra of sets. -/
theorem setFunctions_algebra (host : Host) (root : Path) (depth : Nat) :
    (Equivalence fun first second : { value : Value // value.Formed } =>
      equal first.val second.val = true) ∧ SetAlgebra (functionTable host root depth) where
  left :=
    { refl := fun value => equal_refl value.2
      symm := fun {first second} => equal_symm first.2 second.2
      trans := fun {first second third} => equal_trans first.2 second.2 third.2 }
  right :=
    { toset := fun _ => toset_givesSet
      distinct := fun _ => distinct_givesSet
      setunion := fun _ => setunion_givesSet
      setintersection := fun _ _ => setintersection_givesSet
      setsubtract := fun _ _ => setsubtract_givesSet }

/-- A map belongs to the intersection with a list that has it with its keys in another order. -/
theorem setFunctions_algebra_of_orders :
    let functions := functionTable ⟨.directory [], ⟨"/"⟩, "/", ⟨"/tmp"⟩⟩ ⟨"/"⟩ 0
    (∀ items ∈ [[forwards, ofInt 2], [ofInt 3, backwards]], ∀ item ∈ items, item.Plain) ∧
      GivesSet functions "setintersection" [[forwards, ofInt 2], [ofInt 3, backwards]] fun value =>
        ∀ items ∈ [[forwards, ofInt 2], [ofInt 3, backwards]], Finds functions items value := by
  intro functions
  have number (value : Int) : (ofInt value).Plain := ⟨.number trivial, rfl⟩
  have one : forwards.Plain := ⟨.map (by decide) (by simp [(number _).formed]), by decide⟩
  have other : backwards.Plain := ⟨.map (by decide) (by simp [(number _).formed]), by decide⟩
  have plain : ∀ items ∈ [[forwards, ofInt 2], [ofInt 3, backwards]], ∀ item ∈ items, item.Plain := by
    simp [number, one, other]
  exact ⟨plain, (setFunctions_algebra _ _ 0).2.setintersection _ _ plain⟩

end Terradoc.Value
