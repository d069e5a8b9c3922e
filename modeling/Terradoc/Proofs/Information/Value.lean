import Mathlib.Data.List.Forall2
import Terradoc.Proofs.Eval.Steps

/-! Values in the order of how much is known of them. An unknown is below every value. A known value
is below those that fill in the unknowns inside it: a collection keeps its size and its keys. -/

namespace Terradoc

mutual
/-- The second value is the first one with some of its unknowns filled in. -/
inductive Value.Below : Value → Value → Prop where
  | unknown (marker : Unknown) (right : Value) : Below (.unknown marker) right
  | null : Below .null .null
  | bool (value : Bool) : Below (.bool value) (.bool value)
  | number (value : Number) : Below (.number value) (.number value)
  | string (value : String) : Below (.string value) (.string value)
  | list {left right : List Value} (items : List.Forall₂ Value.Below left right) :
      Below (.list left) (.list right)
  | map {left right : Entries Value} (entries : List.Forall₂ Value.EntryBelow left right) :
      Below (.map left) (.map right)

/-- The same key with a value that is the first one with some of its unknowns filled in. -/
inductive Value.EntryBelow : String × Value → String × Value → Prop where
  | entry (key : String) {left right : Value} (value : Value.Below left right) :
      EntryBelow (key, left) (key, right)
end

/-- The entries of a map stand under the same keys in the same order. -/
abbrev EntriesBelow : Entries Value → Entries Value → Prop := List.Forall₂ Value.EntryBelow

theorem rel_cases {α β : Type} {relation : α → β → Prop} {left : Option α} {right : Option β}
    (found : Option.Rel relation left right) :
    (∃ first second, left = some first ∧ right = some second ∧ relation first second) ∨
      (left = none ∧ right = none) := by
  cases found with
  | some value => exact .inl ⟨_, _, rfl, rfl, value⟩
  | none => exact .inr ⟨rfl, rfl⟩

/-- Two computations, compared where both succeed. -/
def BothRelate {ε α β : Type} (relation : α → β → Prop) (left : Except ε α) (right : Except ε β) :
    Prop :=
  ∀ first second, left = .ok first → right = .ok second → relation first second

namespace BothRelate

variable {ε α β γ δ : Type} {relation : α → β → Prop} {other : γ → δ → Prop}

theorem ok {first : α} {second : β} (related : relation first second) :
    BothRelate relation (.ok first : Except ε α) (.ok second) := by
  intro _ _ left right
  cases left
  cases right
  exact related

theorem error_left (error : ε) (right : Except ε β) :
    BothRelate relation (.error error) right := by
  intro _ _ left
  cases left

theorem error_right (left : Except ε α) (error : ε) :
    BothRelate relation left (.error error) := by
  intro _ _ _ right
  cases right

theorem bind {left : Except ε α} {right : Except ε β} {next : α → Except ε γ}
    {after : β → Except ε δ} (start : BothRelate relation left right)
    (rest : ∀ first second, relation first second → BothRelate other (next first) (after second)) :
    BothRelate other (left >>= next) (right >>= after) := by
  intro first second done finished
  cases left with
  | error => cases done
  | ok value =>
    cases right with
    | error => cases finished
    | ok image => exact rest value image (start value image rfl rfl) first second done finished

theorem ite {condition : Prop} [Decidable condition] {left yes : Except ε α} {right no : Except ε β}
    (first : BothRelate relation left right) (second : BothRelate relation yes no) :
    BothRelate relation (if condition then left else yes) (if condition then right else no) := by
  split
  · exact first
  · exact second

theorem self {relation : α → α → Prop} (reflexive : ∀ value, relation value value)
    (result : Except ε α) : BothRelate relation result result := by
  intro first second left right
  cases left.symm.trans right
  exact reflexive first

theorem mapM {next : α → Except ε γ} {after : β → Except ε δ}
    (step : ∀ first second, relation first second → BothRelate other (next first) (after second))
    {left : List α} {right : List β} (items : List.Forall₂ relation left right) :
    BothRelate (List.Forall₂ other) (left.mapM next) (right.mapM after) := by
  induction items with
  | nil => exact ok .nil
  | cons head tail ih =>
    simp only [List.mapM_cons]
    exact (step _ _ head).bind fun _ _ first => ih.bind fun _ _ rest => ok (.cons first rest)

end BothRelate

namespace Value

mutual
theorem Below.refl : ∀ value : Value, value.Below value
  | .null => .null
  | .bool value => .bool value
  | .number value => .number value
  | .string value => .string value
  | .unknown marker => .unknown marker _
  | .list items => .list (Below.refl_items items)
  | .map entries => .map (Below.refl_entries entries)

theorem Below.refl_items : ∀ items : List Value, List.Forall₂ Below items items
  | [] => .nil
  | item :: rest => .cons (Below.refl item) (Below.refl_items rest)

theorem Below.refl_entries : ∀ entries : Entries Value, EntriesBelow entries entries
  | [] => .nil
  | (key, value) :: rest => .cons (.entry key (Below.refl value)) (Below.refl_entries rest)
end

mutual
theorem Below.trans : ∀ {left middle right : Value}, left.Below middle → middle.Below right →
    left.Below right
  | .unknown marker, _, _, _, _ => .unknown marker _
  | .null, _, _, .null, next => next
  | .bool _, _, _, .bool _, next => next
  | .number _, _, _, .number _, next => next
  | .string _, _, _, .string _, next => next
  | .list _, _, _, .list items, .list others => .list (Below.trans_items items others)
  | .map _, _, _, .map entries, .map others => .map (Below.trans_entries entries others)

theorem Below.trans_items : ∀ {left middle right : List Value}, List.Forall₂ Below left middle →
    List.Forall₂ Below middle right → List.Forall₂ Below left right
  | [], _, _, .nil, .nil => .nil
  | _ :: _, _, _, .cons head tail, .cons next rest =>
    .cons (Below.trans head next) (Below.trans_items tail rest)

theorem Below.trans_entries : ∀ {left middle right : Entries Value}, EntriesBelow left middle →
    EntriesBelow middle right → EntriesBelow left right
  | [], _, _, .nil, .nil => .nil
  | (_, _) :: _, _, _, .cons (.entry key value) tail, .cons (.entry _ next) rest =>
    .cons (.entry key (Below.trans value next)) (Below.trans_entries tail rest)
end

-- Recursion is on the value that holds no unknowns: the order itself is a nested relation, for
-- which there is no induction tactic.
mutual
/-- There is nothing left to fill in where all is known. -/
theorem Below.eq_of_known : ∀ {left right : Value}, left.Below right → left.unknowns = [] →
    left = right
  | .null, _, .null, _ => rfl
  | .bool _, _, .bool _, _ => rfl
  | .number _, _, .number _, _ => rfl
  | .string _, _, .string _, _ => rfl
  | .unknown _, _, _, known => by simp [unknowns] at known
  | .list _, _, .list items, known => by
    rw [Below.items_eq_of_known items (by simpa [unknowns] using known)]
  | .map _, _, .map entries, known => by
    rw [Below.entries_eq_of_known entries (by simpa [unknowns] using known)]

theorem Below.items_eq_of_known : ∀ {left right : List Value}, List.Forall₂ Below left right →
    unknownsOfItems left = [] → left = right
  | [], _, .nil, _ => rfl
  | _ :: _, _, .cons head tail, known => by
    obtain ⟨first, rest⟩ := List.append_eq_nil_iff.mp (by simpa [unknownsOfItems] using known)
    rw [Below.eq_of_known head first, Below.items_eq_of_known tail rest]

theorem Below.entries_eq_of_known : ∀ {left right : Entries Value}, EntriesBelow left right →
    unknownsOfEntries left = [] → left = right
  | [], _, .nil, _ => rfl
  | (_, _) :: _, _, .cons (.entry _ value) tail, known => by
    obtain ⟨first, rest⟩ := List.append_eq_nil_iff.mp (by simpa [unknownsOfEntries] using known)
    rw [Below.eq_of_known value first, Below.entries_eq_of_known tail rest]
end

/-- What looks at a collection only to tell its kind sees no difference. -/
theorem Below.congr {α : Type} (view : Value → α) {left right : Value} (below : left.Below right)
    (known : left.isUnknown = false)
    (lists : ∀ first second, view (.list first) = view (.list second) := by intros; rfl)
    (maps : ∀ first second, view (.map first) = view (.map second) := by intros; rfl) :
    view left = view right := by
  cases below with
  | unknown => cases known
  | list => exact lists _ _
  | map => exact maps _ _
  | _ => rfl

theorem Below.known {left right : Value} (below : left.Below right)
    (known : left.isUnknown = false) : right.isUnknown = false := by
  rw [← known]
  exact (below.congr isUnknown known).symm

theorem Below.splatItems {left right : Value} (below : left.Below right)
    (known : left.isUnknown = false) :
    List.Forall₂ Below left.splatItems right.splatItems := by
  cases below with
  | unknown => cases known
  | null => exact .nil
  | list items => exact items
  | map entries => exact .cons (.map entries) .nil
  | bool | number | string => exact .cons (.refl _) .nil

/-- A key and a value, both with some unknowns filled in. -/
def PairBelow (left right : Value × Value) : Prop :=
  left.1.Below right.1 ∧ left.2.Below right.2

private theorem pairs_of_items {left right : List Value} (items : List.Forall₂ Below left right)
    (start : Nat) :
    List.Forall₂ PairBelow
      ((left.zipIdx start).map fun (item, index) => (.ofNat index, item))
      ((right.zipIdx start).map fun (item, index) => (.ofNat index, item)) := by
  induction items generalizing start with
  | nil => exact .nil
  | cons head tail ih => exact .cons ⟨.refl _, head⟩ (ih (start + 1))

private theorem pairs_of_entries {left right : Entries Value} (entries : EntriesBelow left right) :
    List.Forall₂ PairBelow
      (left.map fun (key, value) => (.string key, value))
      (right.map fun (key, value) => (.string key, value)) := by
  induction entries with
  | nil => exact .nil
  | cons head tail ih =>
    cases head with
    | entry key value => exact .cons ⟨.refl _, value⟩ ih

theorem Below.entries? {left right : Value} (below : left.Below right)
    (known : left.isUnknown = false) :
    BothRelate (List.Forall₂ PairBelow) left.entries? right.entries? := by
  cases below with
  | unknown => cases known
  | list items => exact .ok (pairs_of_items items 0)
  | map entries => exact .ok (pairs_of_entries entries)
  | null | bool | number | string => exact .error_left _ _

end Value

namespace EntriesBelow

variable {left right : Entries Value}

theorem get? (entries : EntriesBelow left right) (key : String) :
    Option.Rel Value.Below (Entries.get? left key) (Entries.get? right key) := by
  induction entries with
  | nil => exact .none
  | cons head tail ih =>
    cases head with
    | entry other value =>
      simp only [Entries.get?_cons]
      split
      · exact .some value
      · exact ih

theorem contains (entries : EntriesBelow left right) (key : String) :
    Entries.contains left key = Entries.contains right key := by
  rcases rel_cases (entries.get? key) with ⟨_, _, here, there, _⟩ | ⟨here, there⟩ <;>
    simp [Entries.contains, here, there]

theorem insert (entries : EntriesBelow left right) (key : String) {first second : Value}
    (value : first.Below second) :
    EntriesBelow (Entries.insert left key first) (Entries.insert right key second) := by
  induction entries with
  | nil => exact .cons (.entry key value) .nil
  | cons head tail ih =>
    cases head with
    | entry other old =>
      simp only [Entries.insert]
      split
      · exact .cons (.entry other value) tail
      · exact .cons (.entry other old) ih

theorem insertAll (entries : EntriesBelow left right) {more others : Entries Value}
    (added : EntriesBelow more others) :
    EntriesBelow (Entries.insertAll left more) (Entries.insertAll right others) := by
  induction added generalizing left right with
  | nil => exact entries
  | cons head tail ih =>
    cases head with
    | entry key value => exact ih (entries.insert key value)

theorem ofList (entries : EntriesBelow left right) :
    EntriesBelow (Entries.ofList left) (Entries.ofList right) :=
  insertAll .nil entries

end EntriesBelow

end Terradoc
