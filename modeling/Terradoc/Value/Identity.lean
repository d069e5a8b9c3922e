import Terradoc.Value.Basic

namespace Terradoc

deriving instance DecidableEq for Number

namespace Value

mutual
def identical : Value → Value → Bool
  | null, null => true
  | bool left, bool right => left == right
  | number left, number right => decide (left = right)
  | string left, string right => left == right
  | list left, list right => identicalItems left right
  | map left, map right => identicalEntries left right
  | unknown left, unknown right => decide (left = right)
  | _, _ => false

/-- Whether two lists hold the same values. -/
def identicalItems : List Value → List Value → Bool
  | [], [] => true
  | left :: lefts, right :: rights => identical left right && identicalItems lefts rights
  | _, _ => false

/-- Whether two maps hold the same values under the same keys in the same order. -/
def identicalEntries : List (String × Value) → List (String × Value) → Bool
  | [], [] => true
  | (key, left) :: lefts, (other, right) :: rights =>
    key == other && identical left right && identicalEntries lefts rights
  | _, _ => false
end

mutual
theorem identical_iff : ∀ left right : Value, identical left right = true ↔ left = right
  | null, other => by cases other <;> simp [identical]
  | bool _, other => by cases other <;> simp [identical]
  | number _, other => by cases other <;> simp [identical]
  | string _, other => by cases other <;> simp [identical]
  | unknown _, other => by cases other <;> simp [identical]
  | list items, other => by
    cases other with
    | list others => simp [identical, identicalItems_iff items others]
    | _ => simp [identical]
  | map entries, other => by
    cases other with
    | map others => simp [identical, identicalEntries_iff entries others]
    | _ => simp [identical]

theorem identicalItems_iff : ∀ left right : List Value, identicalItems left right = true ↔ left = right
  | [], [] => by simp [identicalItems]
  | [], _ :: _ => by simp [identicalItems]
  | _ :: _, [] => by simp [identicalItems]
  | left :: lefts, right :: rights => by
    simp [identicalItems, identical_iff left right, identicalItems_iff lefts rights]

theorem identicalEntries_iff : ∀ left right : List (String × Value),
    identicalEntries left right = true ↔ left = right
  | [], [] => by simp [identicalEntries]
  | [], _ :: _ => by simp [identicalEntries]
  | _ :: _, [] => by simp [identicalEntries]
  | (key, left) :: lefts, (other, right) :: rights => by
    simp [identicalEntries, identical_iff left right, identicalEntries_iff lefts rights]
end

instance : DecidableEq Value := fun left right => decidable_of_iff _ (identical_iff left right)

end Value

end Terradoc
