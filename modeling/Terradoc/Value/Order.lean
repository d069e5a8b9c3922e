import Terradoc.Value.Projection

namespace Terradoc.Value

mutual
/-- Whether two values are the same; maps are compared without regard to the order of keys. -/
def same : Value → Value → Bool
  | null, null => true
  | bool left, bool right => left == right
  | number left, number right => left.same right
  | string left, string right => left == right
  | list left, list right => sameItems left right
  | map left, map right => left.length == right.length && sameEntries left right
  | unknown left, unknown right => left == right
  | _, _ => false

/-- Whether two lists hold the same values. -/
def sameItems : List Value → List Value → Bool
  | [], [] => true
  | left :: lefts, right :: rights => same left right && sameItems lefts rights
  | _, _ => false

/-- Whether every entry of the first map is in the second. -/
def sameEntries : List (String × Value) → List (String × Value) → Bool
  | [], _ => true
  | (key, value) :: rest, other =>
    (match Entries.get? other key with
      | some found => same value found
      | none => false) && sameEntries rest other
end

mutual
/-- Equality inside the language: numbers by their doubles, maps without regard to order. -/
def equal : Value → Value → Bool
  | number left, number right => left.numericallyEqual right
  | list left, list right => equalItems left right
  | map left, map right => left.length == right.length && equalEntries left right
  | left, right => same left right

/-- Item-wise equality of lists of the same length. -/
def equalItems : List Value → List Value → Bool
  | [], [] => true
  | left :: lefts, right :: rights => equal left right && equalItems lefts rights
  | _, _ => false

/-- Whether every entry of the first map has an equal one in the second. -/
def equalEntries : List (String × Value) → List (String × Value) → Bool
  | [], _ => true
  | (key, value) :: rest, other =>
    (match Entries.get? other key with
      | some found => equal value found
      | none => false) && equalEntries rest other
end

/-- Order used for sets: numbers, texts and truth values among themselves, all else by JSON text. -/
def order : Value → Value → Ordering
  | number left, number right => left.order right
  | string left, string right => compare left right
  | bool left, bool right => compare left right
  | left, right => compare left.toJson.compact right.toJson.compact

/-- Not after, in the order used for sets. -/
def notAfter (left right : Value) : Bool := order left right != .gt

/-- Keeps the first of equal values. -/
def distinct (items : List Value) : List Value :=
  (items.foldl
    (fun seen item => if seen.any (equal · item) then seen else item :: seen) []).reverse

/-- Unequal elements in sorted order. -/
def toSet (items : List Value) : List Value := (distinct items).mergeSort notAfter

end Terradoc.Value
