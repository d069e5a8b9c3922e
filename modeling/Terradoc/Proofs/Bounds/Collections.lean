import Mathlib.Data.List.GetD
import Terradoc.Proofs.Bounds.Operations

namespace Terradoc.Guarded

/-- The items between two positions. -/
def sliceItems (items : List Value) (start stop : Int) : Guarded Value :=
  if start < 0 || stop < start || items.length < asUnsigned stop then fail (.sliceBounds start stop)
  else (slice items (asUnsigned start) (asUnsigned stop)).map Value.list

/-- The item at a position; positions past the end start over. -/
def element (items : List Value) (position : Option Number) : Guarded Value :=
  if items.isEmpty then fail .elementOfEmpty
  else do
    let position ← plain (wholeArgument 1 position)
    if position < 0 then fail .negativeIndex
    else
      let place ← remainder (asUnsigned position) items.length
      item items place

/-- Cuts a list into pieces of a size; size zero leaves it whole. -/
def chunked (items : List Value) (size : Int) : Guarded Value :=
  if size < 0 then fail .negativeChunk
  else if size = 0 then .ok (.list [.list items])
  else (pieces (asUnsigned size) items).map Value.list

theorem sliceItems_eq (items : List Value) (start : Int) {stop : Int} (bounded : stop ≤ Number.maxWord) :
    sliceItems items start stop = plain (Functions.slice items start stop) := by
  rw [sliceItems, Functions.slice]
  -- A stop below zero fails the tests before the one that takes it for an unsigned word.
  by_cases order : start < 0 ∨ stop < start
  · have early : (decide (start < 0) || decide (stop < start)) = true := by simpa using order
    rw [early]
    rfl
  · obtain ⟨nonneg, forward⟩ := not_or.mp order
    have first : asUnsigned start = start.toNat := asUnsigned_of_nonneg (by omega) (by omega)
    have last : asUnsigned stop = stop.toNat := asUnsigned_of_nonneg (by omega) bounded
    rw [first, last]
    by_cases within : (items.length : Int) < stop
    · have outside : items.length < stop.toNat := by omega
      rw [decide_eq_true within, decide_eq_true outside]
      simp
    · have inside : ¬ items.length < stop.toNat := by omega
      rw [decide_eq_false within, decide_eq_false inside, decide_eq_false nonneg, decide_eq_false forward,
        slice_of_le (by omega) (by omega)]
      rfl

theorem element_eq (items : List Value) (position : Option Number) :
    element items position = plain (Functions.element items position) := by
  rw [element, Functions.element]
  cases items with
  | nil => rfl
  | cons first rest =>
    cases read : wholeArgument 1 position with
    | error cause => rfl
    | ok whole =>
      rw [if_neg (by simp), if_neg (by simp)]
      change (if whole < 0 then _ else _) = plain (if whole < 0 then _ else _)
      split
      · rfl
      · rename_i nonneg
        have word : asUnsigned whole = whole.toNat :=
          asUnsigned_of_nonneg (Int.not_lt.mp nonneg) (wholeArgument_bounds read).2
        have inside : whole.toNat % (first :: rest).length < (first :: rest).length :=
          Nat.mod_lt _ (Nat.succ_pos _)
        have place : remainder whole.toNat (first :: rest).length = .ok (whole.toNat % (first :: rest).length) :=
          if_neg (Nat.succ_ne_zero _)
        rw [word, place]
        change item _ _ = _
        rw [item_of_lt inside, plain_ok, List.getD_eq_getElem _ _ inside]

theorem chunked_eq (items : List Value) {size : Int} (bounded : size ≤ Number.maxWord) :
    chunked items size = plain (Functions.chunked items size) := by
  rw [chunked, Functions.chunked]
  split
  · rfl
  · rename_i nonneg
    split
    · rfl
    · rename_i nonzero
      have word : asUnsigned size = size.toNat := asUnsigned_of_nonneg (Int.not_lt.mp nonneg) bounded
      rw [word, pieces, if_neg (by omega)]
      rfl

end Terradoc.Guarded
