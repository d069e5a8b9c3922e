import Terradoc.Function.Library
import Terradoc.Proofs.Information.Value

/-! Calls with arguments of which more is known. A function that is not tolerant runs on known values
only, so nothing has to be said about its body; the body of a tolerant one has to respect the order. -/

namespace Terradoc

open Value (Below)

/-- Accepted arguments of which the second is the first with some unknowns filled in. -/
def Param.CarrierBelow : (param : Param) → param.Carrier → param.Carrier → Prop
  | .any => Below
  | .list => List.Forall₂ Below
  | .map => EntriesBelow
  | .text | .number | .bool => Eq

/-- Argument by argument, some unknowns are filled in. -/
def ArgumentsBelow : (params : List Param) → (more : Option Param) →
    Arguments params more → Arguments params more → Prop
  | [], none => fun _ _ => True
  | [], some param => List.Forall₂ param.CarrierBelow
  | param :: params, more => fun left right =>
    param.CarrierBelow left.1 right.1 ∧ ArgumentsBelow params more left.2 right.2

/-- A function whose body respects the order of information. -/
def Function.Monotone (function : Function) : Prop :=
  ∀ left right, ArgumentsBelow function.params function.more left right →
    BothRelate Below (function.body left) (function.body right)

theorem Param.CarrierBelow.refl : ∀ (param : Param) (carried : param.Carrier),
    param.CarrierBelow carried carried
  | .any, carried => Below.refl carried
  | .list, carried => Below.refl_items carried
  | .map, carried => Below.refl_entries carried
  | .text, _ | .number, _ | .bool, _ => rfl

/-- A parameter sees of a known argument what it sees of one with more filled in. -/
theorem Param.accept_below (param : Param) (index : Nat) {left right : Value}
    (below : left.Below right) (known : left.isUnknown = false) :
    BothRelate param.CarrierBelow (param.accept index left) (param.accept index right) := by
  cases below with
  | unknown => cases known
  | null | bool | number | string => exact .self (Param.CarrierBelow.refl param) _
  | list items =>
    cases param with
    | any => exact .ok (.list items)
    | list => exact .ok items
    | text | number | bool | map => exact .error_left _ _
  | map entries =>
    cases param with
    | any => exact .ok (.map entries)
    | map => exact .ok entries
    | text | number | bool | list => exact .error_left _ _

/-- No argument of a call is unknown as a whole. -/
def AllKnown (values : List Value) : Prop := ∀ value ∈ values, value.isUnknown = false

theorem Param.acceptAll_below (param : Param) (index : Nat) {left right : List Value}
    (below : List.Forall₂ Below left right) (known : AllKnown left) :
    BothRelate (List.Forall₂ param.CarrierBelow) (param.acceptAll index left)
      (param.acceptAll index right) := by
  induction below generalizing index with
  | nil => exact .ok .nil
  | cons head tail ih =>
    have ⟨first, rest⟩ := List.forall_mem_cons.mp known
    exact (param.accept_below index head first).bind fun _ _ accepted =>
      (ih (index + 1) rest).bind fun _ _ others => .ok (.cons accepted others)

theorem Arguments.accept_below (more : Option Param) (params : List Param) (index : Nat)
    {left right : List Value} (below : List.Forall₂ Below left right) (known : AllKnown left) :
    BothRelate (ArgumentsBelow params more) (Arguments.accept more params index left)
      (Arguments.accept more params index right) := by
  induction params generalizing index left right with
  | nil =>
    cases more with
    | none =>
      intro _ _ _ _
      trivial
    | some param => exact param.acceptAll_below index below known
  | cons param params ih =>
    cases below with
    | nil => exact .error_left _ _
    | cons head tail =>
      have ⟨first, rest⟩ := List.forall_mem_cons.mp known
      exact (param.accept_below index head first).bind fun _ _ accepted =>
        (ih (index + 1) tail rest).bind fun _ _ others => .ok ⟨accepted, others⟩

private theorem eq_of_no_unknown {left right : List Value} (below : List.Forall₂ Below left right)
    (known : left.findSome? Value.firstUnknown? = none) : left = right :=
  Below.items_eq_of_known below (Value.unknownsOfItems_eq_nil_iff.mpr fun item member =>
    List.head?_eq_none_iff.mp (List.findSome?_eq_none_iff.mp known item member))

private theorem allKnown_of_none {values : List Value}
    (known : values.findSome? Value.unknown? = none) : AllKnown values := by
  intro value member
  have missing := List.findSome?_eq_none_iff.mp known value member
  cases value with
  | unknown => cases missing
  | _ => rfl

private theorem none_of_allKnown {values : List Value} (known : AllKnown values) :
    values.findSome? Value.unknown? = none := by
  apply List.findSome?_eq_none_iff.mpr
  intro value member
  cases value with
  | unknown marker => cases known _ member
  | _ => rfl

private theorem allKnown_below {left right : List Value} (below : List.Forall₂ Below left right)
    (known : AllKnown left) : AllKnown right := by
  induction below with
  | nil => exact known
  | cons head tail ih =>
    have ⟨first, rest⟩ := List.forall_mem_cons.mp known
    exact List.forall_mem_cons.mpr ⟨head.known first, ih rest⟩

/-- A call with more filled in gives a value with more filled in. -/
theorem Function.call_below (function : Function)
    (monotone : function.tolerant = true → function.Monotone) {left right : List Value}
    (below : List.Forall₂ Below left right) :
    BothRelate Below (function.call left) (function.call right) := by
  unfold Function.call
  rw [below.length_eq]
  split
  · exact .error_left _ _
  · cases blocked : function.blocking? left with
    | some marker =>
      intro first second left right
      cases left
      exact .unknown marker second
    | none =>
      cases tolerant : function.tolerant with
      | false =>
        have strict : function.blocking? left = left.findSome? Value.firstUnknown? := by
          simp [Function.blocking?, tolerant]
        cases eq_of_no_unknown below (strict ▸ blocked)
        rw [blocked]
        exact .self Below.refl _
      | true =>
        have known : AllKnown left := by
          apply allKnown_of_none
          simpa [Function.blocking?, tolerant] using blocked
        have free : function.blocking? right = none := by
          simpa [Function.blocking?, tolerant] using none_of_allKnown (allKnown_below below known)
        rw [free]
        exact (Arguments.accept_below function.more function.params 0 below known).bind
          (monotone tolerant)

end Terradoc
