import Mathlib
import Terradoc.Number.Basic

/-! Numbers in their order. A double that is not the undefined number has a place on a line, numbers
compare as their places do, and equality is that of places. (As for intervals, the library's facts on
packed doubles come with all of Mathlib only.) -/

namespace Terradoc.Number

open Float.Model (UnpackedFloat Format)
open Float.Model.UnpackedFloat (Sign)

/-- Where a double stands among all doubles: by its sign and, away from zero, by its exponent and then
its mantissa. The undefined number is put with zero. -/
def place : UnpackedFloat → ℤ ×ₗ ℤ ×ₗ ℤ
  | .infinity .positive => toLex (2, toLex (0, 0))
  | .infinity .negative => toLex (-2, toLex (0, 0))
  | .finite .positive mantissa exponent _ => toLex (1, toLex (exponent, (mantissa : ℤ)))
  | .finite .negative mantissa exponent _ => toLex (-1, toLex (-exponent, -(mantissa : ℤ)))
  | .zero _ | .notANumber => toLex (0, toLex (0, 0))

section Places

variable {sign other : ℤ}

theorem compare_below (below : sign < other) (left right : ℤ ×ₗ ℤ) :
    compare (toLex (sign, left)) (toLex (other, right)) = .lt :=
  compare_lt_iff_lt.mpr (Prod.Lex.toLex_lt_toLex.mpr (.inl below))

theorem compare_above (above : other < sign) (left right : ℤ ×ₗ ℤ) :
    compare (toLex (sign, left)) (toLex (other, right)) = .gt :=
  compare_gt_iff_gt.mpr (Prod.Lex.toLex_lt_toLex.mpr (.inl above))

theorem compare_sameSign (left right first second : ℤ) :
    compare (toLex (sign, toLex (left, first))) (toLex (sign, toLex (right, second))) =
      (compare left right).then (compare first second) := by
  simp [Prod.Lex.compare_def, compareLex, compareOn]

theorem compare_neg (left right : ℤ) :
    compare (-left) (-right) = (compare left right).swap := by
  have flipped : StrictAnti fun value : ℤ => -value := fun _ _ less => neg_lt_neg less
  rw [← @Std.OrientedCmp.eq_swap ℤ compare _, ← cmp_eq_compare, ← cmp_eq_compare]
  exact flipped.cmp_map_eq left right

theorem compare_natCast (left right : ℕ) :
    compare (left : ℤ) (right : ℤ) = compare left right := by
  rw [← cmp_eq_compare, ← cmp_eq_compare]
  exact Nat.strictMono_cast.cmp_map_eq left right

end Places

/-- Doubles compare as their places do. -/
theorem compare_eq_place {left right : UnpackedFloat} (first : left ≠ .notANumber)
    (second : right ≠ .notANumber) :
    left.compare right = some (compare (place left) (place right)) := by
  cases left with
  | notANumber => exact absurd rfl first
  | infinity sign =>
    cases right with
    | notANumber => exact absurd rfl second
    | infinity other => cases sign <;> cases other <;> rfl
    | zero => cases sign <;> simp [UnpackedFloat.compare, place, compare_below, compare_above]
    | finite other =>
      cases sign <;> cases other <;>
        simp [UnpackedFloat.compare, place, compare_below, compare_above]
  | zero =>
    cases right with
    | notANumber => exact absurd rfl second
    | infinity other =>
      cases other <;> simp [UnpackedFloat.compare, place, compare_below, compare_above]
    | zero => simp [UnpackedFloat.compare, place]
    | finite other =>
      cases other <;> simp [UnpackedFloat.compare, place, compare_below, compare_above]
  | finite sign =>
    cases right with
    | notANumber => exact absurd rfl second
    | infinity other =>
      cases sign <;> cases other <;>
        simp [UnpackedFloat.compare, place, compare_below, compare_above]
    | zero => cases sign <;> simp [UnpackedFloat.compare, place, compare_below, compare_above]
    | finite other =>
      cases sign <;> cases other <;>
        simp [UnpackedFloat.compare, place, compare_below, compare_above, compare_sameSign,
          compare_neg, compare_natCast, Ordering.swap_then]

/-- What is packed can be told from the undefined number. -/
private theorem unpack_pack_ne {value : UnpackedFloat} (defined : value ≠ .notANumber) :
    (Float.Model.pack value).unpack ≠ .notANumber := by
  unfold Float.Model.pack Float.Model.unpack
  dsimp only
  fun_cases UnpackedFloat.pack Format.binary64 value with
  | case1 => exact absurd rfl defined
  | case2 => simp [UnpackedFloat.packedInfinity, UnpackedFloat.unpack]
  | case3 => simp [UnpackedFloat.packedZero, UnpackedFloat.unpack]
  | case4 => simp [UnpackedFloat.packedInfinity, UnpackedFloat.unpack]
  | case5 _ mantissa exponent _ _ biased inRange =>
    have small : biased < 2047 := by
      have : ¬ 2 ^ 11 ≤ biased + 1 := inRange
      omega
    have notLast : BitVec.ofNat 11 biased ≠ -1#11 := by
      intro same
      have := congrArg BitVec.toNat same
      rw [BitVec.toNat_ofNat, Nat.mod_eq_of_lt (by omega)] at this
      simp at this
      omega
    unfold UnpackedFloat.unpack
    simp only [UnpackedFloat.unpackExponent_packComponents]
    grind
  | case6 =>
    unfold UnpackedFloat.unpack
    simp only [UnpackedFloat.unpackExponent_packComponents]
    grind

/-- A finite factor other than zero leaves a defined number defined. -/
private theorem mul_ne {value : UnpackedFloat} (defined : value ≠ .notANumber) (sign : Sign)
    (mantissa : Nat) (exponent : Int) (positive : 0 < mantissa) :
    UnpackedFloat.mul Format.binary64 value (.finite sign mantissa exponent positive) ≠
      .notANumber := by
  cases value with
  | notANumber => exact absurd rfl defined
  | infinity => simp [UnpackedFloat.mul]
  | zero => simp [UnpackedFloat.mul]
  | finite =>
    simp only [UnpackedFloat.mul, UnpackedFloat.roundWithAccuracy]
    split <;> simp

private theorem ofUInt64_ne (word : UInt64) :
    UnpackedFloat.ofUInt64 Format.binary64 word ≠ .notANumber := by
  unfold UnpackedFloat.ofUInt64 UnpackedFloat.ofNat UnpackedFloat.ofInt UnpackedFloat.normalize
    UnpackedFloat.round UnpackedFloat.roundWithAccuracy
  grind

private theorem ofScientific_ne (value : Nat) :
    UnpackedFloat.ofScientific Format.binary64 value 0 ≠ .notANumber := by
  unfold UnpackedFloat.ofScientific
  split
  · simp
  split
  · simp
  split
  · simp
  rw [if_pos (Int.le_refl 0)]
  exact mul_ne (by simp) _ _ _ _

theorem unpack_one : (Float.exactlyRepresentablePowersOfTen[0]).toModel.unpack =
    .finite .positive (2 ^ 52) (-52) (by decide) := by
  rfl

private theorem ofNat_ne (value : Nat) : (Float.ofNat value).toModel.unpack ≠ .notANumber := by
  change (Float.ofScientific value false 0).toModel.unpack ≠ .notANumber
  unfold Float.ofScientific
  split
  · -- Below 2 ^ 53 the word is taken times one.
    apply unpack_pack_ne
    change UnpackedFloat.mul _ _ (Float.exactlyRepresentablePowersOfTen[0]).toModel.unpack ≠ _
    rw [unpack_one]
    exact mul_ne (unpack_pack_ne (ofUInt64_ne _)) _ _ _ _
  · exact unpack_pack_ne (ofScientific_ne value)

private theorem ofInt_ne (value : Int) : (Float.ofInt value).toModel.unpack ≠ .notANumber := by
  cases value with
  | ofNat size => exact ofNat_ne size
  | negSucc size =>
    apply unpack_pack_ne
    have defined := ofNat_ne size.succ
    generalize (Float.ofNat size.succ).toModel.unpack = whole at defined ⊢
    cases whole <;> simp [UnpackedFloat.neg] at defined ⊢

/-- The undefined number has no exact value. -/
theorem unpack_ne_of_dyadic? {value : Float} (finite : (dyadic? value).isSome) :
    value.toModel.unpack ≠ .notANumber := by
  have field : (@UnpackedFloat.unpackExponent Format.binary64
      value.toModel.toBits.toBitVec).toNat = value.toBits.toNat / 2 ^ 52 % 2 ^ 11 := by
    simp [UnpackedFloat.unpackExponent, BitVec.extractLsb, Nat.shiftRight_eq_div_pow, Float.toBits]
  have notLast : @UnpackedFloat.unpackExponent Format.binary64
      value.toModel.toBits.toBitVec ≠ -1#11 := by
    intro last
    rw [last] at field
    have top : value.toBits.toNat / Nat.pow 2 52 % Nat.pow 2 11 = 2047 := field.symm
    unfold dyadic? at finite
    dsimp only at finite
    rw [if_pos top] at finite
    cases finite
  unfold Float.Model.unpack UnpackedFloat.unpack
  grind

/-- The invariant of numbers: a double is finite. -/
def Finite : Number → Prop
  | int _ => True
  | float value => (dyadic? value).isSome

theorem finite_of_ofFloat? {value : Float} {number : Number}
    (made : ofFloat? value = some number) : number.Finite := by
  rw [ofFloat?] at made
  split at made
  · cases made
  · rename_i dyadic shape
    have finite : (float value).Finite := by
      rw [Finite, shape]
      rfl
    split at made
    · split at made <;> cases made
      · trivial
      · exact finite
    · cases made
      exact finite

/-- Where the double nearest to a number stands. -/
def rank (number : Number) : ℤ ×ₗ ℤ ×ₗ ℤ := place number.toFloat.toModel.unpack

private theorem Finite.defined {number : Number} (finite : number.Finite) :
    number.toFloat.toModel.unpack ≠ .notANumber := by
  cases number with
  | int value => exact ofInt_ne value
  | float => exact unpack_ne_of_dyadic? finite

private theorem lt_iff_compare (left right : Float) :
    left < right ↔ left.toModel.unpack.compare right.toModel.unpack = some .lt := by
  change Float.lt left right = true ↔ _
  unfold Float.lt
  rw [decide_eq_true_iff]
  change (left.toModel.unpack.compare right.toModel.unpack == some .lt) = true ↔ _
  rw [beq_iff_eq]

/-- Of two doubles, finite or not, at most one is before the other. -/
private theorem not_lt_of_lt {left right : Float} (less : left < right) : ¬ right < left := by
  rw [lt_iff_compare] at less ⊢
  have first : left.toModel.unpack ≠ .notANumber := by
    intro undefined
    simp [undefined, UnpackedFloat.compare] at less
  have second : right.toModel.unpack ≠ .notANumber := by
    intro undefined
    generalize left.toModel.unpack = other at less first
    rw [undefined] at less
    cases other <;> simp [UnpackedFloat.compare] at less
  rw [compare_eq_place first second, Option.some.injEq, compare_lt_iff_lt] at less
  rw [compare_eq_place second first, Option.some.injEq, compare_lt_iff_lt]
  exact less.not_gt

variable {left right : Number}

/-- Finite numbers are ordered by their ranks. -/
theorem order_eq_compare (first : left.Finite) (second : right.Finite) :
    left.order right = compare left.rank right.rank := by
  have forward := compare_eq_place first.defined second.defined
  have backward := compare_eq_place second.defined first.defined
  unfold order
  simp only [lt_iff_compare, forward, backward, Option.some.injEq, compare_lt_iff_lt]
  change (if left.rank < right.rank then Ordering.lt
    else if right.rank < left.rank then .gt else .eq) = _
  rcases lt_trichotomy left.rank right.rank with less | same | greater
  · rw [if_pos less, compare_lt_iff_lt.mpr less]
  · rw [if_neg same.not_lt, if_neg same.not_gt, compare_eq_iff_eq.mpr same]
  · rw [if_neg greater.not_gt, if_pos greater, compare_gt_iff_gt.mpr greater]

/-- Finite numbers are equal when they have the same rank. -/
theorem numericallyEqual_iff (first : left.Finite) (second : right.Finite) :
    left.numericallyEqual right = true ↔ left.rank = right.rank := by
  change (left.toFloat.toModel.unpack.compare right.toFloat.toModel.unpack == some .eq) = true ↔ _
  rw [compare_eq_place first.defined second.defined, beq_iff_eq, Option.some.injEq, compare_eq_iff_eq]
  rfl

/-- The order of numbers, finite or not, turns around with its sides. -/
theorem order_swap (left right : Number) : right.order left = (left.order right).swap := by
  unfold order
  by_cases less : left.toFloat < right.toFloat
  · simp [less, not_lt_of_lt less]
  · by_cases greater : right.toFloat < left.toFloat <;> simp [less, greater]

end Terradoc.Number
