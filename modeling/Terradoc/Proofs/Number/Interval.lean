import Mathlib
import Terradoc.Number.Shortest

/-! Doubles and the numbers that round to them. The decimal that is written for a double lies in its
rounding interval, and the intervals of different doubles have nothing in common. (What the library knows
of the bits of doubles is imported by nothing less than all of Mathlib.) -/

namespace Terradoc.Number

/-- Mantissa and exponent as a finite double has them. -/
structure Canonical (mantissa : Nat) (exponent : Int) : Prop where
  small : mantissa < 2 ^ 53
  least : -1074 ≤ exponent
  most : exponent ≤ 971
  normal : -1074 < exponent → 2 ^ 52 ≤ mantissa

def signBit (value : Float) : Nat := value.toBits.toNat / Nat.pow 2 63

/-- Sign, mantissa and exponent of a finite double. -/
theorem dyadic?_eq {value : Float} (finite : (dyadic? value).isSome) :
    ∃ mantissa exponent, Canonical mantissa exponent ∧
      dyadic? value = some ⟨(if signBit value = 0 then 1 else -1) * (mantissa : Int), exponent⟩ := by
  have fraction : value.toBits.toNat % 2 ^ 52 < 2 ^ 52 := Nat.mod_lt _ (by decide)
  have biased : value.toBits.toNat / 2 ^ 52 % 2 ^ 11 < 2 ^ 11 := Nat.mod_lt _ (by decide)
  unfold dyadic? at finite ⊢
  simp only [Nat.pow_eq] at finite ⊢
  split at finite
  · cases finite
  · rename_i notLast
    rw [if_neg notLast]
    split
    · exact ⟨_, _, ⟨by omega, by omega, by omega, by omega⟩, rfl⟩
    · exact ⟨_, _, ⟨by omega, by omega, by omega, by omega⟩, rfl⟩

/-- What the fields of a finite double are for its mantissa and exponent. -/
theorem fields_of_dyadic? {double : Float} {mantissa : Nat} {exponent : Int}
    (exact : dyadic? double = some ⟨(if signBit double = 0 then 1 else -1) * (mantissa : Int), exponent⟩) :
    double.toBits.toNat / 2 ^ 52 % 2 ^ 11 ≠ 2047 ∧
      if double.toBits.toNat / 2 ^ 52 % 2 ^ 11 = 0 then
        mantissa = double.toBits.toNat % 2 ^ 52 ∧ exponent = -1074
      else
        mantissa = double.toBits.toNat % 2 ^ 52 + 2 ^ 52 ∧
          exponent = (double.toBits.toNat / 2 ^ 52 % 2 ^ 11 : Nat) - 1075 := by
  have cancel {first second : Nat} (same : (if signBit double = 0 then (1 : Int) else -1) * first =
      (if signBit double = 0 then 1 else -1) * second) : second = first := by
    split at same <;> omega
  unfold dyadic? at exact
  simp only [Nat.pow_eq] at exact
  split at exact
  · cases exact
  rename_i notLast
  refine ⟨notLast, ?_⟩
  split at exact <;> obtain ⟨size, place⟩ := Dyadic.mk.inj (Option.some.inj exact)
  · rename_i zero
    rw [if_pos zero]
    exact ⟨cancel size, place.symm⟩
  · rename_i nonzero
    rw [if_neg nonzero]
    exact ⟨cancel size, place.symm⟩

/-- The bits of a finite double, from its sign, mantissa and exponent. -/
private theorem toBits_eq {value : Float} {mantissa : Nat} {exponent : Int}
    (exact : dyadic? value =
      some ⟨(if signBit value = 0 then 1 else -1) * (mantissa : Int), exponent⟩) :
    (value.toBits.toNat : Int) = signBit value * 2 ^ 63 +
      if mantissa < 2 ^ 52 then (mantissa : Int)
      else (exponent + 1075) * 2 ^ 52 + (mantissa - 2 ^ 52) := by
  have fraction : value.toBits.toNat % 2 ^ 52 < 2 ^ 52 := Nat.mod_lt _ (by decide)
  have word := value.toBits.toNat_lt
  obtain ⟨_, parts⟩ := fields_of_dyadic? exact
  unfold signBit
  simp only [Nat.pow_eq]
  split at parts
  · obtain ⟨rfl, rfl⟩ := parts
    rw [if_pos fraction]
    omega
  · obtain ⟨rfl, rfl⟩ := parts
    rw [if_neg (by omega)]
    omega

/-- A finite double is known by its sign, its mantissa and its exponent. -/
theorem eq_of_dyadic? {left right : Float} {mantissa : Nat} {exponent : Int}
    (sign : signBit left = signBit right)
    (first : dyadic? left =
      some ⟨(if signBit left = 0 then 1 else -1) * (mantissa : Int), exponent⟩)
    (second : dyadic? right =
      some ⟨(if signBit right = 0 then 1 else -1) * (mantissa : Int), exponent⟩) :
    left = right := by
  have bits : (left.toBits.toNat : Int) = right.toBits.toNat := by
    rw [toBits_eq first, toBits_eq second, sign]
  exact Float.toBits_inj.mp (UInt64.toNat_inj.mp (by exact_mod_cast bits))

/-- The number that a decimal stands for. -/
def Decimal.value (decimal : Decimal) : ℚ := decimal.digits * 10 ^ decimal.exponent

/-- A power with a signed exponent as a quotient of two powers. -/
theorem zpow_eq_div (base : ℕ) (exponent : Int) (positive : 0 < base) :
    (base : ℚ) ^ exponent = (base ^ exponent.toNat : ℕ) / (base ^ (-exponent).toNat : ℕ) := by
  have nonzero : (base : ℚ) ≠ 0 := by positivity
  rcases Int.le_total 0 exponent with up | down
  · lift exponent to ℕ using up
    simp
  · obtain ⟨size, rfl⟩ : ∃ size : ℕ, exponent = -size := ⟨exponent.natAbs, by omega⟩
    simp

namespace RoundingInterval

/-- The numbers of an interval: both ends belong to it when it is closed. -/
def Contains (interval : RoundingInterval) (number : ℚ) : Prop :=
  if interval.closed then
    (interval.low : ℚ) / interval.denominator ≤ number ∧
      number ≤ (interval.high : ℚ) / interval.denominator
  else
    (interval.low : ℚ) / interval.denominator < number ∧
      number < (interval.high : ℚ) / interval.denominator

theorem holds_iff {interval : RoundingInterval} (positive : 0 < interval.denominator)
    (decimal : Decimal) : interval.holds decimal = true ↔ interval.Contains decimal.value := by
  have denominator : (0 : ℚ) < interval.denominator := by exact_mod_cast positive
  have scale : (0 : ℚ) < (10 ^ (-decimal.exponent).toNat : ℕ) := by positivity
  have value : decimal.value = (decimal.digits * 10 ^ decimal.exponent.toNat : ℕ) /
      (10 ^ (-decimal.exponent).toNat : ℕ) := by
    rw [Decimal.value, show (10 : ℚ) = ((10 : ℕ) : ℚ) by norm_num,
      zpow_eq_div 10 decimal.exponent (by decide), Nat.cast_mul, mul_div_assoc]
  have below (bound : ℕ) : (bound : ℚ) / interval.denominator ≤ decimal.value ↔
      bound * Nat.pow 10 (-decimal.exponent).toNat ≤
        decimal.digits * Nat.pow 10 decimal.exponent.toNat * interval.denominator := by
    rw [value, div_le_div_iff₀ denominator scale]
    exact_mod_cast Iff.rfl
  have above (bound : ℕ) : decimal.value ≤ (bound : ℚ) / interval.denominator ↔
      decimal.digits * Nat.pow 10 decimal.exponent.toNat * interval.denominator ≤
        bound * Nat.pow 10 (-decimal.exponent).toNat := by
    rw [value, div_le_div_iff₀ scale denominator]
    exact_mod_cast Iff.rfl
  unfold holds Contains
  dsimp only
  split
  · rw [Bool.and_eq_true, decide_eq_true_iff, decide_eq_true_iff, below, above]
  · rw [Bool.and_eq_true, decide_eq_true_iff, decide_eq_true_iff, ← not_le, ← not_le, ← not_le,
      ← not_le, below, above]

section Ends

variable {mantissa : Nat} {exponent : Int}

/-- How far below the interval starts, in quarters of the last place of the mantissa. -/
def gap (mantissa : Nat) (exponent : Int) : Nat :=
  if mantissa = Nat.pow 2 52 && -1074 < exponent then 1 else 2

theorem gap_cases (mantissa : Nat) (exponent : Int) :
    (gap mantissa exponent = 1 ∧ mantissa = 2 ^ 52) ∨
      (gap mantissa exponent = 2 ∧ (mantissa = 2 ^ 52 → exponent ≤ -1074)) := by
  unfold gap
  split
  · rename_i narrow
    rw [Bool.and_eq_true, decide_eq_true_iff] at narrow
    exact .inl ⟨rfl, narrow.1⟩
  · rename_i wide
    rw [Bool.and_eq_true, decide_eq_true_iff, decide_eq_true_iff, not_and, not_lt] at wide
    exact .inr ⟨rfl, wide⟩

theorem denominator_pos (mantissa : Nat) (exponent : Int) : 0 < (of mantissa exponent).denominator :=
  Nat.mul_pos (by decide) (Nat.pow_pos (by decide))

private theorem quarters (count : Nat) (exponent : Int) :
    ((count * Nat.pow 2 exponent.toNat : Nat) : ℚ) / (4 * Nat.pow 2 (-exponent).toNat : Nat) =
      count / 4 * 2 ^ exponent := by
  have power := zpow_eq_div 2 exponent (by decide)
  rw [Nat.cast_ofNat] at power
  rw [power, Nat.cast_mul, Nat.cast_mul, mul_div_mul_comm]
  rfl

/-- The double itself. -/
theorem value_eq (mantissa : Nat) (exponent : Int) :
    ((of mantissa exponent).value : ℚ) / (of mantissa exponent).denominator =
      mantissa * 2 ^ exponent := by
  have exact := quarters (4 * mantissa) exponent
  rw [show ((4 * mantissa : Nat) : ℚ) / 4 = mantissa by push_cast; ring] at exact
  exact exact

theorem high_eq (mantissa : Nat) (exponent : Int) :
    ((of mantissa exponent).high : ℚ) / (of mantissa exponent).denominator =
      (mantissa + 1 / 2) * 2 ^ exponent := by
  have ends := quarters (4 * mantissa + 2) exponent
  rw [show ((4 * mantissa + 2 : Nat) : ℚ) / 4 = mantissa + 1 / 2 by push_cast; ring] at ends
  exact ends

theorem low_eq (positive : 0 < mantissa) (exponent : Int) :
    ((of mantissa exponent).low : ℚ) / (of mantissa exponent).denominator =
      (mantissa - (gap mantissa exponent : ℚ) / 4) * 2 ^ exponent := by
  have small : gap mantissa exponent ≤ 4 * mantissa := by
    rcases gap_cases mantissa exponent with ⟨gap, _⟩ | ⟨gap, _⟩ <;> omega
  have ends := quarters (4 * mantissa - gap mantissa exponent) exponent
  rw [show ((4 * mantissa - gap mantissa exponent : Nat) : ℚ) / 4 =
    mantissa - (gap mantissa exponent : ℚ) / 4 by push_cast [small]; ring] at ends
  exact ends

end Ends

section Apart

variable {mantissa other : Nat} {exponent place : Int} {number : ℚ}

/-- An odd mantissa leaves both ends out. -/
theorem Contains.bounds (positive : 0 < mantissa)
    (inside : (of mantissa exponent).Contains number) :
    ((mantissa - (gap mantissa exponent : ℚ) / 4) * 2 ^ exponent ≤ number ∧
        number ≤ (mantissa + 1 / 2) * 2 ^ exponent) ∧
      (mantissa % 2 = 1 →
        (mantissa - (gap mantissa exponent : ℚ) / 4) * 2 ^ exponent < number ∧
          number < (mantissa + 1 / 2) * 2 ^ exponent) := by
  unfold Contains at inside
  rw [low_eq positive, high_eq] at inside
  split at inside
  · rename_i closed
    have even : mantissa % 2 = 0 := of_decide_eq_true closed
    exact ⟨inside, fun odd => absurd odd (by omega)⟩
  · exact ⟨⟨inside.1.le, inside.2.le⟩, fun _ => inside⟩

/-- The interval of a smaller double ends where that of a larger one starts, or before; where they
touch, one of the two mantissas is odd. -/
private theorem apart (first : Canonical mantissa exponent) (second : Canonical other place)
    (before : exponent < place ∨ (exponent = place ∧ mantissa < other)) :
    (mantissa + 1 / 2 : ℚ) * 2 ^ exponent < (other - (gap other place : ℚ) / 4) * 2 ^ place ∨
      ((mantissa + 1 / 2 : ℚ) * 2 ^ exponent ≤ (other - (gap other place : ℚ) / 4) * 2 ^ place ∧
        (mantissa % 2 = 1 ∨ other % 2 = 1)) := by
  have unit : (0 : ℚ) < 2 ^ exponent := by positivity
  rcases before with lower | ⟨rfl, less⟩
  · have large : 2 ^ 52 ≤ other := second.normal (lt_of_le_of_lt first.least lower)
    have twice : (2 : ℚ) * 2 ^ exponent ≤ 2 ^ place := by
      rw [← zpow_one_add₀ two_ne_zero]
      exact zpow_le_zpow_right₀ one_le_two (by omega)
    have start : (2 : ℚ) ^ 53 - 1 / 2 ≤ 2 * (other - (gap other place : ℚ) / 4) := by
      rcases gap_cases other place with ⟨gap, power⟩ | ⟨gap, wide⟩ <;> rw [gap]
      · rw [power]
        norm_num
      · have above : 2 ^ 52 + 1 ≤ other := by
          rcases Nat.eq_or_lt_of_le large with same | greater
          · have := first.least
            have := wide same.symm
            omega
          · exact greater
        have : (2 ^ 52 : ℚ) + 1 ≤ other := by exact_mod_cast above
        push_cast
        linarith
    have reach : 2 * (other - (gap other place : ℚ) / 4) * 2 ^ exponent ≤
        (other - (gap other place : ℚ) / 4) * 2 ^ place := by
      have nonneg : 0 ≤ other - (gap other place : ℚ) / 4 := by
        norm_num at start
        linarith
      calc 2 * (other - (gap other place : ℚ) / 4) * 2 ^ exponent
          = (other - (gap other place : ℚ) / 4) * (2 * 2 ^ exponent) := by ring
        _ ≤ _ := mul_le_mul_of_nonneg_left twice nonneg
    rcases Nat.lt_or_ge mantissa (2 ^ 53 - 1) with inner | last
    · have bound : (mantissa + 1 / 2 : ℚ) < 2 ^ 53 - 1 / 2 := by
        have : (mantissa : ℚ) + 2 ≤ 2 ^ 53 := by exact_mod_cast (by omega : mantissa + 2 ≤ 2 ^ 53)
        linarith
      exact .inl (lt_of_lt_of_le (mul_lt_mul_of_pos_right (lt_of_lt_of_le bound start) unit) reach)
    · have top : mantissa = 2 ^ 53 - 1 := by
        have := first.small
        omega
      have bound : (mantissa + 1 / 2 : ℚ) ≤ 2 ^ 53 - 1 / 2 := by
        rw [top]
        norm_num
      exact .inr ⟨le_trans (mul_le_mul_of_nonneg_right (le_trans bound start) unit.le) reach,
        .inl (by omega)⟩
  · have narrow : (gap other exponent : ℚ) ≤ 2 := by
      rcases gap_cases other exponent with ⟨gap, _⟩ | ⟨gap, _⟩ <;> rw [gap] <;> norm_num
    rcases Nat.eq_or_lt_of_le (Nat.succ_le_of_lt less) with next | later
    · have bound : (mantissa + 1 / 2 : ℚ) ≤ other - (gap other exponent : ℚ) / 4 := by
        have : (other : ℚ) = mantissa + 1 := by rw [← next]; push_cast; rfl
        linarith
      exact .inr ⟨mul_le_mul_of_nonneg_right bound unit.le, by omega⟩
    · have bound : (mantissa + 1 / 2 : ℚ) < other - (gap other exponent : ℚ) / 4 := by
        have : (mantissa : ℚ) + 2 ≤ other := by exact_mod_cast later
        linarith
      exact .inl (mul_lt_mul_of_pos_right bound unit)

private theorem not_contains_of_before (first : Canonical mantissa exponent)
    (second : Canonical other place) (positive : 0 < mantissa) (nonzero : 0 < other)
    (before : exponent < place ∨ (exponent = place ∧ mantissa < other))
    (left : (of mantissa exponent).Contains number) :
    ¬ (of other place).Contains number := by
  intro right
  obtain ⟨⟨_, high⟩, openLeft⟩ := left.bounds positive
  obtain ⟨⟨low, _⟩, openRight⟩ := right.bounds nonzero
  rcases apart first second before with clear | ⟨touching, odd | odd⟩
  · exact absurd (lt_of_le_of_lt high clear) low.not_gt
  · exact absurd (lt_of_lt_of_le (openLeft odd).2 touching) low.not_gt
  · exact absurd (lt_of_le_of_lt touching (openRight odd).1) high.not_gt

/-- A number rounds to one double only. -/
theorem eq_of_contains (first : Canonical mantissa exponent) (second : Canonical other place)
    (positive : 0 < mantissa) (nonzero : 0 < other)
    (left : (of mantissa exponent).Contains number) (right : (of other place).Contains number) :
    mantissa = other ∧ exponent = place := by
  by_contra different
  have order : (exponent < place ∨ (exponent = place ∧ mantissa < other)) ∨
      (place < exponent ∨ (place = exponent ∧ other < mantissa)) := by omega
  rcases order with before | after
  · exact not_contains_of_before first second positive nonzero before left right
  · exact not_contains_of_before second first nonzero positive after right left

end Apart

section Shortest

/-- A quotient counted in steps of a grid. -/
private theorem value_on_grid (value denominator : Nat) (place : Int) :
    (value : ℚ) / denominator =
      (value * Nat.pow 10 (-place).toNat : Nat) / (denominator * Nat.pow 10 place.toNat : Nat) *
        10 ^ place := by
  have power := zpow_eq_div 10 place (by decide)
  rw [Nat.cast_ofNat] at power
  have up : ((10 ^ place.toNat : Nat) : ℚ) ≠ 0 := by positivity
  have down : ((10 ^ (-place).toNat : Nat) : ℚ) ≠ 0 := by positivity
  change _ = ((value * 10 ^ (-place).toNat : Nat) : ℚ) / (denominator * 10 ^ place.toNat : Nat) * _
  rw [power, Nat.cast_mul, Nat.cast_mul]
  field_simp

/-- The point of a grid that is tried first is no further than half a step from the double. -/
theorem onGrid?_eq {interval : RoundingInterval} (positive : 0 < interval.denominator) (place : Int) :
    ∃ nearer other : Decimal,
      interval.onGrid? place =
          (if interval.holds nearer then some nearer
            else if interval.holds other then some other else none) ∧
        |nearer.value - interval.value / interval.denominator| ≤ 10 ^ place / 2 := by
  refine ⟨_, _, rfl, ?_⟩
  have step : (0 : ℚ) < 10 ^ place := by positivity
  have nonzero : 0 < interval.denominator * Nat.pow 10 place.toNat :=
    Nat.mul_pos positive (Nat.pow_pos (by decide))
  rw [value_on_grid]
  generalize interval.value * Nat.pow 10 (-place).toNat = count
  generalize interval.denominator * Nat.pow 10 place.toNat = cell at nonzero ⊢
  have unit : (0 : ℚ) < cell := by exact_mod_cast nonzero
  have division : (count : ℚ) / cell = (count / cell : Nat) + (count % cell : Nat) / cell := by
    rw [div_eq_iff unit.ne', add_mul, div_mul_cancel₀ _ unit.ne', mul_comm]
    exact_mod_cast (Nat.div_add_mod count cell).symm
  have below (low : 2 * (count % cell) ≤ cell) :
      |(⟨count / cell, place⟩ : Decimal).value - count / cell * 10 ^ place| ≤ 10 ^ place / 2 := by
    have half : ((count % cell : Nat) : ℚ) / cell ≤ 1 / 2 := by
      rw [div_le_div_iff₀ unit two_pos, mul_comm, one_mul]
      exact_mod_cast low
    have rest : (0 : ℚ) ≤ (count % cell : Nat) / cell := by positivity
    rw [Decimal.value, division, ← sub_mul, abs_mul, abs_of_pos step, sub_add_cancel_left, abs_neg,
      abs_of_nonneg rest]
    linarith [mul_le_mul_of_nonneg_right half step.le]
  have above (high : cell ≤ 2 * (count % cell)) :
      |(⟨count / cell + 1, place⟩ : Decimal).value - count / cell * 10 ^ place| ≤ 10 ^ place / 2 := by
    have half : 1 / 2 ≤ ((count % cell : Nat) : ℚ) / cell := by
      rw [div_le_div_iff₀ two_pos unit, mul_comm (_ : ℚ) 2, one_mul]
      exact_mod_cast high
    have rest : ((count % cell : Nat) : ℚ) / cell ≤ 1 := by
      rw [div_le_one unit]
      exact_mod_cast (Nat.mod_lt count nonzero).le
    rw [Decimal.value, division, ← sub_mul, abs_mul, abs_of_pos step, Nat.cast_succ,
      add_sub_add_left_eq_sub, abs_of_nonneg (by linarith)]
    linarith [mul_le_mul_of_nonneg_right half step.le]
  split
  · rename_i low
    exact below low.le
  split
  · rename_i high
    exact above high.le
  split
  · exact below (by omega)
  · exact above (by omega)

theorem holds_of_onGrid? {interval : RoundingInterval} (positive : 0 < interval.denominator)
    {place : Int} {decimal : Decimal} (found : interval.onGrid? place = some decimal) :
    interval.holds decimal = true := by
  obtain ⟨nearer, other, shape, _⟩ := onGrid?_eq positive place
  rw [shape] at found
  split at found
  · rename_i holds
    cases found
    exact holds
  · split at found
    · rename_i holds
      cases found
      exact holds
    · cases found

private theorem two_pow_le : 2 ^ 100000 ≤ 10 ^ 30103 := by decide +kernel

private theorem ten_pow_le : 10 ^ 30103 ≤ 2 ^ 100001 := by decide +kernel

/-- The estimate of a decimal exponent from the binary one is not too large. -/
theorem ten_zpow_le {place : Int} (small : place ≤ 100000) :
    (10 : ℚ) ^ (place * 30103 / 100000 - 1) ≤ 2 ^ place := by
  have two : (2 : ℚ) ^ (100000 : ℤ) ≤ 10 ^ (30103 : ℤ) := by
    rw [zpow_ofNat, zpow_ofNat]
    exact_mod_cast two_pow_le
  have ten : (10 : ℚ) ^ (30103 : ℤ) ≤ 2 ^ (100001 : ℤ) := by
    rw [zpow_ofNat, zpow_ofNat]
    exact_mod_cast ten_pow_le
  have up : (0 : ℚ) < 2 ^ (place * 100000) := by positivity
  refine (pow_le_pow_iff_left₀ (by positivity) (by positivity) (by decide : 100000 ≠ 0)).mp ?_
  rw [← zpow_natCast, ← zpow_mul, ← zpow_natCast, ← zpow_mul, Nat.cast_ofNat]
  have floor : (place * 30103 / 100000 - 1) * 100000 ≤ 30103 * place - 100000 := by omega
  refine (zpow_le_zpow_right₀ (by norm_num) floor).trans ?_
  rcases Int.le_total 0 place with nonneg | negative
  · have tens : (10 : ℚ) ^ (30103 * place) ≤ 2 ^ (100001 * place) := by
      rw [zpow_mul, zpow_mul]
      exact zpow_le_zpow_left₀ nonneg (by positivity) ten
    have spare : (2 : ℚ) ^ place ≤ 10 ^ (100000 : ℤ) :=
      (zpow_le_zpow_left₀ nonneg (by norm_num) (by norm_num)).trans
        (zpow_le_zpow_right₀ (by norm_num) small)
    rw [zpow_sub₀ (by norm_num), div_le_iff₀ (by positivity)]
    calc (10 : ℚ) ^ (30103 * place) ≤ 2 ^ (100001 * place) := tens
      _ = 2 ^ (place * 100000) * 2 ^ place := by
        rw [← zpow_add₀ two_ne_zero, show place * 100000 + place = 100001 * place by omega]
      _ ≤ 2 ^ (place * 100000) * 10 ^ (100000 : ℤ) := mul_le_mul_of_nonneg_left spare up.le
  · calc (10 : ℚ) ^ (30103 * place - 100000) ≤ 10 ^ (30103 * place) :=
          zpow_le_zpow_right₀ (by norm_num) (by omega)
      _ = ((10 ^ (30103 : ℤ)) ^ (-place))⁻¹ := by rw [zpow_neg, inv_inv, ← zpow_mul]
      _ ≤ ((2 ^ (100000 : ℤ)) ^ (-place))⁻¹ :=
        inv_anti₀ (by positivity) (zpow_le_zpow_left₀ (neg_nonneg.mpr negative) (by positivity) two)
      _ = 2 ^ (place * 100000) := by rw [zpow_neg, inv_inv, ← zpow_mul, mul_comm]

/-- The place of the leading digit is not above the number. -/
theorem ten_zpow_leading_le {interval : RoundingInterval} (positive : 0 < interval.denominator)
    (nonzero : interval.value ≠ 0) (small : interval.value.log2 ≤ 100000) :
    (10 : ℚ) ^ interval.leading ≤ interval.value / interval.denominator := by
  have denominator : (0 : ℚ) < interval.denominator := by exact_mod_cast positive
  have reached (place : Int) : (10 : ℚ) ^ place ≤ interval.value / interval.denominator ↔
      Nat.pow 10 place.toNat * interval.denominator ≤ interval.value * Nat.pow 10 (-place).toNat := by
    have power := zpow_eq_div 10 place (by decide)
    rw [Nat.cast_ofNat] at power
    have down : (0 : ℚ) < (10 ^ (-place).toNat : Nat) := by positivity
    rw [power, div_le_div_iff₀ down denominator]
    exact_mod_cast Iff.rfl
  unfold leading
  dsimp only
  rw [reached]
  cases found : List.find? _ _ with
  | some place =>
    have reaches := List.find?_some found
    exact of_decide_eq_true reaches
  | none =>
    rw [Option.getD_none, ← reached]
    have binary : (2 : ℚ) ^ ((interval.value.log2 : Int) - interval.denominator.log2 - 1) ≤
        interval.value / interval.denominator := by
      have low : ((2 ^ interval.value.log2 : Nat) : ℚ) ≤ interval.value := by
        exact_mod_cast Nat.log2_self_le nonzero
      have high : (interval.denominator : ℚ) ≤ (2 ^ (interval.denominator.log2 + 1) : Nat) := by
        exact_mod_cast Nat.lt_log2_self.le
      rw [sub_sub, zpow_sub₀ two_ne_zero]
      have := div_le_div₀ (by positivity) low denominator high
      exact_mod_cast this
    exact (ten_zpow_le (by omega)).trans binary

theorem value_log2_le {mantissa : Nat} {exponent : Int} (canonical : Canonical mantissa exponent)
    (positive : 0 < mantissa) : (of mantissa exponent).value.log2 ≤ 100000 := by
  have bound : (of mantissa exponent).value < 2 ^ (55 + exponent.toNat) := by
    rw [pow_add]
    exact Nat.mul_lt_mul_of_pos_right (by have := canonical.small; omega) (Nat.pow_pos two_pos)
  have nonzero : (of mantissa exponent).value ≠ 0 :=
    (Nat.mul_pos (by omega) (Nat.pow_pos two_pos)).ne'
  have := (Nat.log2_lt nonzero).mpr bound
  have := canonical.most
  omega

/-- Seventeen digits tell a double from its neighbours. -/
private theorem contains_of_near {mantissa : Nat} {exponent : Int}
    (canonical : Canonical mantissa exponent) (positive : 0 < mantissa) {number : ℚ}
    (near : |number - mantissa * 2 ^ exponent| ≤ mantissa * 2 ^ exponent / (2 * 10 ^ 16)) :
    (of mantissa exponent).Contains number := by
  have unit : (0 : ℚ) < 2 ^ exponent := by positivity
  have size : (mantissa : ℚ) < 9007199254740992 := by exact_mod_cast canonical.small
  have low : (mantissa : ℚ) / (2 * 10 ^ 16) < (gap mantissa exponent : ℚ) / 4 := by
    rcases gap_cases mantissa exponent with ⟨gap, power⟩ | ⟨gap, _⟩ <;> rw [gap]
    · rw [power]
      norm_num
    · norm_num
      linarith
  have high : (mantissa : ℚ) / (2 * 10 ^ 16) < 1 / 2 := by
    norm_num
    linarith
  rw [abs_le, mul_div_right_comm] at near
  have lower := mul_lt_mul_of_pos_right low unit
  have upper := mul_lt_mul_of_pos_right high unit
  unfold Contains
  rw [low_eq positive, high_eq, sub_mul, add_mul]
  split
  · exact ⟨by linarith, by linarith⟩
  · exact ⟨by linarith, by linarith⟩

/-- The decimal that is written for a double lies in its rounding interval: with seventeen digits, at
the latest, the nearest decimal does. -/
theorem contains_shortest {mantissa : Nat} {exponent : Int} (canonical : Canonical mantissa exponent)
    (positive : 0 < mantissa) :
    (of mantissa exponent).Contains (of mantissa exponent).shortest.value := by
  have denominator := denominator_pos mantissa exponent
  rw [← holds_iff denominator]
  have nonzero : (of mantissa exponent).value ≠ 0 :=
    (Nat.mul_pos (by omega) (Nat.pow_pos two_pos)).ne'
  have leading := ten_zpow_leading_le denominator nonzero (value_log2_le canonical positive)
  unfold shortest
  dsimp only
  cases found : List.findSome? _ _ with
  | some decimal =>
    obtain ⟨place, _, decimal_eq⟩ := List.exists_of_findSome?_eq_some found
    exact holds_of_onGrid? denominator decimal_eq
  | none =>
    exfalso
    have last : (of mantissa exponent).leading - 16 ∈
        (List.range 17).map fun (count : Nat) => (of mantissa exponent).leading - (count : Int) :=
      List.mem_map.mpr ⟨16, by decide, rfl⟩
    have missing := List.findSome?_eq_none_iff.mp found _ last
    obtain ⟨nearer, other, shape, near⟩ := onGrid?_eq denominator ((of mantissa exponent).leading - 16)
    rw [value_eq] at near leading
    have step : (10 : ℚ) ^ ((of mantissa exponent).leading - 16) ≤
        mantissa * 2 ^ exponent / 10 ^ 16 := by
      rw [zpow_sub₀ (by norm_num)]
      exact div_le_div_of_nonneg_right leading (by positivity)
    have holds : (of mantissa exponent).holds nearer = true := by
      refine (holds_iff denominator nearer).mpr (contains_of_near canonical positive (near.trans ?_))
      linarith
    rw [shape, if_pos holds] at missing
    cases missing

end Shortest

end RoundingInterval

end Terradoc.Number
