import Terradoc.Proofs.Number.Interval
import Terradoc.Proofs.Number.Order

/-! The double nearest to an integer. A double holds 53 significant bits, so an integer is rounded to a
multiple of a power of two, and the doubles of two integers compare as what these are rounded to. -/

namespace Terradoc.Number

open Float.Model (UnpackedFloat Format)
open Float.Model.UnpackedFloat (Sign ExtendedMantissa Accuracy)

section RoundHalfEven

variable {value other unit : ℕ}

theorem div_le_roundHalfEven (value unit : ℕ) : value / unit ≤ roundHalfEven value unit := by
  unfold roundHalfEven
  grind

theorem roundHalfEven_le_div (value unit : ℕ) : roundHalfEven value unit ≤ value / unit + 1 := by
  unfold roundHalfEven
  grind

/-- What the unit divides is counted exactly. -/
theorem roundHalfEven_of_dvd (positive : 0 < unit) (divides : unit ∣ value) :
    roundHalfEven value unit = value / unit := by
  unfold roundHalfEven
  simp [Nat.mod_eq_zero_of_dvd divides, positive]

theorem roundHalfEven_mono (below : value ≤ other) :
    roundHalfEven value unit ≤ roundHalfEven other unit := by
  rcases (Nat.div_le_div_right below : value / unit ≤ other / unit).lt_or_eq with less | same
  · exact (roundHalfEven_le_div value unit).trans (less.trans_le (div_le_roundHalfEven other unit))
  · -- Of two values with the same quotient the one with the smaller rest is not rounded up alone.
    have rests : value % unit ≤ other % unit := by
      have first := Nat.div_add_mod value unit
      have second := Nat.div_add_mod other unit
      rw [same] at first
      omega
    unfold roundHalfEven
    dsimp only
    rw [same]
    grind

theorem le_roundHalfEven {count : ℕ} (positive : 0 < unit) (below : unit * count ≤ value) :
    count ≤ roundHalfEven value unit := by
  have exact := roundHalfEven_of_dvd positive (Dvd.intro count rfl)
  rw [Nat.mul_div_cancel_left _ positive] at exact
  rw [← exact]
  exact roundHalfEven_mono below

theorem roundHalfEven_le {count : ℕ} (positive : 0 < unit) (above : value ≤ unit * count) :
    roundHalfEven value unit ≤ count := by
  have exact := roundHalfEven_of_dvd positive (Dvd.intro count rfl)
  rw [Nat.mul_div_cancel_left _ positive] at exact
  rw [← exact]
  exact roundHalfEven_mono above

/-- Unit and value can be scaled together. -/
theorem roundHalfEven_mul (value unit : ℕ) {scale : ℕ} (positive : 0 < scale) :
    roundHalfEven (value * scale) (unit * scale) = roundHalfEven value unit := by
  have less (first second : ℕ) : first * scale < second * scale ↔ first < second :=
    Nat.mul_lt_mul_right positive
  unfold roundHalfEven
  dsimp only
  rw [Nat.mul_div_mul_right _ _ positive, Nat.mul_mod_mul_right, ← mul_assoc]
  simp only [less]

end RoundHalfEven

/-- The integers of 64-bit words, with a sign or without. -/
def words : Set ℤ := Set.Ico minWord (2 ^ 64)

def lastPlace (value : ℕ) : ℕ := 2 ^ (value.log2 - 52)

/-- A natural number to 53 significant bits. -/
def roundedNat (value : ℕ) : ℕ := lastPlace value * roundHalfEven value (lastPlace value)

/-- An integer to 53 significant bits: the nearest such integer, halfway between two the one that ends in a
zero bit. -/
def rounded (value : ℤ) : ℤ := value.sign * roundedNat value.natAbs

section Rounded

variable {value other : ℕ}

theorem lastPlace_pos (value : ℕ) : 0 < lastPlace value := Nat.two_pow_pos _

/-- A multiple of the last place that is not above a number is not above what that is rounded to. -/
theorem le_roundedNat {multiple : ℕ} (divides : lastPlace value ∣ multiple) (below : multiple ≤ value) :
    multiple ≤ roundedNat value := by
  obtain ⟨count, rfl⟩ := divides
  exact Nat.mul_le_mul_left _ (le_roundHalfEven (lastPlace_pos value) below)

theorem roundedNat_le {multiple : ℕ} (divides : lastPlace value ∣ multiple) (above : value ≤ multiple) :
    roundedNat value ≤ multiple := by
  obtain ⟨count, rfl⟩ := divides
  exact Nat.mul_le_mul_left _ (roundHalfEven_le (lastPlace_pos value) above)

/-- What the last place divides is not changed. -/
theorem roundedNat_of_dvd (divides : lastPlace value ∣ value) : roundedNat value = value :=
  le_antisymm (roundedNat_le divides le_rfl) (le_roundedNat divides le_rfl)

theorem lastPlace_dvd_two_pow {power : ℕ} (enough : value.log2 ≤ power) : lastPlace value ∣ 2 ^ power :=
  pow_dvd_pow 2 ((Nat.sub_le _ _).trans enough)

/-- Up to 53 bits a number stays as it is. -/
theorem roundedNat_of_small (small : value ≤ 2 ^ 53) : roundedNat value = value := by
  apply roundedNat_of_dvd
  rcases small.lt_or_eq with less | rfl
  · have bits : value.log2 ≤ 52 := by
      rcases Nat.eq_zero_or_pos value with rfl | positive
      · decide
      · exact Nat.le_of_lt_succ ((Nat.log2_lt positive.ne').mpr less)
    rw [lastPlace, Nat.sub_eq_zero_of_le bits]
    exact one_dvd value
  · exact lastPlace_dvd_two_pow (by rw [Nat.log2_two_pow])

theorem roundedNat_pos (positive : 0 < value) : 0 < roundedNat value :=
  (Nat.two_pow_pos _).trans_le
    (le_roundedNat (lastPlace_dvd_two_pow le_rfl) (Nat.log2_self_le positive.ne'))

theorem roundedNat_mono (below : value ≤ other) : roundedNat value ≤ roundedNat other := by
  rcases Nat.eq_zero_or_pos value with rfl | positive
  · exact Nat.zero_le _
  have nonzero : other ≠ 0 := (positive.trans_le below).ne'
  have bits : value.log2 ≤ other.log2 :=
    (Nat.le_log2 nonzero).mpr ((Nat.log2_self_le positive.ne').trans below)
  rcases bits.lt_or_eq with fewer | same
  · -- The power of two between them is a multiple of both last places.
    calc roundedNat value ≤ 2 ^ other.log2 :=
          roundedNat_le (lastPlace_dvd_two_pow fewer.le)
            ((Nat.log2_lt positive.ne').mp fewer).le
      _ ≤ roundedNat other :=
          le_roundedNat (lastPlace_dvd_two_pow le_rfl) (Nat.log2_self_le nonzero)
  · unfold roundedNat
    have place : lastPlace value = lastPlace other := by rw [lastPlace, lastPlace, same]
    rw [place]
    exact Nat.mul_le_mul_left _ (roundHalfEven_mono below)

end Rounded

/-- A mantissa counts a unit, and the two bits behind it tell where the value stands between two counts. -/
structure Counts (mantissa : ExtendedMantissa) (value unit : ℕ) : Prop where
  count : mantissa.mantissa = value / unit
  half : mantissa.roundBit = true ↔ unit ≤ 2 * (value % unit)
  rest : mantissa.stickyBit = true ↔ 2 * (value % unit) ≠ 0 ∧ 2 * (value % unit) ≠ unit

namespace Counts

variable {mantissa : ExtendedMantissa} {value unit : ℕ}

theorem ofExact (value : ℕ) : Counts (.ofMantissaAndAccuracy value .exact) value 1 where
  count := (Nat.div_one value).symm
  half := by simp [ExtendedMantissa.ofMantissaAndAccuracy, Nat.mod_one]
  rest := by simp [ExtendedMantissa.ofMantissaAndAccuracy, Nat.mod_one]

/-- One bit less counts a unit of twice the size. -/
theorem shiftRightOne (counts : Counts mantissa value unit) (positive : 0 < unit) :
    Counts mantissa.shiftRightOne value (unit * 2) := by
  have small := Nat.mod_lt value positive
  have parts : value % (unit * 2) = value % unit + unit * (value / unit % 2) := Nat.mod_mul
  have bit := Nat.mod_two_eq_zero_or_one (value / unit)
  constructor
  · rw [ExtendedMantissa.shiftRightOne, counts.count, Nat.div_div_eq_div_mul]
  · simp only [ExtendedMantissa.shiftRightOne, counts.count, bne_iff_ne]
    rcases bit with even | odd
    · rw [parts, even]
      omega
    · rw [parts, odd]
      omega
  · simp only [ExtendedMantissa.shiftRightOne, Bool.or_eq_true, counts.half, counts.rest]
    rcases bit with even | odd
    · rw [parts, even]
      omega
    · rw [parts, odd]
      omega

theorem shiftRight (value places : ℕ) :
    Counts (ExtendedMantissa.ofMantissaAndAccuracy value .exact >>> places) value (2 ^ places) := by
  change Counts (places.repeat ExtendedMantissa.shiftRightOne _) value (2 ^ places)
  induction places with
  | zero => exact ofExact value
  | succ places ih => exact ih.shiftRightOne (Nat.two_pow_pos places)

/-- The bits decide as the value itself does. -/
theorem roundedMantissa (counts : Counts mantissa value unit) :
    mantissa.roundedMantissa = roundHalfEven value unit := by
  obtain ⟨count, half, rest⟩ := counts
  obtain ⟨mantissa, roundBit, stickyBit⟩ := mantissa
  dsimp only at count half rest
  subst count
  unfold roundHalfEven
  cases roundBit <;> cases stickyBit <;>
    simp [ExtendedMantissa.roundedMantissa, ExtendedMantissa.accuracy, Accuracy.roundToNearestEven]
      at half rest ⊢ <;>
    grind

end Counts

/-- A double of 53 significant bits with a sign and a size. -/
inductive Normal (sign : Sign) (size : ℚ) : UnpackedFloat → Prop
  | of {mantissa : ℕ} {exponent : ℤ} (positive : 0 < mantissa) (canonical : Canonical mantissa exponent)
      (full : 2 ^ 52 ≤ mantissa) (exact : (mantissa : ℚ) * 2 ^ exponent = size) :
      Normal sign size (.finite sign mantissa exponent positive)

section Rounds

variable {mantissa places : ℕ} {exponent : ℤ}

private theorem shiftToTargetExponent_eq (bits : mantissa.log2 = 52 + places)
    (least : -1074 ≤ exponent + places) :
    UnpackedFloat.shiftToTargetExponent Format.binary64 mantissa exponent .exact =
      (ExtendedMantissa.ofMantissaAndAccuracy mantissa .exact >>> places, exponent + places) := by
  have target : Format.targetExponent Format.binary64 (Float.Model.totalExponent mantissa exponent) =
      exponent + places := by
    change max ((mantissa.log2 + 1 + exponent : ℤ) - 53) (-1074) = _
    rw [bits]
    omega
  rw [UnpackedFloat.shiftToTargetExponent, UnpackedFloat.shiftToExponent, target]
  simp

/-- The count of units is a full mantissa, or the first power of two after those. -/
private theorem roundHalfEven_full (bits : mantissa.log2 = 52 + places) :
    2 ^ 52 ≤ roundHalfEven mantissa (2 ^ places) ∧ roundHalfEven mantissa (2 ^ places) ≤ 2 ^ 53 := by
  have nonzero : mantissa ≠ 0 := by
    rintro rfl
    rw [Nat.log2_zero] at bits
    omega
  obtain ⟨low, high⟩ := (Nat.log2_eq_iff nonzero).mp bits
  constructor
  · apply le_roundHalfEven (Nat.two_pow_pos places)
    rwa [← pow_add, add_comm]
  · apply roundHalfEven_le (Nat.two_pow_pos places)
    rw [← pow_add, show places + 53 = 52 + places + 1 by omega]
    exact high.le

/-- Bits beyond 53 are rounded off. -/
theorem roundWithAccuracy_normal (exponent : ℤ) (sign : Sign) (bits : mantissa.log2 = 52 + places)
    (least : -1074 ≤ exponent + places) (most : exponent + places < 971) :
    Normal sign (roundHalfEven mantissa (2 ^ places) * 2 ^ (exponent + places))
      (UnpackedFloat.roundWithAccuracy Format.binary64 sign mantissa exponent .exact) := by
  have rounds := (Counts.shiftRight mantissa places).roundedMantissa
  obtain ⟨full, bounded⟩ := roundHalfEven_full bits
  rw [UnpackedFloat.roundWithAccuracy, shiftToTargetExponent_eq bits least]
  dsimp only
  rw [rounds]
  generalize roundHalfEven mantissa (2 ^ places) = count at full bounded ⊢
  rcases bounded.lt_or_eq with small | rfl
  · have length : count.log2 = 52 + 0 := (Nat.log2_eq_iff (by omega)).mpr ⟨full, small⟩
    rw [shiftToTargetExponent_eq length (by simpa using least)]
    have last := (Counts.shiftRight count 0).count
    rw [pow_zero, Nat.div_one] at last
    simp only [last]
    rw [dif_neg (by omega)]
    exact .of _ ⟨small, by simpa using least, by simpa using most.le, fun _ => full⟩ full (by simp)
  · -- Rounding has carried into one bit more, which is taken off again.
    have length : (2 ^ 53 : ℕ).log2 = 52 + 1 := Nat.log2_two_pow
    rw [shiftToTargetExponent_eq length (by push_cast; omega)]
    have last := (Counts.shiftRight (2 ^ 53) 1).count
    simp only [last]
    rw [dif_neg (by decide)]
    refine .of _ ⟨by decide, by push_cast; omega, by push_cast; omega, fun _ => by decide⟩ (by decide) ?_
    push_cast
    rw [zpow_add₀ two_ne_zero (exponent + places)]
    norm_num
    ring

end Rounds

/-- The bits of a double of 53 significant bits. -/
private theorem pack_full {mantissa field : ℕ} (sign : Sign) (full : 2 ^ 52 ≤ mantissa)
    (small : mantissa < 2 ^ 53) (last : field < 2047) (positive : 0 < mantissa) :
    UnpackedFloat.pack Format.binary64 (.finite sign mantissa (field - 1075) positive) =
      UnpackedFloat.packComponents Format.binary64 sign (BitVec.ofNat 11 field) (BitVec.ofNat 52 mantissa) := by
  have length : mantissa.log2 = 52 := (Nat.log2_eq_iff positive.ne').mpr ⟨full, small⟩
  have biased : ((field - 1075 : ℤ) + (1023 : ℕ) + (52 : ℕ)).toNat = field := by omega
  unfold UnpackedFloat.pack
  dsimp only
  rw [if_neg, if_pos]
  · exact congrArg (fun field => UnpackedFloat.packComponents Format.binary64 sign (BitVec.ofNat 11 field) _)
      biased
  · rw [length]
    rfl
  · change ¬ 2 ^ 11 ≤ ((field - 1075 : ℤ) + (1023 : ℕ) + (52 : ℕ)).toNat + 1
    omega

namespace Normal

variable {sign : Sign} {size : ℚ} {value : UnpackedFloat}

/-- A double of 53 significant bits is read as it is written. -/
theorem unpack_pack (normal : Normal sign size value) : (Float.Model.pack value).unpack = value := by
  cases normal with
  | @of mantissa exponent positive canonical full exact =>
    have small := canonical.small
    obtain ⟨field, shift, inside, last⟩ :
        ∃ field : ℕ, exponent = field - 1075 ∧ 0 < field ∧ field < 2047 := by
      have := canonical.least
      have := canonical.most
      exact ⟨(exponent + 1075).toNat, by omega, by omega, by omega⟩
    subst shift
    have between : BitVec.ofNat 11 field ≠ -1#11 ∧ BitVec.ofNat 11 field ≠ 0#11 := by
      constructor <;> intro same <;> have := congrArg BitVec.toNat same <;> simp at this <;> omega
    change UnpackedFloat.unpack Format.binary64 (UnpackedFloat.pack _ _) = _
    rw [pack_full sign full small last]
    unfold UnpackedFloat.unpack
    simp only [UnpackedFloat.unpackExponent_packComponents, UnpackedFloat.unpackMantissa_packComponents,
      UnpackedFloat.unpackSign_packComponents, Sign.ofBitVec_toBitVec]
    rw [if_neg between.1, if_neg between.2]
    congr 1
    · rw [BitVec.toNat_append, ← Nat.shiftLeft_add_eq_or_of_lt (BitVec.isLt _)]
      simp
      omega
    · rw [BitVec.toNat_ofNat, Nat.mod_eq_of_lt (by omega)]
      rfl

theorem neg (normal : Normal sign size value) : Normal (-sign) size value.neg := by
  cases normal with
  | of positive canonical full exact => exact .of positive canonical full exact

end Normal

section OfNat

variable {value : ℕ}

theorem log2_mul_two_pow (nonzero : value ≠ 0) (places : ℕ) :
    (value * 2 ^ places).log2 = value.log2 + places := by
  induction places with
  | zero => simp
  | succ places ih =>
    rw [pow_succ', mul_left_comm, Nat.log2_two_mul (by positivity), ih]
    rfl

/-- Fewer than 53 bits are filled up, and nothing is rounded off. -/
private theorem ofNat_small (positive : 0 < value) (bits : value.log2 ≤ 52) :
    Normal .positive value (UnpackedFloat.ofNat Format.binary64 value) := by
  obtain ⟨places, missing⟩ := Nat.exists_eq_add_of_le bits
  have target : Format.targetExponent Format.binary64 (Float.Model.totalExponent value 0) = -places := by
    change max ((value.log2 + 1 + 0 : ℤ) - 53) (-1074) = _
    omega
  have filled : (value * 2 ^ places).log2 = 52 + 0 := by
    rw [log2_mul_two_pow positive.ne', ← missing]
  have normal := roundWithAccuracy_normal (-places) .positive filled (by omega) (by omega)
  have sign : compare (value : ℤ) 0 = .gt := compare_gt_iff_gt.mpr (by omega)
  rw [UnpackedFloat.ofNat, UnpackedFloat.ofInt, UnpackedFloat.normalize, sign]
  dsimp only
  rw [Int.toNat_natCast, UnpackedFloat.round, target, UnpackedFloat.decreaseExponent]
  simp only [zero_sub, neg_neg, Int.toNat_natCast, Nat.shiftLeft_eq]
  rw [pow_zero, roundHalfEven_of_dvd Nat.one_pos (one_dvd _), Nat.div_one] at normal
  have scale : ((value * 2 ^ places : ℕ) : ℚ) * 2 ^ (-(places : ℤ) + (0 : ℕ)) = value := by
    rw [Nat.cast_zero, add_zero, zpow_neg, zpow_natCast, Nat.cast_mul, Nat.cast_pow, Nat.cast_ofNat,
      mul_inv_cancel_right₀ (by positivity)]
  rwa [scale] at normal

/-- Below `2 ^ 53` a number is a double, and one times it is the same double. -/
private theorem mul_one_small (positive : 0 < value) (bits : value.log2 ≤ 52) :
    Normal .positive value (UnpackedFloat.mul Format.binary64 (UnpackedFloat.ofNat Format.binary64 value)
      (.finite .positive (2 ^ 52) (-52) (by decide))) := by
  have bound : (value : ℚ) < 2 ^ 53 := by
    exact_mod_cast (Nat.log2_lt positive.ne').mp (Nat.lt_succ_of_le bits)
  have small := ofNat_small positive bits
  generalize UnpackedFloat.ofNat Format.binary64 value = double at small
  cases small with
  | @of mantissa exponent positive canonical full exact =>
    have length : mantissa.log2 = 52 := (Nat.log2_eq_iff positive.ne').mpr ⟨full, canonical.small⟩
    have twice : (mantissa * 2 ^ 52).log2 = 52 + 52 := by rw [log2_mul_two_pow positive.ne', length]
    have place : exponent < 1 := by
      have large : (2 : ℚ) ^ 52 ≤ mantissa := by exact_mod_cast full
      have size : (2 : ℚ) ^ (52 + exponent) < 2 ^ (53 : ℤ) :=
        calc (2 : ℚ) ^ (52 + exponent) = 2 ^ 52 * 2 ^ exponent := by rw [zpow_add₀ two_ne_zero]; norm_num
          _ ≤ mantissa * 2 ^ exponent := mul_le_mul_of_nonneg_right large (by positivity)
          _ < 2 ^ (53 : ℤ) := by rw [exact]; exact_mod_cast bound
      have := (zpow_lt_zpow_iff_right₀ one_lt_two).mp size
      omega
    have least := canonical.least
    have normal := roundWithAccuracy_normal (exponent + -52) .positive twice
      (by push_cast; omega) (by push_cast; omega)
    rw [roundHalfEven_of_dvd (Nat.two_pow_pos 52) (Dvd.intro_left _ rfl), Nat.mul_div_cancel _ (by decide),
      show exponent + -52 + (52 : ℕ) = exponent by omega, exact] at normal
    exact normal

/-- From `2 ^ 53` on a number is shifted to 53 bits. -/
private theorem ofScientific_large (large : 2 ^ 53 ≤ value) (bounded : value < 2 ^ 64) :
    Normal .positive (roundedNat value) (UnpackedFloat.ofScientific Format.binary64 value 0) := by
  have positive : 0 < value := (Nat.two_pow_pos 53).trans_le large
  have atLeast : 53 ≤ value.log2 := (Nat.le_log2 positive.ne').mpr large
  have atMost : value.log2 < 64 := (Nat.log2_lt positive.ne').mpr bounded
  have bits : (value * 2 ^ 53).log2 = 52 + (value.log2 + 1) := by
    rw [log2_mul_two_pow positive.ne']
    omega
  have normal := roundWithAccuracy_normal (-53) .positive bits (by push_cast; omega)
    (by push_cast; omega)
  have count : roundHalfEven (value * 2 ^ 53) (2 ^ (value.log2 + 1)) =
      roundHalfEven value (lastPlace value) := by
    rw [show value.log2 + 1 = value.log2 - 52 + 53 by omega, pow_add]
    exact roundHalfEven_mul value (lastPlace value) (Nat.two_pow_pos 53)
  have place : (-53 + (value.log2 + 1 : ℕ) : ℤ) = (value.log2 - 52 : ℕ) := by omega
  have size : (lastPlace value * roundHalfEven value (lastPlace value) : ℚ) = roundedNat value := by
    rw [roundedNat, Nat.cast_mul]
  rw [count, place, zpow_natCast, mul_comm, ← Nat.cast_two, ← Nat.cast_pow, ← lastPlace, size] at normal
  have factor : value <<< Format.mantissaBits Format.binary64 * 10 ^ (0 : ℤ).toNat = value * 2 ^ 53 := by
    rw [Int.toNat_zero, pow_zero, mul_one, Nat.shiftLeft_eq]
    rfl
  rw [← factor] at normal
  unfold UnpackedFloat.ofScientific
  rw [dif_neg positive.ne', if_neg (by decide), if_neg (by simp), if_pos (Int.le_refl 0)]
  exact normal

/-- The double nearest to a natural number. -/
theorem ofNat_normal (positive : 0 < value) (bounded : value < 2 ^ 64) :
    Normal .positive (roundedNat value) (Float.ofNat value).toModel.unpack := by
  change Normal _ _ (Float.ofScientific value false 0).toModel.unpack
  unfold Float.ofScientific
  split
  · rename_i small
    have bits : value.log2 < 53 := (Nat.log2_lt positive.ne').mpr small.1
    have word : value.toUInt64.toNat = value := Nat.mod_eq_of_lt (by omega)
    have normal := mul_one_small positive (by omega)
    change Normal _ _ (Float.Model.pack (UnpackedFloat.mul _
      (Float.Model.pack (UnpackedFloat.ofNat Format.binary64 value.toUInt64.toNat)).unpack
      (Float.exactlyRepresentablePowersOfTen[0]).toModel.unpack)).unpack
    rw [unpack_one, word, (ofNat_small positive (by omega)).unpack_pack, normal.unpack_pack,
      roundedNat_of_small small.1.le]
    exact normal
  · rename_i large
    have normal := ofScientific_large (by omega) bounded
    have reads := normal.unpack_pack
    change Normal _ _ (Float.Model.pack (UnpackedFloat.ofScientific Format.binary64 value 0)).unpack
    rw [reads]
    exact normal

end OfNat

/-- A double that is equal to an integer. -/
inductive Whole : ℤ → UnpackedFloat → Prop
  | zero (sign : Sign) : Whole 0 (.zero sign)
  | positive {size : ℕ} {value : UnpackedFloat} (nonzero : 0 < size) (normal : Normal .positive size value) :
      Whole size value
  | negative {size : ℕ} {value : UnpackedFloat} (nonzero : 0 < size) (normal : Normal .negative size value) :
      Whole (-size) value

section Places

private theorem size_lt_of_exponent_lt {low high : ℕ} {least most : ℤ} (small : low < 2 ^ 53)
    (full : 2 ^ 52 ≤ high) (lower : least < most) : (low : ℚ) * 2 ^ least < high * 2 ^ most := by
  have twice : (low : ℚ) < high * 2 := by exact_mod_cast (by omega : low < high * 2)
  calc (low : ℚ) * 2 ^ least < high * 2 * 2 ^ least := mul_lt_mul_of_pos_right twice (by positivity)
    _ = high * 2 ^ (1 + least) := by rw [zpow_add₀ two_ne_zero, zpow_one, mul_assoc]
    _ ≤ high * 2 ^ most :=
      mul_le_mul_of_nonneg_left (zpow_le_zpow_right₀ one_le_two (by omega)) (by positivity)

/-- Doubles of 53 significant bits are as large as their exponents and then their mantissas tell. -/
private theorem compare_size {mantissa other size size' : ℕ} {exponent place : ℤ}
    (canonical : Canonical mantissa exponent) (canonical' : Canonical other place) (full : 2 ^ 52 ≤ mantissa)
    (full' : 2 ^ 52 ≤ other) (exact : (mantissa : ℚ) * 2 ^ exponent = size)
    (exact' : (other : ℚ) * 2 ^ place = size') :
    compare size size' = (compare exponent place).then (compare mantissa other) := by
  have sizes : compare size size' = compare ((mantissa : ℚ) * 2 ^ exponent) (other * 2 ^ place) := by
    rw [exact, exact', ← cmp_eq_compare, ← cmp_eq_compare]
    exact (Nat.strictMono_cast.cmp_map_eq size size').symm
  rw [sizes]
  rcases lt_trichotomy exponent place with lower | rfl | higher
  · rw [compare_lt_iff_lt.mpr lower, compare_lt_iff_lt.mpr (size_lt_of_exponent_lt canonical.small full' lower)]
    rfl
  · have scaled : StrictMono fun count : ℕ => (count : ℚ) * 2 ^ exponent := by
      intro low high less
      exact mul_lt_mul_of_pos_right (Nat.cast_lt.mpr less) (by positivity)
    rw [compare_eq_iff_eq.mpr rfl, Ordering.eq_then, ← cmp_eq_compare, ← cmp_eq_compare]
    exact scaled.cmp_map_eq mantissa other
  · rw [compare_gt_iff_gt.mpr higher, compare_gt_iff_gt.mpr (size_lt_of_exponent_lt canonical'.small full higher)]
    rfl

variable {size other : ℕ} {left right : UnpackedFloat}

private theorem compare_positive (one : Normal .positive size left)
    (another : Normal .positive other right) : compare (place left) (place right) = compare size other := by
  cases one with
  | of _ canonical full exact =>
    cases another with
    | of _ canonical' full' exact' =>
      rw [place, place, compare_sameSign, compare_natCast,
        compare_size canonical canonical' full full' exact exact']

private theorem compare_negative (one : Normal .negative size left)
    (another : Normal .negative other right) : compare (place left) (place right) = compare other size := by
  cases one with
  | of _ canonical full exact =>
    cases another with
    | of _ canonical' full' exact' =>
      rw [place, place, compare_sameSign, compare_neg, compare_neg, compare_natCast, ← Ordering.swap_then,
        ← compare_size canonical canonical' full full' exact exact']
      exact Std.OrientedOrd.eq_swap.symm

/-- Whole doubles have their places as their integers do. -/
theorem compare_place {first second : ℤ} (one : Whole first left) (another : Whole second right) :
    compare (place left) (place right) = compare first second := by
  cases one with
  | zero =>
    cases another with
    | zero => rfl
    | positive nonzero normal =>
      cases normal
      rw [place, place, compare_below Int.one_pos, compare_lt_iff_lt.mpr (by omega)]
    | negative nonzero normal =>
      cases normal
      rw [place, place, compare_above (by decide), compare_gt_iff_gt.mpr (by omega)]
  | positive nonzero normal =>
    cases another with
    | zero =>
      cases normal
      rw [place, place, compare_above Int.one_pos, compare_gt_iff_gt.mpr (by omega)]
    | positive _ normal' => rw [compare_positive normal normal', compare_natCast]
    | negative _ normal' =>
      cases normal
      cases normal'
      rw [place, place, compare_above (by decide), compare_gt_iff_gt.mpr (by omega)]
  | negative nonzero normal =>
    cases another with
    | zero =>
      cases normal
      rw [place, place, compare_below (by decide), compare_lt_iff_lt.mpr (by omega)]
    | positive _ normal' =>
      cases normal
      cases normal'
      rw [place, place, compare_below (by decide), compare_lt_iff_lt.mpr (by omega)]
    | negative _ normal' =>
      rw [compare_negative normal normal', compare_neg, compare_natCast]
      exact Std.OrientedOrd.eq_swap

end Places

theorem rounded_natCast (size : ℕ) : rounded size = roundedNat size := by
  rcases Nat.eq_zero_or_pos size with rfl | positive
  · rfl
  · rw [rounded, Int.sign_natCast_of_ne_zero positive.ne', Int.natAbs_natCast, one_mul]

theorem rounded_neg (value : ℤ) : rounded (-value) = -rounded value := by
  rw [rounded, rounded, Int.sign_neg, Int.natAbs_neg, neg_mul]

/-- Integers of up to 53 bits stay as they are. -/
theorem rounded_of_small {value : ℤ} (small : value.natAbs ≤ 2 ^ 53) : rounded value = value := by
  rw [rounded, roundedNat_of_small small, Int.sign_mul_natAbs]

theorem rounded_mono : Monotone rounded := by
  intro first second below
  rcases Int.le_total 0 first with nonneg | negative
  · lift first to ℕ using nonneg
    lift second to ℕ using (Int.natCast_nonneg first).trans below
    rw [rounded_natCast, rounded_natCast]
    exact_mod_cast roundedNat_mono (Int.ofNat_le.mp below)
  · obtain ⟨size, rfl⟩ := Int.exists_eq_neg_ofNat negative
    rcases Int.le_total 0 second with nonneg' | negative'
    · lift second to ℕ using nonneg'
      rw [rounded_neg, rounded_natCast, rounded_natCast]
      omega
    · obtain ⟨other, rfl⟩ := Int.exists_eq_neg_ofNat negative'
      rw [rounded_neg, rounded_neg, rounded_natCast, rounded_natCast]
      have := roundedNat_mono (show other ≤ size by omega)
      omega

/-- The double of an integer is equal to the integer to 53 significant bits. -/
theorem ofInt_whole {value : ℤ} (word : value ∈ words) :
    Whole (rounded value) (Float.ofInt value).toModel.unpack := by
  have bounded : value.natAbs < 2 ^ 64 := by
    obtain ⟨low, high⟩ := word
    change -9223372036854775808 ≤ value at low
    omega
  cases value with
  | ofNat size =>
    rw [Int.ofNat_eq_natCast, rounded_natCast]
    rcases Nat.eq_zero_or_pos size with rfl | positive
    · exact .zero .positive
    · exact .positive (roundedNat_pos positive) (ofNat_normal positive bounded)
  | negSucc size =>
    have normal := (ofNat_normal size.succ_pos bounded).neg
    have reads := normal.unpack_pack
    rw [Int.negSucc_eq, rounded_neg, ← Nat.cast_succ, rounded_natCast]
    change Whole _ (Float.Model.pack _).unpack
    rw [reads]
    exact .negative (roundedNat_pos size.succ_pos) normal

section Integers

variable {left right : ℤ}

theorem compare_rank_int (first : left ∈ words) (second : right ∈ words) :
    compare (int left).rank (int right).rank = compare (rounded left) (rounded right) :=
  compare_place (ofInt_whole first) (ofInt_whole second)

/-- Integers are ordered as they are to 53 significant bits. -/
theorem order_int (first : left ∈ words) (second : right ∈ words) :
    (int left).order (int right) = compare (rounded left) (rounded right) := by
  rw [← compare_rank_int first second]
  exact order_eq_compare trivial trivial

theorem numericallyEqual_int (first : left ∈ words) (second : right ∈ words) :
    (int left).numericallyEqual (int right) = true ↔ rounded left = rounded right :=
  calc (int left).numericallyEqual (int right) = true ↔ (int left).rank = (int right).rank :=
        numericallyEqual_iff trivial trivial
    _ ↔ rounded left = rounded right := by
      rw [← compare_eq_iff_eq, compare_rank_int first second, compare_eq_iff_eq]

end Integers

end Terradoc.Number
