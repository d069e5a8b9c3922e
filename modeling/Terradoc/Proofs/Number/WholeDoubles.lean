import Terradoc.Proofs.Number.WholeView

/-! Doubles that are whole. One in the range of the 64-bit words is read as an integer, and the double of that
integer is the same number again. -/

namespace Terradoc.Number

open Float.Model (UnpackedFloat Format)
open Float.Model.UnpackedFloat (Sign)

def signOf (double : Float) : Sign := if signBit double = 0 then .positive else .negative

section Unpack

variable {double : Float} {mantissa : ℕ} {exponent : ℤ}

theorem ofBitVec_unpackSign (double : Float) :
    Sign.ofBitVec (@UnpackedFloat.unpackSign Format.binary64 double.toModel.toBits.toBitVec) = signOf double := by
  rw [Sign.ofBitVec, signOf, ← (bits_fields double).1]
  congr 1
  rw [← BitVec.toNat_inj]
  rfl

/-- A finite double, unpacked, has the mantissa and the exponent that it stands for. -/
theorem unpack_of_dyadic?
    (exact : dyadic? double = some ⟨(if signBit double = 0 then 1 else -1) * (mantissa : ℤ), exponent⟩) :
    double.toModel.unpack =
      if positive : 0 < mantissa then .finite (signOf double) mantissa exponent positive
      else .zero (signOf double) := by
  obtain ⟨_, fields, fractions⟩ := bits_fields double
  obtain ⟨notLast, parts⟩ := fields_of_dyadic? exact
  have subnormal : (@UnpackedFloat.unpackExponent Format.binary64 double.toModel.toBits.toBitVec).toNat = 0 ↔
      @UnpackedFloat.unpackExponent Format.binary64 double.toModel.toBits.toBitVec = 0#11 :=
    @BitVec.toNat_inj 11 _ 0#11
  rw [← fields, ← fractions] at parts
  rw [← fields] at notLast
  unfold Float.Model.unpack UnpackedFloat.unpack
  dsimp only
  rw [ofBitVec_unpackSign]
  split
  · rename_i last
    rw [last] at notLast
    exact absurd rfl notLast
  split
  · rename_i zero
    rw [if_pos (subnormal.mpr zero)] at parts
    obtain ⟨rfl, rfl⟩ := parts
    split
    · rename_i nothing
      rw [dif_neg (by simp [nothing])]
    · rename_i something
      rw [dif_pos (Nat.pos_of_ne_zero fun same => something (BitVec.toNat_inj.mp same)), zero]
      rfl
  · rename_i nonzero
    rw [if_neg (mt subnormal.mp nonzero)] at parts
    obtain ⟨rfl, rfl⟩ := parts
    rw [dif_pos (Nat.add_pos_right _ (by decide))]
    congr 1
    rw [BitVec.toNat_append, ← Nat.shiftLeft_add_eq_or_of_lt (BitVec.isLt _), add_comm]
    rfl

end Unpack

section Whole

variable {double : Float} {dyadic : Dyadic} {whole : ℤ}

/-- What a mantissa and an exponent of a double make up has no more than 53 significant bits. -/
theorem roundedNat_canonical {mantissa size : ℕ} {exponent : ℤ} (canonical : Canonical mantissa exponent)
    (exact : (mantissa : ℚ) * 2 ^ exponent = size) : roundedNat size = size := by
  rcases Int.lt_or_le 0 exponent with positive | small
  · lift exponent to ℕ using positive.le
    have full := canonical.normal (by omega)
    have length : mantissa.log2 = 52 := (Nat.log2_eq_iff (by omega)).mpr ⟨full, canonical.small⟩
    rw [zpow_natCast] at exact
    obtain rfl : mantissa * 2 ^ exponent = size := by exact_mod_cast exact
    apply roundedNat_of_dvd
    rw [lastPlace, log2_mul_two_pow (by omega), length, Nat.add_sub_cancel_left]
    exact Nat.dvd_mul_left _ _
  · have bound : (mantissa : ℚ) * 2 ^ exponent ≤ mantissa :=
      mul_le_of_le_one_right (Nat.cast_nonneg _) (zpow_le_one_of_nonpos₀ one_le_two small)
    rw [exact] at bound
    exact roundedNat_of_small ((Nat.cast_le.mp bound).trans canonical.small.le)

/-- A number of at least one has a mantissa of 53 bits. -/
theorem Canonical.full_of_one_le {mantissa : ℕ} {exponent : ℤ} (canonical : Canonical mantissa exponent)
    (large : 1 ≤ (mantissa : ℚ) * 2 ^ exponent) : 2 ^ 52 ≤ mantissa := by
  by_contra less
  obtain rfl : exponent = -1074 := by
    by_contra other
    exact less (canonical.normal (by have := canonical.least; omega))
  have small : (mantissa : ℚ) ≤ 2 ^ 52 := by exact_mod_cast (Nat.lt_of_not_le less).le
  have tiny : (mantissa : ℚ) * 2 ^ (-1074 : ℤ) < 1 :=
    calc (mantissa : ℚ) * 2 ^ (-1074 : ℤ) ≤ 2 ^ (52 : ℤ) * 2 ^ (-1074 : ℤ) :=
          mul_le_mul_of_nonneg_right (by exact_mod_cast small) (by positivity)
      _ = 2 ^ (-1022 : ℤ) := (zpow_add₀ two_ne_zero _ _).symm
      _ < 1 := zpow_lt_one_of_neg₀ one_lt_two (by decide)
  exact large.not_gt tiny

theorem rounded_of_dyadic? (finite : dyadic? double = some dyadic) (same : dyadic.value = whole) :
    rounded whole = whole := by
  obtain ⟨mantissa, exponent, size, canonical, _, exact, rfl⟩ := dyadic?_size finite same
  have kept := roundedNat_canonical canonical exact
  split
  · rw [one_mul, rounded_natCast, kept]
  · rw [neg_one_mul, rounded_neg, rounded_natCast, kept]

theorem whole_of_dyadic? (finite : dyadic? double = some dyadic) (same : dyadic.value = whole) :
    Whole whole double.toModel.unpack := by
  obtain ⟨mantissa, exponent, size, canonical, shape, exact, rfl⟩ := dyadic?_size finite same
  rw [unpack_of_dyadic? shape]
  by_cases positive : 0 < mantissa
  · have one_le : 1 ≤ size := by
      have : (0 : ℚ) < mantissa * 2 ^ exponent := mul_pos (Nat.cast_pos.mpr positive) (by positivity)
      rw [exact] at this
      exact_mod_cast this
    have full := canonical.full_of_one_le (exact ▸ Nat.one_le_cast.mpr one_le)
    rw [dif_pos positive, signOf]
    split
    · rw [one_mul]
      exact .positive one_le (.of positive canonical full exact)
    · rw [neg_one_mul]
      exact .negative one_le (.of positive canonical full exact)
  · obtain rfl := Nat.eq_zero_of_not_pos positive
    rw [Nat.cast_zero, zero_mul] at exact
    obtain rfl : size = 0 := by exact_mod_cast exact.symm
    rw [dif_neg positive, Nat.cast_zero, mul_zero]
    exact .zero _

/-- The double of the integer that a double is equal to is the same number. -/
theorem numericallyEqual_whole (finite : dyadic? double = some dyadic) (same : dyadic.value = whole)
    (word : whole ∈ words) : (int whole).numericallyEqual (float double) = true := by
  have nearest := ofInt_whole word
  rw [rounded_of_dyadic? finite same] at nearest
  have integer : (int whole).Finite := trivial
  have number : (float double).Finite := (finite ▸ rfl : (dyadic? double).isSome)
  refine (numericallyEqual_iff integer number).mpr ?_
  exact compare_eq_iff_eq.mp ((compare_place nearest (whole_of_dyadic? finite same)).trans
    (compare_eq_iff_eq.mpr rfl))

/-- A finite double that is read as a number is the same number. -/
theorem ofFloat?_equal (finite : (dyadic? double).isSome) :
    ∃ number, ofFloat? double = some number ∧ number.numericallyEqual (float double) = true := by
  have number : (float double).Finite := finite
  have itself := (numericallyEqual_iff number number).mpr rfl
  obtain ⟨dyadic, shape⟩ := Option.isSome_iff_exists.mp finite
  rw [ofFloat?, shape]
  dsimp only
  split
  · rename_i whole found
    split
    · rename_i word
      rw [Bool.and_eq_true, decide_eq_true_iff, decide_eq_true_iff] at word
      exact ⟨_, rfl, numericallyEqual_whole shape (Dyadic.toInt?_eq_some_iff.mp found) word⟩
    · exact ⟨_, rfl, itself⟩
  · exact ⟨_, rfl, itself⟩

end Whole

end Terradoc.Number
