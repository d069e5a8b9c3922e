import Terradoc.Proofs.Function.Call
import Terradoc.Proofs.Number.Rounding
import Terradoc.Proofs.Number.Text

/-! Numbers as signed 64-bit words. What is whole but outside of the word is cut off at its ends, so that the
view of a number as a word, and what is made by it, is exact just where the word reaches. -/

namespace Terradoc

namespace Number

open Float.Model (UnpackedFloat Format)
open Float.Model.UnpackedFloat (Sign)

def Dyadic.value (dyadic : Dyadic) : ℚ := dyadic.mantissa * 2 ^ dyadic.exponent

/-- The number that a finite number stands for. -/
def quantity : Number → ℚ
  | int whole => whole
  | float double => ((dyadic? double).map Dyadic.value).getD 0

/-- A number as evaluation holds it: the integer of a 64-bit word, or a finite double. -/
def Held : Number → Prop
  | int whole => whole ∈ words
  | float double => (dyadic? double).isSome

theorem Dyadic.toInt?_eq_some_iff {dyadic : Dyadic} {whole : ℤ} :
    dyadic.toInt? = some whole ↔ dyadic.value = whole := by
  obtain ⟨mantissa, exponent⟩ := dyadic
  unfold Dyadic.toInt? Dyadic.value
  dsimp only
  split
  · rename_i nonneg
    lift exponent to ℕ using nonneg
    rw [Option.some.injEq, zpow_natCast, Int.toNat_natCast]
    change mantissa * 2 ^ exponent = whole ↔ _
    exact_mod_cast Iff.rfl
  · rename_i negative
    obtain ⟨places, rfl⟩ := Int.exists_eq_neg_ofNat (Int.le_of_not_le negative)
    have scale : (0 : ℤ) < 2 ^ places := by positivity
    have quotient : (mantissa : ℚ) * 2 ^ (-(places : ℤ)) = whole ↔ mantissa = whole * 2 ^ places := by
      rw [zpow_neg, zpow_natCast, ← div_eq_mul_inv, div_eq_iff (by positivity)]
      exact_mod_cast Iff.rfl
    rw [quotient, neg_neg, Int.toNat_natCast]
    change (if mantissa % 2 ^ places = 0 then some (mantissa / 2 ^ places) else none) = some whole ↔ _
    constructor
    · intro found
      split at found
      · rename_i divides
        rw [← Option.some.inj found, Int.ediv_mul_cancel (Int.dvd_of_emod_eq_zero divides)]
      · cases found
    · rintro rfl
      rw [if_pos (Int.mul_emod_left _ _), Int.mul_ediv_cancel _ scale.ne']

/-- The view of a finite number that is whole is the whole number, cut off at the ends of the word. -/
theorem toInt?_eq_some_iff {number : Number} (finite : number.Finite) (view : ℤ) :
    number.toInt? = some view ↔ ∃ whole : ℤ, number.quantity = whole ∧ view = clampWord whole := by
  cases number with
  | int whole =>
    simp only [toInt?, quantity, Option.some.injEq, Int.cast_inj]
    constructor
    · intro same
      exact ⟨whole, rfl, same.symm⟩
    · rintro ⟨_, rfl, same⟩
      exact same.symm
  | float double =>
    obtain ⟨dyadic, shape⟩ := Option.isSome_iff_exists.mp finite
    simp only [toInt?, wholeFloat?, quantity, shape, Option.bind_some, Option.map_some, Option.getD_some,
      Option.map_eq_some_iff, Dyadic.toInt?_eq_some_iff]
    exact exists_congr fun whole => and_congr_right fun _ => eq_comm

/-- The sign bit, the exponent and the mantissa in the bits of a double. -/
theorem bits_fields (double : Float) :
    (@UnpackedFloat.unpackSign Format.binary64 double.toModel.toBits.toBitVec).toNat = signBit double ∧
      (@UnpackedFloat.unpackExponent Format.binary64 double.toModel.toBits.toBitVec).toNat =
        double.toBits.toNat / 2 ^ 52 % 2 ^ 11 ∧
      (@UnpackedFloat.unpackMantissa Format.binary64 double.toModel.toBits.toBitVec).toNat =
        double.toBits.toNat % 2 ^ 52 := by
  have word := double.toBits.toNat_lt
  refine ⟨?_, ?_, ?_⟩
  · have top : signBit double = double.toBits.toNat / 2 ^ 63 % 2 ^ 1 := by
      rw [signBit, Nat.pow_eq]
      omega
    rw [top]
    simp [UnpackedFloat.unpackSign, BitVec.extractLsb, Nat.shiftRight_eq_div_pow, Float.toBits]
  · simp [UnpackedFloat.unpackExponent, BitVec.extractLsb, Nat.shiftRight_eq_div_pow, Float.toBits]
  · simp [UnpackedFloat.unpackMantissa, BitVec.extractLsb, Float.toBits]

/-- The other sign is another first bit. -/
private theorem pack_neg {unpacked : UnpackedFloat} (defined : unpacked ≠ .notANumber) :
    UnpackedFloat.pack Format.binary64 unpacked.neg =
      UnpackedFloat.packComponents Format.binary64
        (-Sign.ofBitVec (UnpackedFloat.unpackSign (UnpackedFloat.pack Format.binary64 unpacked)))
        (UnpackedFloat.unpackExponent (UnpackedFloat.pack Format.binary64 unpacked))
        (UnpackedFloat.unpackMantissa (UnpackedFloat.pack Format.binary64 unpacked)) := by
  cases unpacked with
  | notANumber => exact absurd rfl defined
  | infinity sign => simp [UnpackedFloat.pack, UnpackedFloat.neg, UnpackedFloat.packedInfinity]
  | zero sign => simp [UnpackedFloat.pack, UnpackedFloat.neg, UnpackedFloat.packedZero]
  | finite sign mantissa exponent positive =>
    simp only [UnpackedFloat.pack, UnpackedFloat.neg]
    split
    · simp [UnpackedFloat.packedInfinity]
    split <;> simp

/-- The double with the other sign has the other sign bit and the same exponent and mantissa. -/
private theorem neg_fields {double : Float} (finite : (dyadic? double).isSome) :
    signBit double ≤ 1 ∧ signBit (-double) = 1 - signBit double ∧
      (-double).toBits.toNat / 2 ^ 52 % 2 ^ 11 = double.toBits.toNat / 2 ^ 52 % 2 ^ 11 ∧
      (-double).toBits.toNat % 2 ^ 52 = double.toBits.toNat % 2 ^ 52 := by
  have bits : (-double).toModel.toBits.toBitVec = _ := pack_neg (unpack_ne_of_dyadic? finite)
  have whole : UnpackedFloat.pack Format.binary64 double.toModel.unpack = double.toModel.toBits.toBitVec :=
    UnpackedFloat.pack_unpack_of_valid double.toModel.valid
  have turned : ∀ bit : BitVec 1,
      bit.toNat ≤ 1 ∧ (-Sign.ofBitVec bit).toBitVec.toNat = 1 - bit.toNat := by decide
  rw [whole] at bits
  obtain ⟨sign, exponent, mantissa⟩ := bits_fields double
  obtain ⟨sign', exponent', mantissa'⟩ := bits_fields (-double)
  rw [bits, UnpackedFloat.unpackSign_packComponents] at sign'
  rw [bits, UnpackedFloat.unpackExponent_packComponents, exponent] at exponent'
  rw [bits, UnpackedFloat.unpackMantissa_packComponents, mantissa] at mantissa'
  rw [← sign, ← sign', (turned _).2]
  exact ⟨(turned _).1, rfl, exponent'.symm, mantissa'.symm⟩

theorem dyadic?_neg {double : Float} {dyadic : Dyadic} (finite : dyadic? double = some dyadic) :
    dyadic? (-double) = some ⟨-dyadic.mantissa, dyadic.exponent⟩ := by
  obtain ⟨small, sign, exponent, mantissa⟩ := neg_fields (finite ▸ rfl : (dyadic? double).isSome)
  have turned : (if signBit (-double) = 0 then (1 : ℤ) else -1) = -if signBit double = 0 then 1 else -1 := by
    rcases Nat.le_one_iff_eq_zero_or_eq_one.mp small with same | same <;> simp [sign, same]
  unfold signBit at turned
  unfold dyadic? at finite ⊢
  simp only [Nat.pow_eq] at finite turned ⊢
  rw [exponent, mantissa, turned]
  split at finite
  · cases finite
  rename_i notLast
  rw [if_neg notLast]
  split at finite
  · rename_i zero
    cases finite
    rw [if_pos zero, neg_mul]
  · rename_i nonzero
    cases finite
    rw [if_neg nonzero, neg_mul]

/-- The doubles that are as near to a number as any finite double. -/
def Nearest (double : Float) (number : ℚ) : Prop :=
  ∃ dyadic, dyadic? double = some dyadic ∧ ∀ other dyadic', dyadic? other = some dyadic' →
    |dyadic.value - number| ≤ |dyadic'.value - number|

theorem nearest_of_eq {double : Float} {dyadic : Dyadic} {number : ℚ} (finite : dyadic? double = some dyadic)
    (same : dyadic.value = number) : Nearest double number := by
  refine ⟨dyadic, finite, fun other dyadic' _ => ?_⟩
  rw [same, sub_self, abs_zero]
  exact abs_nonneg _

/-- A double that is equal to an integer has its sign, and its mantissa and exponent make up the size. -/
theorem dyadic?_size {double : Float} {dyadic : Dyadic} (finite : dyadic? double = some dyadic) {whole : ℤ}
    (same : dyadic.value = whole) : ∃ mantissa exponent, ∃ size : ℕ, Canonical mantissa exponent ∧
      dyadic? double = some ⟨(if signBit double = 0 then 1 else -1) * (mantissa : ℤ), exponent⟩ ∧
      (mantissa : ℚ) * 2 ^ exponent = size ∧ whole = (if signBit double = 0 then 1 else -1) * (size : ℤ) := by
  obtain ⟨mantissa, exponent, canonical, shape⟩ := dyadic?_eq (finite ▸ rfl : (dyadic? double).isSome)
  obtain rfl := Option.some.inj (finite.symm.trans shape)
  have unit : (if signBit double = 0 then (1 : ℤ) else -1) * (if signBit double = 0 then 1 else -1) = 1 := by
    split <;> rfl
  generalize (if signBit double = 0 then (1 : ℤ) else -1) = sign at shape same unit ⊢
  have magnitude : (mantissa : ℚ) * 2 ^ exponent = (sign * whole : ℤ) := by
    rw [Int.cast_mul, ← same, Dyadic.value, ← mul_assoc, ← Int.cast_mul, ← mul_assoc, unit, one_mul,
      Int.cast_natCast]
  have nonneg : 0 ≤ sign * whole := by
    have positive : (0 : ℚ) ≤ mantissa * 2 ^ exponent := by positivity
    rw [magnitude] at positive
    exact_mod_cast positive
  refine ⟨mantissa, exponent, (sign * whole).toNat, canonical, shape, ?_, ?_⟩
  · rw [magnitude, ← Int.cast_natCast, Int.toNat_of_nonneg nonneg]
  · rw [Int.toNat_of_nonneg nonneg, ← mul_assoc, unit, one_mul]

/-- An integer that a double is equal to has no more than 53 bits, or it is even. -/
theorem dyadic?_whole {double : Float} {dyadic : Dyadic} (finite : dyadic? double = some dyadic) {whole : ℤ}
    (same : dyadic.value = whole) : whole.natAbs < 2 ^ 53 ∨ whole % 2 = 0 := by
  obtain ⟨mantissa, exponent, size, canonical, _, exact, signed⟩ := dyadic?_size finite same
  have absolute : whole.natAbs = size := by split at signed <;> omega
  rcases Int.lt_or_le 0 exponent with positive | small
  · right
    obtain ⟨places, rfl⟩ : ∃ places : ℕ, exponent = (places + 1 : ℕ) := ⟨exponent.toNat - 1, by omega⟩
    rw [zpow_natCast] at exact
    have product : mantissa * 2 ^ (places + 1) = size := by exact_mod_cast exact
    rw [pow_succ, ← mul_assoc] at product
    omega
  · left
    have bound : (mantissa : ℚ) * 2 ^ exponent ≤ mantissa :=
      mul_le_of_le_one_right (Nat.cast_nonneg _) (zpow_le_one_of_nonpos₀ one_le_two small)
    rw [exact] at bound
    exact absolute ▸ (Nat.cast_le.mp bound).trans_lt canonical.small

theorem word_ends : minWord = -9223372036854775808 ∧ maxWord = 9223372036854775807 := ⟨rfl, rfl⟩

/-- The largest integer of a signed word is odd and has more bits than a double. -/
theorem ofFloat_ne_negative_maxWord (double : Float) : Value.ofFloat double ≠ .ofInt (-maxWord) := by
  obtain ⟨_, last⟩ := word_ends
  intro made
  rw [Value.ofFloat, Value.ofInt] at made
  split at made
  · rename_i number shape
    obtain rfl := Value.number.inj made
    rw [ofFloat?] at shape
    split at shape
    · cases shape
    rename_i dyadic finite
    split at shape
    · rename_i whole same
      split at shape
      · obtain rfl := int.inj (Option.some.inj shape)
        have bits := dyadic?_whole finite (Dyadic.toInt?_eq_some_iff.mp same)
        omega
      · cases shape
    · cases shape
  · cases made

/-- What the number with the other sign of a whole number is to be: the integer where a signed word holds it,
and a nearest double where it does not. -/
def Negates (whole : ℤ) (result : Value) : Prop :=
  if minWord ≤ -whole ∧ -whole ≤ maxWord then result = .ofInt (-whole)
  else ∃ double, Nearest double (-whole : ℤ) ∧ result = .ofFloat double

section Held

variable {number : Number} {whole : ℤ}

theorem Held.finite (held : number.Held) : number.Finite := by
  cases number with
  | int => trivial
  | float => exact held

theorem toInt?_of_whole (held : number.Held) (same : number.quantity = whole) :
    number.toInt? = some (clampWord whole) :=
  (toInt?_eq_some_iff held.finite _).mpr ⟨whole, same, rfl⟩

/-- A number with no opposite among the integers of a signed word, or the least of them, is a double. -/
theorem Held.dyadic_of_le (held : number.Held) (same : number.quantity = whole) (low : whole ≤ minWord) :
    ∃ dyadic, dyadic? number.toFloat = some dyadic ∧ dyadic.value = whole := by
  cases number with
  | int value =>
    obtain rfl : value = minWord := le_antisymm (Int.cast_injective same ▸ low) held.1
    have least : dyadic? (Float.ofInt minWord) = some ⟨-2 ^ 52, 11⟩ := by decide +kernel
    refine ⟨_, least, ?_⟩
    rw [← same, quantity, word_ends.1, Dyadic.value]
    norm_num
  | float double =>
    obtain ⟨dyadic, shape⟩ := Option.isSome_iff_exists.mp held
    refine ⟨dyadic, shape, ?_⟩
    rw [← same, quantity, shape]
    rfl

/-- Unary minus goes by the view, and by the double where that is the least word. -/
theorem negate_eq (held : number.Held) (same : number.quantity = whole) :
    UnaryOperator.negate.apply (.number number) =
      .ok (if clampWord whole = minWord then .ofFloat (-number.toFloat) else .ofInt (-clampWord whole)) := by
  have view : (Value.number number).int? = some (clampWord whole) := toInt?_of_whole held same
  rw [UnaryOperator.apply, view]
  dsimp only
  split <;> rfl

/-- Unary minus gives what it is to give just up to the end of the word. -/
theorem negate_iff (held : number.Held) (same : number.quantity = whole) :
    (∃ result, UnaryOperator.negate.apply (.number number) = .ok result ∧ Negates whole result) ↔
      whole ≤ maxWord := by
  obtain ⟨first, last⟩ := word_ends
  rw [negate_eq held same]
  constructor
  · rintro ⟨_, ⟨⟩, negates⟩
    by_contra above
    have cut : clampWord whole = maxWord := by
      unfold clampWord
      omega
    rw [cut, if_neg (by omega), Negates] at negates
    split at negates
    · have := int.inj (Value.number.inj negates)
      omega
    · obtain ⟨double, _, made⟩ := negates
      exact ofFloat_ne_negative_maxWord double made.symm
  · intro small
    refine ⟨_, rfl, ?_⟩
    rw [Negates]
    rcases Int.lt_or_le minWord whole with inside | low
    · have kept : clampWord whole = whole := by
        unfold clampWord
        omega
      rw [kept, if_neg inside.ne', if_pos (by omega)]
    · have cut : clampWord whole = minWord := by
        unfold clampWord
        omega
      obtain ⟨dyadic, finite, value⟩ := held.dyadic_of_le same low
      have turned : (⟨-dyadic.mantissa, dyadic.exponent⟩ : Dyadic).value = (-whole : ℤ) := by
        rw [Dyadic.value, Int.cast_neg, Int.cast_neg, neg_mul, ← value, Dyadic.value]
      rw [if_pos cut]
      split
      · omega
      · exact ⟨_, nearest_of_eq (dyadic?_neg finite) turned, rfl⟩

/-- The verb for whole numbers writes the view. -/
theorem format_eq (held : number.Held) (same : number.quantity = whole) :
    formatText "%d" [.number number] = .ok (toString (clampWord whole)) := by
  have view : (Value.number number).int? = some (clampWord whole) := toInt?_of_whole held same
  have text : formatValue 'd' none (.number number) = .ok (toString (clampWord whole)) := by
    rw [formatValue, view]
  have chars : "%d".toList = ['%', 'd'] := rfl
  rw [formatText, chars]
  change (formatWithin 2 ['%', 'd'] [.number number]).map String.ofList = _
  simp [formatWithin, nextValue, text, Except.map, bind, Except.bind]

/-- The verb for whole numbers writes the digits of a whole number just where the word reaches. -/
theorem format_iff (host : Host) (root : Path) (depth : Nat) (held : number.Held)
    (same : number.quantity = whole) :
    (∀ result, functionTable host root depth "format" [.string "%d", .number number] = .ok result →
        result = .string (toString whole)) ↔
      minWord ≤ whole ∧ whole ≤ maxWord := by
  obtain ⟨first, last⟩ := word_ends
  have runs (result : Value) :
      functionTable host root depth "format" [.string "%d", .number number] = .ok result ↔
        (formatText "%d" [.number number]).map Value.string = .ok result := by
    refine (functionTable_run_iff (fun _ => rfl) rfl ?_ rfl).trans Iff.rfl
    exact List.forall_mem_cons.mpr ⟨rfl, List.forall_mem_singleton.mpr rfl⟩
  simp only [runs, format_eq held same, Except.map, Except.ok.injEq, forall_eq']
  rw [Value.string.injEq]
  constructor
  · intro digits
    have kept := toString_injective digits
    unfold clampWord at kept
    omega
  · intro inside
    have kept : clampWord whole = whole := by
      unfold clampWord
      omega
    rw [kept]

end Held

/-- The view of a number as a signed word is the whole number it is equal to, cut off at the ends of the word.
It is exact just where the word reaches, and so is the verb that writes it; unary minus, which goes by the
double at the least word, is exact up to the largest one. -/
theorem wholeView_exact_iff (host : Host) (root : Path) (depth : Nat) {number : Number} (held : number.Held) :
    (∀ view, (Value.number number).int? = some view ↔
        ∃ whole : ℤ, number.quantity = whole ∧ view = clampWord whole) ∧
      ((∀ view, (Value.number number).int? = some view → (view : ℚ) = number.quantity) ↔
        ∀ whole : ℤ, number.quantity = whole → minWord ≤ whole ∧ whole ≤ maxWord) ∧
      ∀ whole : ℤ, number.quantity = whole →
        ((∃ result, UnaryOperator.negate.apply (.number number) = .ok result ∧ Negates whole result) ↔
            whole ≤ maxWord) ∧
          ((∀ result, functionTable host root depth "format" [.string "%d", .number number] = .ok result →
              result = .string (toString whole)) ↔ minWord ≤ whole ∧ whole ≤ maxWord) := by
  have views : ∀ view, (Value.number number).int? = some view ↔
      ∃ whole : ℤ, number.quantity = whole ∧ view = clampWord whole := toInt?_eq_some_iff held.finite
  refine ⟨views, ?_, fun whole same => ⟨negate_iff held same, format_iff host root depth held same⟩⟩
  simp only [views]
  constructor
  · intro exactly whole same
    have kept := exactly (clampWord whole) ⟨whole, same, rfl⟩
    rw [same, Int.cast_inj, clampWord] at kept
    have := word_ends
    omega
  · rintro inside _ ⟨whole, same, rfl⟩
    obtain ⟨low, high⟩ := inside whole same
    rw [same, clampWord, min_eq_right high, max_eq_right low]

/-- The least integer of a signed word, which has its opposite as a double only. -/
theorem wholeView_exact_of_minWord :
    (int minWord).Held ∧ (∃ result, UnaryOperator.negate.apply (.number (int minWord)) = .ok result ∧
      Negates minWord result) := by
  have held : (int minWord).Held := Set.mem_Ico.mpr (by decide)
  refine ⟨held, ?_⟩
  have exactly := wholeView_exact_iff ⟨.directory [], ⟨"/"⟩, "/", ⟨"/tmp"⟩⟩ ⟨"/"⟩ 0 held
  exact (exactly.2.2 minWord rfl).1.mpr (by decide)

/-- The first integer after the largest of a signed word is taken for that. -/
theorem wholeView_cut_off :
    (int 9223372036854775808).Held ∧
      (Value.number (int 9223372036854775808)).int? = some 9223372036854775807 ∧
      formatText "%d" [.number (int 9223372036854775808)] = .ok "9223372036854775807" ∧
      UnaryOperator.negate.apply (.number (int 9223372036854775808)) =
        .ok (.ofInt (-9223372036854775807)) := by
  have held : (int 9223372036854775808).Held := Set.mem_Ico.mpr (by decide)
  exact ⟨held, rfl, format_eq held rfl, negate_eq held rfl⟩

end Number

end Terradoc
