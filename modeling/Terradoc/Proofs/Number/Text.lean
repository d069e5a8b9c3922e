import Terradoc.Number.Reading
import Terradoc.Proofs.Number.Interval
import Terradoc.Proofs.Number.Order

/-! Texts of numbers. The text of a finite double reads back as a decimal that rounds to it, so that
different numbers have different texts. -/

namespace Terradoc.Number

theorem digitsValue_eq (digits : List Char) : digitsValue digits = Nat.ofDigitChars 10 digits 0 := by
  simp [Nat.ofDigitChars_eq_foldl, digitsValue, Nat.mul_comm]

theorem digitsValue_append (first second : List Char) :
    digitsValue (first ++ second) = 10 ^ second.length * digitsValue first + digitsValue second := by
  simp only [digitsValue_eq, Nat.ofDigitChars_append]
  exact Nat.ofDigitChars_eq_ofDigitChars_zero

theorem digitsValue_zeros (count : Nat) : digitsValue (List.replicate count '0') = 0 := by
  simp [digitsValue_eq]

@[simp] theorem digitsValue_digitsOf (value : Nat) : digitsValue (digitsOf value) = value := by
  simp [digitsValue_eq, digitsOf]

theorem isDigit_of_mem_digitsOf {value : Nat} {char : Char} (member : char ∈ digitsOf value) :
    char.isDigit = true :=
  Nat.isDigit_of_mem_toDigits (by decide) (by decide) member

theorem digitsOf_ne_nil (value : Nat) : digitsOf value ≠ [] := Nat.toDigits_ne_nil

/-- No digits but those of zero start with a zero. -/
theorem head?_digitsOf {value : Nat} (positive : 0 < value) : (digitsOf value).head? ≠ some '0' := by
  induction value using Nat.strong_induction_on with
  | _ value ih =>
    unfold digitsOf at ih ⊢
    rcases Nat.lt_or_ge value 10 with small | large
    · have first : ∀ digit < 10, 0 < digit → Nat.digitChar digit ≠ '0' := by decide
      rw [Nat.toDigits_of_lt_base small]
      simpa using first value small positive
    · rw [Nat.toDigits_of_base_le (by decide) large, List.head?_append_of_ne_nil _ Nat.toDigits_ne_nil]
      exact ih (value / 10) (by omega) (by omega)

/-- A list ends in its last run of a character. -/
private theorem eq_append_replicate (digits : List Char) (digit : Char) :
    ∃ front, digits =
      front ++ List.replicate (digits.reverse.takeWhile (· == digit)).length digit := by
  refine ⟨(digits.reverse.dropWhile (· == digit)).reverse, ?_⟩
  have run : digits.reverse.takeWhile (· == digit) =
      List.replicate (digits.reverse.takeWhile (· == digit)).length digit := by
    rw [List.eq_replicate_iff]
    exact ⟨rfl, fun char member => by simpa using List.all_eq_true.mp List.all_takeWhile char member⟩
  rw [← List.reverse_inj, List.reverse_append, List.reverse_reverse, List.reverse_replicate, ← run,
    List.takeWhile_append_dropWhile]

/-- The zeros at the end of a decimal count for its exponent. -/
theorem Decimal.value_trim (decimal : Decimal) : decimal.trim.value = decimal.value := by
  unfold trim
  dsimp only
  split
  · rename_i zero
    simp [value, zero]
  · obtain ⟨front, digits⟩ := eq_append_replicate (digitsOf decimal.digits) '0'
    generalize ((digitsOf decimal.digits).reverse.takeWhile (· == '0')).length = zeros at digits ⊢
    have count : decimal.digits = 10 ^ zeros * digitsValue front := by
      have total := congrArg digitsValue digits
      rwa [digitsValue_digitsOf, digitsValue_append, digitsValue_zeros, List.length_replicate,
        Nat.add_zero] at total
    have quotient : decimal.digits / Nat.pow 10 zeros = digitsValue front := by
      rw [count]
      exact Nat.mul_div_cancel_left _ (Nat.pow_pos (by decide))
    rw [value, value, quotient, count, zpow_add₀ (by norm_num), zpow_natCast]
    push_cast
    ring

/-- The number that a numeral stands for. -/
def Numeral.value (numeral : Numeral) : ℚ :=
  digitsValue (numeral.whole ++ numeral.fraction) *
    10 ^ (numeral.exponent - numeral.fraction.length)

section Reading

variable {whole fraction tail : List Char} {exponent : Int}

/-- What follows the digits of a numeral. -/
private theorem takeWhile_digits (digits : ∀ char ∈ whole, char.isDigit = true)
    (ends : tail.head?.any Char.isDigit = false) :
    (whole ++ tail).takeWhile Char.isDigit = whole ∧ (whole ++ tail).dropWhile Char.isDigit = tail := by
  rw [List.takeWhile_append_of_pos digits, List.dropWhile_append_of_pos digits]
  cases tail with
  | nil => simp
  | cons head rest =>
    have stop : head.isDigit = false := ends
    simp [stop]

theorem numeral?_plain (digits : ∀ char ∈ whole, char.isDigit = true) (nonempty : whole ≠ [])
    (ends : tail.head?.any Char.isDigit = false) (pointless : tail.head? ≠ some '.')
    (read : exponent? tail = some exponent) :
    numeral? (whole ++ tail) = some ⟨whole, [], exponent⟩ := by
  obtain ⟨taken, left⟩ := takeWhile_digits digits ends
  unfold numeral?
  rw [taken, left]
  cases tail with
  | nil => simp [nonempty, read]
  | cons head rest =>
    have other : head ≠ '.' := fun same => pointless (by rw [same]; rfl)
    simp [nonempty, read, other]

theorem numeral?_point (digits : ∀ char ∈ whole, char.isDigit = true) (nonempty : whole ≠ [])
    (more : ∀ char ∈ fraction, char.isDigit = true) (ends : tail.head?.any Char.isDigit = false)
    (read : exponent? tail = some exponent) :
    numeral? (whole ++ '.' :: (fraction ++ tail)) = some ⟨whole, fraction, exponent⟩ := by
  have stop : ('.' :: (fraction ++ tail)).head?.any Char.isDigit = false := rfl
  obtain ⟨taken, left⟩ := takeWhile_digits digits stop
  obtain ⟨takenMore, leftMore⟩ := takeWhile_digits more ends
  unfold numeral?
  rw [taken, left]
  simp [nonempty, takenMore, leftMore, read]

end Reading

/-- The signs that a style writes before a positive exponent. -/
def FloatStyle.Readable (style : FloatStyle) : Prop := style.plus = "" ∨ style.plus = "+"

/-- An exponent reads back. -/
theorem exponent?_digitsOf {style : FloatStyle} (readable : style.Readable) (exponent : Int) :
    exponent? ('e' :: ((if exponent < 0 then "-" else style.plus).toList ++ digitsOf exponent.natAbs)) =
      some exponent := by
  have nonempty := digitsOf_ne_nil exponent.natAbs
  have digits : (digitsOf exponent.natAbs).all Char.isDigit = true :=
    List.all_eq_true.mpr fun _ member => isDigit_of_mem_digitsOf member
  have size := digitsValue_digitsOf exponent.natAbs
  generalize digitsOf exponent.natAbs = text at nonempty digits size ⊢
  split
  · rename_i negative
    simp [exponent?, nonempty, digits, size, abs_of_neg negative]
  · rename_i nonnegative
    have magnitude := abs_of_nonneg (not_lt.mp nonnegative)
    rcases readable with plus | plus
    · obtain ⟨head, rest, rfl⟩ := List.exists_cons_of_ne_nil nonempty
      have digit : head.isDigit = true := List.all_eq_true.mp digits head List.mem_cons_self
      have notMinus : head ≠ '-' := fun same => absurd (same ▸ digit) (by decide)
      have notPlus : head ≠ '+' := fun same => absurd (same ▸ digit) (by decide)
      rw [plus]
      simp [exponent?, notMinus, notPlus, digits, size, magnitude]
    · rw [plus]
      simp [exponent?, nonempty, digits, size, magnitude]

/-- The same digits, up to zeros at their ends, at the same place. -/
private theorem Numeral.value_eq {numeral : Numeral} {decimal : Decimal} (zeros : Nat)
    (size : digitsValue (numeral.whole ++ numeral.fraction) = 10 ^ zeros * decimal.digits)
    (place : numeral.exponent - numeral.fraction.length + zeros = decimal.exponent) :
    numeral.value = decimal.value := by
  rw [value, Decimal.value, size, ← place, zpow_add₀ (by norm_num), zpow_natCast]
  push_cast
  ring

/-- The text of a decimal reads back as the number that it stands for. -/
theorem numeral?_renderDecimal {style : FloatStyle} (readable : style.Readable) (decimal : Decimal) :
    ∃ numeral, numeral? (style.renderDecimal decimal).toList = some numeral ∧
      numeral.value = decimal.value := by
  have nonempty := digitsOf_ne_nil decimal.digits
  have digits : ∀ char ∈ digitsOf decimal.digits, char.isDigit = true :=
    fun _ => isDigit_of_mem_digitsOf
  have size := digitsValue_digitsOf decimal.digits
  unfold FloatStyle.renderDecimal
  dsimp only
  generalize digitsOf decimal.digits = text at nonempty digits size ⊢
  have zeros (count : Nat) : ∀ char ∈ List.replicate count '0', char.isDigit = true :=
    fun char member => by rw [List.eq_of_mem_replicate member]; rfl
  split
  · split
    · -- A whole number, with a point and a zero after it.
      rename_i whole
      have padded : ∀ char ∈ text ++ List.replicate decimal.exponent.toNat '0', char.isDigit = true :=
        List.forall_mem_append.mpr ⟨digits, zeros _⟩
      have read := @numeral?_point _ ['0'] [] 0 padded (by simp [nonempty]) (zeros 1) rfl rfl
      refine ⟨_, by simpa using read, Numeral.value_eq (decimal.exponent.toNat + 1) ?_ ?_⟩
      · rw [digitsValue_append, digitsValue_append, digitsValue_zeros, size, List.length_replicate,
          pow_succ]
        change 10 ^ 1 * _ + 0 = _
        ring
      · simp
        omega
    · split
      · -- The point stands inside the digits.
        rename_i fractional inner
        generalize cut_eq : (decimal.exponent + text.length - 1).toNat + 1 = cut
        have read := @numeral?_point (text.take cut) (text.drop cut) [] 0
          (fun char member => digits char (List.mem_of_mem_take member))
          (by simp [nonempty]; omega)
          (fun char member => digits char (List.mem_of_mem_drop member)) rfl rfl
        refine ⟨_, by simpa using read, Numeral.value_eq 0 ?_ ?_⟩
        · simp [size]
        · simp
          omega
      · -- Zeros stand between the point and the digits.
        rename_i fractional small
        generalize count_eq : (-(decimal.exponent + text.length - 1) - 1).toNat = count
        have read := @numeral?_point ['0'] (List.replicate count '0' ++ text) [] 0 (zeros 1) (List.cons_ne_nil _ _)
          (List.forall_mem_append.mpr ⟨zeros _, digits⟩) rfl rfl
        refine ⟨_, by simpa using read, Numeral.value_eq 0 ?_ ?_⟩
        · rw [digitsValue_append, digitsValue_append, digitsValue_zeros, size]
          change _ * 0 + (_ + _) = _
          simp
        · simp
          omega
  · -- One digit stands before the point, and an exponent follows.
    generalize scientific_eq : decimal.exponent + text.length - 1 = scientific
    have read := exponent?_digitsOf readable scientific
    obtain ⟨head, rest, rfl⟩ := List.exists_cons_of_ne_nil nonempty
    obtain ⟨first, others⟩ := List.forall_mem_cons.mp digits
    cases rest with
    | nil =>
      have read := numeral?_plain digits nonempty rfl (by simp) read
      refine ⟨_, by simpa [Nat.toString_eq_repr, digitsOf] using read, Numeral.value_eq 0 ?_ ?_⟩
      · simp [size]
      · simp at scientific_eq ⊢
        omega
    | cons second later =>
      have read := @numeral?_point [head] (second :: later) _ scientific (by simpa using first)
        (List.cons_ne_nil _ _) others rfl read
      refine ⟨_, by simpa [Nat.toString_eq_repr, digitsOf] using read, Numeral.value_eq 0 ?_ ?_⟩
      · simp [size]
      · simp at scientific_eq ⊢
        omega

/-- The characters of numbers in documents. -/
def IsTextChar (char : Char) : Prop :=
  char.isDigit = true ∨ char = '-' ∨ char = '+' ∨ char = '.' ∨ char = 'e'

theorem renderDecimal_chars {style : FloatStyle} (readable : style.Readable) (decimal : Decimal) :
    ∀ char ∈ (style.renderDecimal decimal).toList, IsTextChar char := by
  have digits : ∀ char ∈ digitsOf decimal.digits, IsTextChar char :=
    fun _ member => .inl (isDigit_of_mem_digitsOf member)
  unfold FloatStyle.renderDecimal
  dsimp only
  generalize digitsOf decimal.digits = text at digits ⊢
  have point : IsTextChar '.' := .inr (.inr (.inr (.inl rfl)))
  have zero : IsTextChar '0' := .inl rfl
  have zeros (count : Nat) : ∀ char ∈ List.replicate count '0', IsTextChar char :=
    fun char member => by rw [List.eq_of_mem_replicate member]; exact zero
  split
  · split
    · simp only [String.toList_ofList, List.forall_mem_append, List.forall_mem_cons]
      exact ⟨⟨digits, zeros _⟩, point, zero, List.forall_mem_nil _⟩
    · split
      · simp only [String.toList_ofList, List.forall_mem_append, List.forall_mem_cons]
        exact ⟨fun char member => digits char (List.mem_of_mem_take member), point,
          fun char member => digits char (List.mem_of_mem_drop member)⟩
      · simp only [String.toList_ofList, List.forall_mem_append, List.forall_mem_cons]
        exact ⟨⟨⟨zero, point, List.forall_mem_nil _⟩, zeros _⟩, digits⟩
  · simp only [String.toList_append, List.forall_mem_append]
    refine ⟨⟨⟨?_, ?_⟩, ?_⟩, ?_⟩
    · cases text with
      | nil => simpa using zero
      | cons head rest =>
        cases rest with
        | nil => simpa using digits
        | cons second later => 
          simp only [String.toList_ofList, List.forall_mem_cons] at digits ⊢
          exact ⟨digits.1, point, digits.2⟩
    · simp [IsTextChar]
    · split
      · simp [IsTextChar]
      · rcases readable with plus | plus <;> simp [plus, IsTextChar]
    · intro char member
      rw [Nat.toString_eq_repr, Nat.toList_repr] at member
      exact .inl (isDigit_of_mem_digitsOf member)

/-- A point or an exponent tells a double from an integer. -/
theorem mark_mem_renderDecimal (style : FloatStyle) (decimal : Decimal) :
    ∃ char ∈ (style.renderDecimal decimal).toList, char = '.' ∨ char = 'e' := by
  unfold FloatStyle.renderDecimal
  dsimp only
  split
  · exact ⟨'.', by split <;> [skip; split] <;> simp, .inl rfl⟩
  · exact ⟨'e', by simp, .inr rfl⟩

theorem RoundingInterval.Contains.pos {mantissa : Nat} {exponent : Int} {number : ℚ}
    (positive : 0 < mantissa) (inside : (RoundingInterval.of mantissa exponent).Contains number) :
    0 < number := by
  have start : (0 : ℚ) < mantissa - (RoundingInterval.gap mantissa exponent : ℚ) / 4 := by
    have one : (1 : ℚ) ≤ mantissa := by exact_mod_cast positive
    rcases RoundingInterval.gap_cases mantissa exponent with ⟨gap, _⟩ | ⟨gap, _⟩ <;> rw [gap] <;>
      norm_num <;> linarith
  exact lt_of_lt_of_le (mul_pos start (by positivity)) (inside.bounds positive).1.1

/-- The text of a finite double is its sign and a numeral that rounds to its size. -/
theorem FloatStyle.render_reads {style : FloatStyle} (readable : style.Readable) {value : Float}
    (finite : (dyadic? value).isSome) :
    ∃ mantissa exponent body numeral, Canonical mantissa exponent ∧
      dyadic? value = some ⟨(if signBit value = 0 then 1 else -1) * (mantissa : Int), exponent⟩ ∧
      (style.render value).toList = (if signBit value = 0 then [] else ['-']) ++ body ∧
      numeral? body = some numeral ∧
      if mantissa = 0 then numeral.value = 0
      else (RoundingInterval.of mantissa exponent).Contains numeral.value := by
  obtain ⟨mantissa, exponent, canonical, exact⟩ := dyadic?_eq finite
  have size : ((if signBit value = 0 then 1 else -1) * (mantissa : Int)).natAbs = mantissa := by
    split <;> omega
  have sign : (if signBit value = 0 then "" else "-").toList =
      if signBit value = 0 then [] else ['-'] := by
    split <;> rfl
  rcases Nat.eq_zero_or_pos mantissa with zero | positive
  · refine ⟨mantissa, exponent, ['0', '.', '0'], ⟨['0'], ['0'], 0⟩, canonical, exact, ?_, rfl, ?_⟩
    · unfold render
      rw [exact]
      dsimp only
      rw [if_pos (by rw [zero]; simp), String.toList_append, ← sign]
      rfl
    · rw [if_pos zero]
      simp [Numeral.value, digitsValue]
  · obtain ⟨numeral, read, reading⟩ := numeral?_renderDecimal readable
      (RoundingInterval.of mantissa exponent).shortest.trim
    refine ⟨mantissa, exponent, _, numeral, canonical, exact, ?_, read, ?_⟩
    · unfold render
      rw [exact]
      dsimp only
      rw [if_neg (by omega), String.toList_append, ← sign, size]
      rfl
    · rw [if_neg positive.ne', reading, Decimal.value_trim]
      exact RoundingInterval.contains_shortest canonical positive

theorem numeral?_minus (rest : List Char) : numeral? ('-' :: rest) = none := by
  simp [numeral?]

private theorem signBit_le (value : Float) : signBit value ≤ 1 := by
  have word := value.toBits.toNat_lt
  unfold signBit
  simp only [Nat.pow_eq]
  omega

/-- A sign before a numeral is no part of it. -/
private theorem sign_of_text {left right : Nat} {body rest : List Char} {numeral image : Numeral}
    (read : numeral? body = some numeral) (read' : numeral? rest = some image)
    (same : (if left = 0 then [] else ['-']) ++ body = (if right = 0 then [] else ['-']) ++ rest) :
    (left = 0 ↔ right = 0) ∧ body = rest := by
  by_cases first : left = 0 <;> by_cases second : right = 0 <;>
    simp only [first, second, ↓reduceIte, List.nil_append, List.singleton_append] at same
  · exact ⟨by simp [first, second], same⟩
  · rw [same, numeral?_minus] at read
    cases read
  · rw [← same, numeral?_minus] at read'
    cases read'
  · exact ⟨by simp [first, second], List.cons.inj same |>.2⟩

/-- Zero is written as zero only. -/
private theorem size_of_value {mantissa other : Nat} {exponent place : Int} {number : ℚ}
    (first : Canonical mantissa exponent) (second : Canonical other place)
    (left : if mantissa = 0 then number = 0
      else (RoundingInterval.of mantissa exponent).Contains number)
    (right : if other = 0 then number = 0
      else (RoundingInterval.of other place).Contains number) :
    mantissa = other ∧ exponent = place := by
  have least {exponent : Int} (canonical : Canonical 0 exponent) : exponent = -1074 := by
    have := canonical.least
    have := canonical.normal
    omega
  split at left <;> split at right
  · rename_i zero zero'
    subst zero zero'
    exact ⟨rfl, (least first).trans (least second).symm⟩
  · rename_i nonzero
    exact absurd (right.pos (Nat.pos_of_ne_zero nonzero)) left.not_gt
  · rename_i nonzero _
    exact absurd (left.pos (Nat.pos_of_ne_zero nonzero)) right.not_gt
  · rename_i nonzero nonzero'
    exact RoundingInterval.eq_of_contains first second (Nat.pos_of_ne_zero nonzero)
      (Nat.pos_of_ne_zero nonzero') left right

/-- Different finite doubles have different texts. -/
theorem FloatStyle.render_injective {style : FloatStyle} (readable : style.Readable)
    {left right : Float} (first : (dyadic? left).isSome) (second : (dyadic? right).isSome)
    (same : style.render left = style.render right) : left = right := by
  obtain ⟨mantissa, exponent, body, numeral, canonical, exact, text, read, reading⟩ :=
    render_reads readable first
  obtain ⟨other, place, rest, image, canonical', exact', text', read', reading'⟩ :=
    render_reads readable second
  rw [same, text'] at text
  obtain ⟨sign, rfl⟩ := sign_of_text read' read text
  cases read.symm.trans read'
  obtain ⟨rfl, rfl⟩ := size_of_value canonical canonical' reading reading'
  have bits : signBit left = signBit right := by
    have := signBit_le left
    have := signBit_le right
    omega
  exact eq_of_dyadic? bits exact exact'

theorem toList_toString (value : Int) :
    (toString value).toList = (if 0 ≤ value then [] else ['-']) ++ digitsOf value.natAbs := by
  rw [Int.toString_eq_repr, Int.repr_eq_if]
  split
  · rw [Nat.toList_repr, show value.toNat = value.natAbs by omega]
    rfl
  · rw [String.toList_append, Nat.toList_repr, show (-value).toNat = value.natAbs by omega]
    rfl

theorem readable_documentStyle : documentStyle.Readable := .inr rfl

/-- A double is written as its sign and either zero or the text of a decimal. -/
private theorem render_shape (style : FloatStyle) {value : Float} (finite : (dyadic? value).isSome) :
    ∃ sign body, (style.render value).toList = sign ++ body ∧ (sign = [] ∨ sign = ['-']) ∧
      (body = ['0', '.', '0'] ∨ ∃ decimal, body = (style.renderDecimal decimal).toList) := by
  have sign : (if value.toBits.toNat / Nat.pow 2 63 = 0 then "" else "-").toList = [] ∨
      (if value.toBits.toNat / Nat.pow 2 63 = 0 then "" else "-").toList = ['-'] := by
    split
    · exact .inl rfl
    · exact .inr rfl
  unfold FloatStyle.render
  split
  · rename_i undefined
    rw [undefined] at finite
    cases finite
  · dsimp only
    split <;> rw [String.toList_append]
    · exact ⟨_, _, rfl, sign, .inl rfl⟩
    · exact ⟨_, _, rfl, sign, .inr ⟨_, rfl⟩⟩

theorem toDocumentText_chars {number : Number} (finite : number.Finite) :
    ∀ char ∈ number.toDocumentText.toList, IsTextChar char := by
  cases number with
  | int value =>
    change ∀ char ∈ (toString value).toList, _
    rw [toList_toString, List.forall_mem_append]
    refine ⟨?_, fun char member => .inl (isDigit_of_mem_digitsOf member)⟩
    split <;> simp [IsTextChar]
  | float value =>
    obtain ⟨sign, body, text, signs, bodies⟩ := render_shape documentStyle finite
    change ∀ char ∈ (documentStyle.render value).toList, _
    rw [text, List.forall_mem_append]
    refine ⟨?_, ?_⟩
    · rcases signs with rfl | rfl <;> simp [IsTextChar]
    · rcases bodies with rfl | ⟨decimal, rfl⟩
      · simp [IsTextChar]
      · exact renderDecimal_chars readable_documentStyle decimal

/-- What the text of a number starts with. -/
def IsTextHead (char : Char) : Prop := char = '-' ∨ char = '.' ∨ char.isDigit = true

private theorem head_of_numeral? {text : List Char} {numeral : Numeral}
    (read : numeral? text = some numeral) : ∃ head rest, text = head :: rest ∧ IsTextHead head := by
  cases text with
  | nil => simp [numeral?] at read
  | cons head rest =>
    refine ⟨head, rest, rfl, .inr ?_⟩
    by_contra other
    obtain ⟨notPoint, notDigit⟩ := not_or.mp other
    simp [numeral?, notPoint, notDigit] at read

theorem toDocumentText_head {number : Number} (finite : number.Finite) :
    ∃ head rest, number.toDocumentText.toList = head :: rest ∧ IsTextHead head := by
  cases number with
  | int value =>
    change ∃ head rest, (toString value).toList = _ ∧ _
    rw [toList_toString]
    split
    · obtain ⟨head, rest, digits⟩ := List.exists_cons_of_ne_nil (digitsOf_ne_nil value.natAbs)
      exact ⟨head, rest, digits, .inr (.inr (isDigit_of_mem_digitsOf (digits ▸ List.mem_cons_self)))⟩
    · exact ⟨'-', _, rfl, .inl rfl⟩
  | float value =>
    obtain ⟨_, _, body, _, _, _, text, read, _⟩ :=
      FloatStyle.render_reads readable_documentStyle finite
    change ∃ head rest, (documentStyle.render value).toList = _ ∧ _
    rw [text]
    split
    · exact head_of_numeral? read
    · exact ⟨'-', body, rfl, .inl rfl⟩

theorem toString_injective {left right : Int} (same : toString left = toString right) :
    left = right := by
  have text := congrArg String.toList same
  rw [toList_toString, toList_toString] at text
  have digits {first second : Nat} (same : digitsOf first = digitsOf second) : first = second := by
    rw [← digitsValue_digitsOf first, same, digitsValue_digitsOf]
  have minus (size : Nat) (rest : List Char) : digitsOf size ≠ '-' :: rest := by
    intro same
    exact absurd (isDigit_of_mem_digitsOf (same ▸ List.mem_cons_self)) (by decide : ¬ '-'.isDigit = true)
  split at text <;> split at text
  · have := digits text
    omega
  · exact absurd text (minus _ _)
  · exact absurd text.symm (minus _ _)
  · have := digits (List.cons.inj text).2
    omega

/-- The text of an integer is not that of a double, which has a point or an exponent. -/
private theorem toString_ne_render (whole : Int) {value : Float} (finite : (dyadic? value).isSome) :
    toString whole ≠ documentStyle.render value := by
  intro same
  have mark : ∃ char ∈ (documentStyle.render value).toList, char = '.' ∨ char = 'e' := by
    obtain ⟨sign, body, text, _, bodies⟩ := render_shape documentStyle finite
    rw [text]
    rcases bodies with rfl | ⟨decimal, rfl⟩
    · exact ⟨'.', by simp, .inl rfl⟩
    · obtain ⟨char, member, mark⟩ := mark_mem_renderDecimal documentStyle decimal
      exact ⟨char, List.mem_append_right _ member, mark⟩
  obtain ⟨char, member, mark⟩ := mark
  rw [← same, toList_toString, List.mem_append] at member
  rcases member with inSign | inDigits
  · split at inSign
    · cases inSign
    · obtain rfl := List.mem_singleton.mp inSign
      revert mark
      decide
  · have digit := isDigit_of_mem_digitsOf inDigits
    rcases mark with rfl | rfl <;> exact absurd digit (by decide)

/-- Different finite numbers have different texts. -/
theorem toDocumentText_injective {left right : Number} (first : left.Finite) (second : right.Finite)
    (same : left.toDocumentText = right.toDocumentText) : left = right := by
  cases left with
  | int whole =>
    cases right with
    | int other => rw [toString_injective same]
    | float value => exact absurd same (toString_ne_render whole second)
  | float value =>
    cases right with
    | int whole => exact absurd same.symm (toString_ne_render whole first)
    | float other => rw [FloatStyle.render_injective readable_documentStyle first second same]

end Terradoc.Number
