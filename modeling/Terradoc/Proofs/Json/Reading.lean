import Terradoc.Json.Parser
import Terradoc.Proofs.Entries
import Terradoc.Proofs.Json.Text
import Terradoc.Proofs.Number.Rounding

/-! Reading back the compact text of a document. A document is read back whole, and what follows it is left,
where each of its numbers is read back, no object has a key twice and nothing is nested too deep. -/

namespace Terradoc.Json

/-- What can stand after a document: nothing, or what separates documents or closes a collection. -/
def Stops (rest : List Char) : Prop := ∀ char ∈ rest.head?, char = ',' ∨ char = ']' ∨ char = '\x7d'

theorem stops_cons {mark : Char} (between : mark = ',' ∨ mark = ']' ∨ mark = '\x7d') (rest : List Char) :
    Stops (mark :: rest) := by
  rintro _ ⟨⟩
  exact between

theorem Stops.cases {rest : List Char} (stops : Stops rest) :
    rest = [] ∨ ∃ mark more, rest = mark :: more ∧ (mark = ',' ∨ mark = ']' ∨ mark = '\x7d') := by
  cases rest with
  | nil => exact .inl rfl
  | cons mark more => exact .inr ⟨mark, more, rfl, stops mark rfl⟩

theorem readNumber_unsigned {text : List Char} (unsigned : text.head? ≠ some '-') :
    readNumber text = readNumeral false text := by
  cases text with
  | nil => rfl
  | cons head tail =>
    have other : head ≠ '-' := fun same => unsigned (congrArg some same)
    simp [readNumber, other]

section Numbers

variable {rest : List Char} (stops : Stops rest)

include stops

theorem digits_append (text : List Char) :
    (text ++ rest).takeWhile Char.isDigit = text.takeWhile Char.isDigit ∧
      (text ++ rest).dropWhile Char.isDigit = text.dropWhile Char.isDigit ++ rest := by
  induction text with
  | nil => rcases stops.cases with rfl | ⟨_, _, rfl, rfl | rfl | rfl⟩ <;> exact ⟨rfl, rfl⟩
  | cons head tail ih =>
    rw [List.cons_append, List.takeWhile_cons, List.takeWhile_cons, List.dropWhile_cons, List.dropWhile_cons,
      ih.1, ih.2]
    split <;> exact ⟨rfl, rfl⟩

theorem readFraction_append (text : List Char) :
    readFraction (text ++ rest) = (readFraction text).map (Prod.map id (· ++ rest)) := by
  cases text with
  | nil => rcases stops.cases with rfl | ⟨_, _, rfl, rfl | rfl | rfl⟩ <;> rfl
  | cons head tail =>
    by_cases point : head = '.'
    · subst point
      simp only [List.cons_append, readFraction, digits_append stops tail]
      split <;> rfl
    · simp [readFraction, point]

theorem readSign_append (text : List Char) :
    readSign (text ++ rest) = Prod.map id (· ++ rest) (readSign text) := by
  cases text with
  | nil => rcases stops.cases with rfl | ⟨_, _, rfl, rfl | rfl | rfl⟩ <;> rfl
  | cons head tail =>
    by_cases minus : head = '-'
    · subst minus
      rfl
    · by_cases plus : head = '+'
      · subst plus
        rfl
      · simp [readSign, minus, plus]

theorem readExponent_append (text : List Char) :
    readExponent (text ++ rest) = (readExponent text).map (Prod.map id (· ++ rest)) := by
  cases text with
  | nil => rcases stops.cases with rfl | ⟨_, _, rfl, rfl | rfl | rfl⟩ <;> rfl
  | cons head tail =>
    by_cases mark : head = 'e' ∨ head = 'E'
    · rcases mark with rfl | rfl <;>
        simp only [List.cons_append, readExponent, readSign_append stops tail, Prod.map_fst, Prod.map_snd,
          digits_append stops (readSign tail).2] <;>
        split <;> rfl
    · obtain ⟨small, large⟩ := not_or.mp mark
      simp [readExponent, small, large]

theorem readNumeral_append (negative : Bool) (text : List Char) :
    readNumeral negative (text ++ rest) = (readNumeral negative text).map (Prod.map id (· ++ rest)) := by
  obtain ⟨taken, left⟩ := digits_append stops text
  rw [readNumeral, readNumeral, taken, left, readFraction_append stops]
  dsimp only
  cases leading (text.takeWhile Char.isDigit) with
  | false => rfl
  | true =>
    rcases readFraction (text.dropWhile Char.isDigit) with _ | ⟨fraction, after⟩
    · rfl
    · simp only [Option.map_some, Option.bind_eq_bind, Option.bind_some, Prod.map_fst, Prod.map_snd,
        readExponent_append stops]
      rcases readExponent after with _ | ⟨exponent, last⟩
      · rfl
      · simp only [Option.map_some, Option.bind_some, Prod.map_fst, Prod.map_snd, id]
        cases numeralNumber negative (text.takeWhile Char.isDigit) fraction exponent <;> rfl

/-- A number ends where it would end without what follows. -/
theorem readNumber_append (text : List Char) :
    readNumber (text ++ rest) = (readNumber text).map (Prod.map id (· ++ rest)) := by
  cases text with
  | nil => rcases stops.cases with rfl | ⟨_, _, rfl, rfl | rfl | rfl⟩ <;> rfl
  | cons head tail =>
    by_cases minus : head = '-'
    · subst minus
      exact readNumeral_append stops true tail
    · rw [readNumber_unsigned (by simpa using minus), readNumber_unsigned (by simpa using minus)]
      exact readNumeral_append stops false (head :: tail)

end Numbers

theorem leading_digitsOf (value : Nat) : leading (Number.digitsOf value) = true := by
  rcases Nat.eq_zero_or_pos value with rfl | positive
  · rfl
  · simp [leading, Number.digitsOf_ne_nil, Number.head?_digitsOf positive]

theorem readNumeral_digitsOf (negative : Bool) (value : Nat) :
    readNumeral negative (Number.digitsOf value) =
      (numeralNumber negative (Number.digitsOf value) none none).map (·, []) := by
  have digits : ∀ char ∈ Number.digitsOf value, char.isDigit = true :=
    fun _ => Number.isDigit_of_mem_digitsOf
  rw [readNumeral, List.takeWhile_eq_self_iff.mpr digits, List.dropWhile_eq_nil_iff.mpr digits]
  dsimp only
  rw [leading_digitsOf]
  change (numeralNumber negative (Number.digitsOf value) none none).bind _ = _
  cases numeralNumber negative (Number.digitsOf value) none none <;> rfl

/-- The integers of the 64-bit words are read back. -/
theorem readNumber_int {value : ℤ} (word : value ∈ Number.words) :
    readNumber (Number.int value).toDocumentText.toList = some (.int value, []) := by
  obtain ⟨low, high⟩ := word
  change -9223372036854775808 ≤ value at low
  change readNumber (toString value).toList = _
  rw [Number.toList_toString]
  split
  · rename_i nonneg
    have unsigned : (Number.digitsOf value.natAbs).head? ≠ some '-' := by
      intro minus
      have digit := Number.isDigit_of_mem_digitsOf (List.mem_of_mem_head? minus)
      cases digit
    have small : value.natAbs < Nat.pow 2 64 := by change value.natAbs < 2 ^ 64; omega
    rw [List.nil_append, readNumber_unsigned unsigned, readNumeral_digitsOf]
    simp [numeralNumber, small, abs_of_nonneg nonneg]
  · rename_i negative
    have small : value.natAbs ≤ Nat.pow 2 63 := by change value.natAbs ≤ 2 ^ 63; omega
    have nonzero : value ≠ 0 := by omega
    change readNumeral true (Number.digitsOf value.natAbs) = _
    rw [readNumeral_digitsOf]
    simp [numeralNumber, small, nonzero, abs_of_neg (Int.not_le.mp negative)]

theorem readQuad_hexQuad {code : Nat} (small : code < 32) (rest : List Char) :
    readQuad (hexQuad code ++ rest) = some (code, rest) := by
  have digits : ∀ code < 32,
      hexQuad code = ['0', '0', Nat.digitChar (code / 16), Nat.digitChar (code % 16)] := by decide +kernel
  have values : ∀ digit < 16, hexDigit? (Nat.digitChar digit) = some digit := by decide
  have zero : hexDigit? '0' = some 0 := by decide
  rw [digits code small]
  simp [readQuad, zero, values _ (show code / 16 < 16 by omega), values _ (Nat.mod_lt code (by decide)),
    Nat.div_add_mod']

theorem readQuoted_escapeChar (fuel : Nat) (seen : List Char) (char : Char) (rest : List Char) :
    readQuoted (fuel + 1) seen (escapeChar char ++ rest) = readQuoted fuel (char :: seen) rest := by
  unfold escapeChar
  -- The first seven characters have a letter of their own.
  iterate 7
    split
    · rename_i same
      rw [beq_iff_eq.mp same]
      rfl
  split
  · rename_i small
    have escaped : readEscape ('u' :: (hexQuad char.toNat ++ rest)) = some (char, rest) := by
      have low : ¬ 0xDC00 ≤ char.toNat := by omega
      have lower : ¬ 0xD800 ≤ char.toNat := by omega
      simp [readEscape, readQuad_hexQuad small, low, lower]
    rw [List.cons_append, List.cons_append, readQuoted, escaped]
    rfl
  · rename_i quote slash _ _ _ _ _ large
    have notQuote : char ≠ '"' := by simpa using quote
    have notSlash : char ≠ '\\' := by simpa using slash
    rw [List.singleton_append, readQuoted.eq_5 _ _ _ _ notQuote notSlash, if_neg large]

theorem readQuoted_escaped {fuel : Nat} {text : List Char} (enough : text.length < fuel) (seen rest : List Char) :
    readQuoted fuel seen (text.flatMap escapeChar ++ '"' :: rest) =
      some (String.ofList (seen.reverse ++ text), rest) := by
  obtain ⟨fuel, rfl⟩ := Nat.exists_eq_add_one_of_ne_zero (Nat.ne_zero_of_lt enough)
  induction text generalizing fuel seen with
  | nil => simp [readQuoted]
  | cons char others ih =>
    obtain ⟨fuel, rfl⟩ := Nat.exists_eq_add_one_of_ne_zero
      (Nat.ne_zero_of_lt (Nat.lt_of_succ_lt_succ enough))
    rw [List.flatMap_cons, List.append_assoc, readQuoted_escapeChar, ih _ _ (Nat.lt_of_succ_lt_succ enough)]
    simp

theorem length_le_escaped (text : List Char) : text.length ≤ (text.flatMap escapeChar).length := by
  induction text with
  | nil => exact le_rfl
  | cons char others ih =>
    have some : 0 < (escapeChar char).length := by
      rcases escapeChar_cases char with ⟨_, text, _⟩ | ⟨text, _⟩ | ⟨text, _⟩ <;> rw [text] <;>
        exact Nat.succ_pos _
    rw [List.flatMap_cons, List.length_append, List.length_cons]
    omega

/-- A quoted text is read back. -/
theorem readQuoted_quote (text : String) (rest : List Char) :
    ∃ inner, (quote text).toList ++ rest = '"' :: inner ∧
      readQuoted (inner.length + 1) [] inner = some (text, rest) := by
  refine ⟨text.toList.flatMap escapeChar ++ '"' :: rest, by simp [toList_quote], ?_⟩
  have enough := length_le_escaped text.toList
  rw [readQuoted_escaped (by rw [List.length_append]; omega), List.reverse_nil, List.nil_append,
    String.ofList_toList]

/-- Documents that are read back: their numbers are, no object has a key twice, and collections are nested no
deeper than so many levels. -/
inductive Readable : Nat → Json → Prop where
  | null (depth : Nat) : Readable depth .null
  | bool (depth : Nat) (value : Bool) : Readable depth (.bool value)
  | number (depth : Nat) {value : Number}
    (reads : readNumber value.toDocumentText.toList = some (value, [])) : Readable depth (.number value)
  | string (depth : Nat) (value : String) : Readable depth (.string value)
  | array {depth : Nat} {items : List Json} (below : ∀ item ∈ items, Readable depth item) :
    Readable (depth + 1) (.array items)
  | object {depth : Nat} {entries : List (String × Json)} (once : (entries.map Prod.fst).Nodup)
    (below : ∀ entry ∈ entries, Readable depth entry.2) : Readable (depth + 1) (.object entries)

theorem Readable.int (depth : Nat) {value : ℤ} (word : value ∈ Number.words) :
    Readable depth (.number (.int value)) :=
  .number depth (readNumber_int word)

theorem Readable.finite {depth : Nat} {value : Json} (readable : value.Readable depth) : value.Finite := by
  induction readable with
  | null | bool | string => trivial
  | @number _ value reads =>
    cases value with
    | int => trivial
    | float double =>
      -- What is not finite has no text, and nothing is read from that.
      by_contra infinite
      have shapeless : Number.dyadic? double = none := Option.not_isSome_iff_eq_none.mp infinite
      have empty : (Number.float double).toDocumentText = "" := by
        change Number.documentStyle.render double = ""
        rw [Number.FloatStyle.render, shapeless]
      rw [empty] at reads
      cases reads
  | array _ ih => exact itemsFinite_iff.mpr ih
  | object _ _ ih => exact entriesFinite_iff.mpr ih

/-- The text of a document, in front of whatever can follow it, is read as that document. -/
structure ReadsBack (depth : Nat) (value : Json) : Prop where
  finite : value.Finite
  reads : ∀ fuel rest, 2 * value.compact.toList.length ≤ fuel → Stops rest →
    readValue (fuel + 1) depth (value.compact.toList ++ rest) = some (value, rest)

theorem skipBlanks_of_startsWith {value : Json} {head : Char} (starts : value.StartsWith head)
    (rest : List Char) : skipBlanks (head :: rest) = head :: rest := by
  cases value with
  | bool value =>
    obtain rfl : head = if value then 't' else 'f' := starts
    cases value <;> rfl
  | number =>
    rcases (starts : Number.IsTextHead head) with rfl | rfl | digit
    · rfl
    · rfl
    · have dark : ∀ blank, blank.isDigit = false → (head == blank) = false := by
        intro blank other
        refine beq_eq_false_iff_ne.mpr fun same => ?_
        rw [same, other] at digit
        cases digit
      rw [skipBlanks, List.dropWhile_cons_of_neg]
      simp [dark]
  | _ =>
    obtain rfl : head = _ := starts
    rfl

section Documents

variable {depth : Nat}

theorem readValue_number {head : Char} (starts : Number.IsTextHead head) (fuel : Nat) (rest : List Char) :
    readValue (fuel + 1) depth (head :: rest) =
      (readNumber (head :: rest)).bind fun (value, left) => some (number value, left) := by
  have dark := @skipBlanks_of_startsWith (.number (.int 0)) head starts rest
  rw [readValue, dark]
  split
  case h_7 => rfl
  all_goals
    rename_i same
    obtain rfl := (List.cons.inj same).1
    simp [Number.IsTextHead] at starts

theorem readsBack_null : ReadsBack depth .null where
  finite := trivial
  reads _ _ _ _ := rfl

theorem readsBack_bool (value : Bool) : ReadsBack depth (.bool value) where
  finite := trivial
  reads _ _ _ _ := by cases value <;> rfl

theorem readsBack_number {value : Number} (finite : value.Finite)
    (read : readNumber value.toDocumentText.toList = some (value, [])) : ReadsBack depth (.number value) where
  finite := finite
  reads fuel rest _ stops := by
    change readValue (fuel + 1) depth (value.toDocumentText.toList ++ rest) = _
    have numeral := readNumber_append stops value.toDocumentText.toList
    rw [read] at numeral
    obtain ⟨head, tail, text, starts⟩ := Number.toDocumentText_head finite
    rw [text, List.cons_append] at numeral ⊢
    rw [readValue_number starts, numeral]
    rfl

theorem readsBack_string (value : String) : ReadsBack depth (.string value) where
  finite := trivial
  reads fuel rest _ _ := by
    obtain ⟨inner, text, read⟩ := readQuoted_quote value rest
    rw [compact, text]
    change (readQuoted (inner.length + 1) [] inner).bind _ = _
    rw [read]
    rfl

theorem stops_following {α : Type} {close : Char} (closes : close = ']' ∨ close = '\x7d') (others : List α)
    (text rest : List Char) : Stops (following close others text rest) := by
  unfold following
  split
  · exact stops_cons (.inr closes) _
  · exact stops_cons (.inl rfl) _

/-- The texts of the parts of a collection are no longer than what they are parts of. -/
theorem length_compactItems (item : Json) (others : List Json) :
    item.compact.toList.length ≤ (compactItems (item :: others)).toList.length ∧
      (others ≠ [] → (compactItems others).toList.length < (compactItems (item :: others)).toList.length) := by
  cases others with
  | nil => exact ⟨le_rfl, nofun⟩
  | cons =>
    constructor
    · simp [compactItems]
    · simp [compactItems]
      omega

theorem length_compactEntries (key : String) (value : Json) (others : List (String × Json)) :
    value.compact.toList.length ≤ (compactEntries ((key, value) :: others)).toList.length ∧
      (others ≠ [] →
        (compactEntries others).toList.length < (compactEntries ((key, value) :: others)).toList.length) := by
  cases others with
  | nil =>
    refine ⟨?_, nofun⟩
    simp [compactEntries]
    omega
  | cons => constructor <;> simp [compactEntries] <;> omega

/-- The items of an array are read up to its end. -/
theorem readItems_compact {items : List Json} (some : items ≠ []) (each : ∀ item ∈ items, ReadsBack depth item)
    {fuel : Nat} (enough : 2 * (compactItems items).toList.length ≤ fuel) (seen : List Json)
    (rest : List Char) : readItems (fuel + 2) depth seen ((compactItems items).toList ++ ']' :: rest) =
      .some (array (seen.reverse ++ items), rest) := by
  induction items generalizing fuel seen with
  | nil => exact absurd rfl some
  | cons item others ih =>
    obtain ⟨here, later⟩ := List.forall_mem_cons.mp each
    obtain ⟨first, shorter⟩ := length_compactItems item others
    rw [compactItems_cons, readItems, here.reads fuel _ (by omega) (stops_following (.inl rfl) _ _ _)]
    cases others with
    | nil => simp [skipBlanks]
    | cons next others =>
      -- A comma takes one step more, and its character pays for two.
      have nonempty := List.cons_ne_nil next others
      have less := shorter nonempty
      obtain ⟨fuel, rfl⟩ : ∃ fewer, fuel = fewer + 1 := ⟨fuel - 1, by omega⟩
      have last := @ih nonempty later fuel (by omega) (item :: seen)
      simp [skipBlanks, last]

/-- The entries of an object are read up to its end. -/
theorem readEntries_compact {entries : List (String × Json)} (some : entries ≠ [])
    (each : ∀ entry ∈ entries, ReadsBack depth entry.2) {fuel : Nat}
    (enough : 2 * (compactEntries entries).toList.length ≤ fuel) (seen : List (String × Json))
    (rest : List Char) : readEntries (fuel + 2) depth seen ((compactEntries entries).toList ++ '\x7d' :: rest) =
      .some (object (Entries.ofList (seen.reverse ++ entries)), rest) := by
  induction entries generalizing fuel seen with
  | nil => exact absurd rfl some
  | cons entry others ih =>
    obtain ⟨key, value⟩ := entry
    have here : ReadsBack depth value := each (key, value) List.mem_cons_self
    obtain ⟨first, shorter⟩ := length_compactEntries key value others
    have valued := here.reads fuel (following '\x7d' others (compactEntries others).toList rest) (by omega)
      (stops_following (.inr rfl) _ _ _)
    obtain ⟨inner, text, read⟩ := readQuoted_quote key (':' :: (value.compact.toList ++
      following '\x7d' others (compactEntries others).toList rest))
    rw [compactEntries_cons, text, readEntries]
    cases others with
    | nil =>
      rw [following_nil] at valued
      simp [skipBlanks, read, valued]
    | cons next others =>
      have nonempty := List.cons_ne_nil next others
      have less := shorter nonempty
      obtain ⟨fuel, rfl⟩ : ∃ fewer, fuel = fewer + 1 := ⟨fuel - 1, by omega⟩
      have last := @ih nonempty (fun entry member => each entry (List.mem_cons_of_mem _ member)) fuel (by omega)
        ((key, value) :: seen)
      rw [following_cons] at valued
      simp [skipBlanks, read, valued, last]

section Opening

variable {head : Char} {tail : List Char} (dark : skipBlanks (head :: tail) = head :: tail)

include dark

theorem readValue_array (other : head ≠ ']') (fuel : Nat) :
    readValue (fuel + 1) (depth + 1) ('[' :: head :: tail) = readItems fuel depth [] (head :: tail) := by
  have bracket : skipBlanks ('[' :: head :: tail) = '[' :: head :: tail := rfl
  simp [readValue, bracket, dark, other]

theorem readValue_object (other : head ≠ '\x7d') (fuel : Nat) :
    readValue (fuel + 1) (depth + 1) ('\x7b' :: head :: tail) = readEntries fuel depth [] (head :: tail) := by
  have brace : skipBlanks ('\x7b' :: head :: tail) = '\x7b' :: head :: tail := rfl
  simp [readValue, brace, dark, other]

end Opening

theorem readsBack_array {items : List Json} (each : ∀ item ∈ items, ReadsBack depth item) :
    ReadsBack (depth + 1) (.array items) where
  finite := itemsFinite_iff.mpr fun item member => (each item member).finite
  reads fuel rest enough _ := by
    have text : (array items).compact.toList = '[' :: ((compactItems items).toList ++ [']']) := by simp [compact]
    have size : (array items).compact.toList.length = (compactItems items).toList.length + 2 := by simp [text]
    rw [text]
    rw [List.cons_append, List.append_assoc, List.singleton_append]
    cases items with
    | nil => rfl
    | cons item others =>
      have start := compactItems_cons item others rest
      obtain ⟨head, tail, written, starts⟩ := compact_head (each item List.mem_cons_self).finite
      rw [written, List.cons_append] at start
      obtain ⟨fuel, rfl⟩ : ∃ fewer, fuel = fewer + 2 := ⟨fuel - 2, by omega⟩
      have read := readItems_compact (List.cons_ne_nil item others) each (by omega : _ ≤ fuel) [] rest
      rw [start] at read ⊢
      rw [readValue_array (skipBlanks_of_startsWith starts _), read]
      · rfl
      · rintro rfl
        exact not_startsWith (.inr (.inl rfl)) starts

theorem readsBack_object {entries : List (String × Json)} (once : (entries.map Prod.fst).Nodup)
    (each : ∀ entry ∈ entries, ReadsBack depth entry.2) : ReadsBack (depth + 1) (.object entries) where
  finite := entriesFinite_iff.mpr fun entry member => (each entry member).finite
  reads fuel rest enough _ := by
    have text : (object entries).compact.toList = '\x7b' :: ((compactEntries entries).toList ++ ['\x7d']) := by
      simp [compact]
    have size : (object entries).compact.toList.length = (compactEntries entries).toList.length + 2 := by
      simp [text]
    rw [text]
    rw [List.cons_append, List.append_assoc, List.singleton_append]
    cases entries with
    | nil => rfl
    | cons entry others =>
      have start := compactEntries_cons entry.1 entry.2 others rest
      rw [toList_quote, List.cons_append] at start
      obtain ⟨fuel, rfl⟩ : ∃ fewer, fuel = fewer + 2 := ⟨fuel - 2, by omega⟩
      have read := readEntries_compact (List.cons_ne_nil entry others) each (by omega : _ ≤ fuel) [] rest
      rw [start] at read ⊢
      rw [readValue_object rfl (by decide), read, List.reverse_nil, List.nil_append, Entries.ofList_of_nodup once]

end Documents

theorem Readable.readsBack {depth : Nat} {value : Json} (readable : value.Readable depth) :
    value.ReadsBack depth := by
  induction readable with
  | null => exact readsBack_null
  | bool _ value => exact readsBack_bool value
  | number _ reads => exact readsBack_number (Readable.number 0 reads).finite reads
  | string _ value => exact readsBack_string value
  | array _ ih => exact readsBack_array ih
  | object once _ ih => exact readsBack_object once ih

/-- The compact text of a document is read back as the document. -/
theorem parse?_compact {value : Json} (readable : value.Readable depthLimit) :
    parse? value.compact = some value := by
  have reads := readable.readsBack.reads (2 * value.compact.toList.length + 1) [] (by omega) nofun
  rw [List.append_nil] at reads
  rw [parse?]
  dsimp only
  rw [reads]
  rfl

end Terradoc.Json
