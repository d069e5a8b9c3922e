import Mathlib.Algebra.Group.Int.Defs
import Mathlib.Algebra.Group.Nat.Defs
import Mathlib.Data.List.TakeWhile
import Terradoc.Function.Collection
import Terradoc.Proofs.Replication.Instances

/-! Operations that a machine stops at when they reach too far: indices, slices of lists, cuts of texts at bytes,
sums of machine words, remainders and repetitions. A computation out of them that never stops gives what its
unguarded form gives. -/

namespace Terradoc

/-- What an operation reaches beyond. -/
inductive Breach where
  | index
  | slice
  /-- A cut inside a character. -/
  | character
  | word
  | divisor
  | memory
  | precision
  /-- A loop that does not end. -/
  | endless
deriving DecidableEq, Repr

/-- Why a guarded computation has no result: it reports a fault, or an operation stops it. -/
inductive Halt where
  | fault (cause : CallFault)
  | breach (breach : Breach)

abbrev Guarded (α : Type) := Except Halt α

/-- A computation without operations that may stop it. -/
def Guarded.plain {α : Type} (computed : Except CallFault α) : Guarded α := computed.mapError .fault

/-- A computation that a fault ends. -/
def Guarded.fail {α : Type} (cause : CallFault) : Guarded α := .error (.fault cause)

@[simp] theorem Guarded.plain_ok {α : Type} (result : α) : plain (.ok result) = .ok result := rfl

@[simp] theorem Guarded.plain_error {α : Type} (cause : CallFault) :
    (plain (.error cause) : Guarded α) = fail cause := rfl

theorem Guarded.plain_bind {α β : Type} (first : Except CallFault α) (next : α → Except CallFault β) :
    plain (first.bind next) = (plain first).bind fun value => plain (next value) := by
  cases first <;> rfl

theorem Guarded.plain_map {α β : Type} (computed : Except CallFault α) (image : α → β) :
    plain (computed.map image) = (plain computed).map image := by
  cases computed <;> rfl

namespace Guarded

/-- The most bytes that anything in memory has. -/
def mostMemory : Nat := 2 ^ 63 - 1

section Lists

variable {α : Type}

def item (items : List α) (position : Nat) : Guarded α :=
  match items[position]? with
  | some found => .ok found
  | none => .error (.breach .index)

/-- The items from a position to another. -/
def slice (items : List α) (start stop : Nat) : Guarded (List α) :=
  if start ≤ stop ∧ stop ≤ items.length then .ok ((items.take stop).drop start) else .error (.breach .slice)

def pieces (size : Nat) (items : List Value) : Guarded (List Value) :=
  if size = 0 then .error (.breach .divisor) else .ok (Functions.chunks size items.length items)

def reserve (bytes : Nat) : Guarded Unit := if bytes ≤ mostMemory then .ok () else .error (.breach .memory)

/-- A character so many times. -/
def repeated (char : Char) (count : Nat) : Guarded (List Char) := do
  reserve (count * char.utf8Size)
  .ok (List.replicate count char)

theorem item_of_lt {items : List α} {position : Nat} (inside : position < items.length) :
    item items position = .ok items[position] := by
  rw [item, List.getElem?_eq_getElem inside]

theorem slice_of_le {items : List α} {start stop : Nat} (order : start ≤ stop) (inside : stop ≤ items.length) :
    slice items start stop = .ok ((items.take stop).drop start) := if_pos ⟨order, inside⟩

theorem slice_append (front piece back : List α) :
    slice (front ++ piece ++ back) front.length (front ++ piece).length = .ok piece := by
  have order : front.length ≤ (front ++ piece).length := by rw [List.length_append]; exact Nat.le_add_right _ _
  have inside : (front ++ piece).length ≤ (front ++ piece ++ back).length := (List.prefix_append _ _).length_le
  rw [slice_of_le order inside, List.take_left, List.drop_left]

/-- The items from a position on. -/
theorem slice_to_end {items : List α} {start : Nat} (inside : start ≤ items.length) :
    slice items start items.length = .ok (items.drop start) := by
  rw [slice_of_le inside (Nat.le_refl _), List.take_length]

end Lists

def sum (left right : Nat) : Guarded Nat :=
  if left + right < 2 ^ 64 then .ok (left + right) else .error (.breach .word)

def difference (left right : Nat) : Guarded Nat :=
  if right ≤ left then .ok (left - right) else .error (.breach .word)

def signedSum (left right : Int) : Guarded Int :=
  if Number.minWord ≤ left + right ∧ left + right ≤ Number.maxWord then .ok (left + right)
  else .error (.breach .word)

/-- A signed sum that stays at the ends of the word. -/
def boundedSum (left right : Int) : Int := Number.clampWord (left + right)

def remainder (value divisor : Nat) : Guarded Nat :=
  if divisor = 0 then .error (.breach .divisor) else .ok (value % divisor)

def asUnsigned (word : Int) : Nat := (word % 2 ^ 64).toNat

/-- An unsigned word taken as a signed one. -/
def asSigned (word : Nat) : Int := if word < 2 ^ 63 then word else (word : Int) - 2 ^ 64

/-- Sizes are signed words too. -/
theorem word_range : Number.minWord = -(mostMemory : Int) - 1 ∧ Number.maxWord = mostMemory := ⟨rfl, rfl⟩

/-- A sum is a word where it is the size of something in memory. -/
theorem sum_of_le {left right : Nat} (fits : left + right ≤ mostMemory) : sum left right = .ok (left + right) := by
  have bound : mostMemory = 2 ^ 63 - 1 := rfl
  exact if_pos (by omega)

theorem difference_of_le {left right : Nat} (order : right ≤ left) : difference left right = .ok (left - right) :=
  if_pos order

theorem asUnsigned_of_nonneg {word : Int} (nonneg : 0 ≤ word) (fits : word ≤ Number.maxWord) :
    asUnsigned word = word.toNat := by
  have bound : Number.maxWord = 2 ^ 63 - 1 := rfl
  rw [asUnsigned, Int.emod_eq_of_lt nonneg (by omega)]

theorem asSigned_of_le {size : Nat} (fits : size ≤ mostMemory) : asSigned size = size := by
  have bound : mostMemory = 2 ^ 63 - 1 := rfl
  rw [asSigned, if_pos (by omega)]

/-- A whole number of an argument is a signed word. -/
theorem wholeArgument_bounds {index : Nat} {value : Option Number} {whole : Int}
    (read : wholeArgument index value = .ok whole) : Number.minWord ≤ whole ∧ whole ≤ Number.maxWord := by
  rw [wholeArgument] at read
  split at read
  · rename_i found
    cases read
    obtain ⟨number, -, found⟩ := Option.bind_eq_some_iff.mp found
    refine ⟨?_, Number.toInt?_le found⟩
    cases number with
    | int value =>
      cases found
      exact le_max_left _ _
    | float value =>
      obtain ⟨wide, -, rfl⟩ := Option.map_eq_some_iff.mp found
      exact le_max_left _ _
  · cases read

section Separators

variable {separator : Char} {front back : List Char}

theorem unlike_of_not_mem (outside : separator ∉ front) : ∀ char ∈ front, (char == separator) = false := by
  intro char member
  rw [beq_eq_false_iff_ne]
  rintro rfl
  exact outside member

theorem takeWhile_unlike (unlike : ∀ char ∈ front, (char == separator) = false) :
    front.takeWhile (· != separator) = front := by
  refine List.takeWhile_eq_self_iff.mpr fun char member => ?_
  rw [bne, unlike char member]
  rfl

theorem dropWhile_unlike (unlike : ∀ char ∈ front, (char == separator) = false) :
    front.dropWhile (· != separator) = [] := by
  rw [← List.append_cancel_left_eq, List.takeWhile_append_dropWhile, takeWhile_unlike unlike, List.append_nil]

theorem takeWhile_before (unlike : ∀ char ∈ front, (char == separator) = false) :
    (front ++ separator :: back).takeWhile (· != separator) = front := by
  rw [List.takeWhile_append, takeWhile_unlike unlike, if_pos rfl, List.takeWhile_cons_of_neg (by simp), List.append_nil]

theorem dropWhile_before (unlike : ∀ char ∈ front, (char == separator) = false) :
    (front ++ separator :: back).dropWhile (· != separator) = separator :: back := by
  rw [List.dropWhile_append, dropWhile_unlike unlike]
  simp

end Separators

/-- How many bytes characters have. -/
def byteSize (text : List Char) : Nat := (String.ofList text).utf8ByteSize

def splitAtByte : Nat → List Char → Guarded (List Char × List Char)
  | 0, text => .ok ([], text)
  | _ + 1, [] => .error (.breach .slice)
  | place + 1, char :: rest =>
    if char.utf8Size ≤ place + 1 then
      (splitAtByte (place + 1 - char.utf8Size) rest).map fun (before, after) => (char :: before, after)
    else .error (.breach .character)

/-- The text from a byte to another. -/
def cut (text : List Char) (start stop : Nat) : Guarded (List Char) := do
  if stop < start then .error (.breach .slice)
  else
    let (upTo, _) ← splitAtByte stop text
    let (_, piece) ← splitAtByte start upTo
    .ok piece

/-- The byte of the first character that passes a test. -/
def firstByte? (test : Char → Bool) : List Char → Option Nat
  | [] => none
  | char :: rest => if test char then some 0 else (firstByte? test rest).map (char.utf8Size + ·)

/-- The byte of the last character that passes a test. -/
def lastByte? (test : Char → Bool) : List Char → Option Nat
  | [] => none
  | char :: rest =>
    match lastByte? test rest with
    | some place => some (char.utf8Size + place)
    | none => if test char then some 0 else none

section Bytes

variable {test : Char → Bool} {front piece back : List Char}

@[simp] theorem byteSize_nil : byteSize [] = 0 := rfl

@[simp] theorem byteSize_cons (char : Char) (rest : List Char) :
    byteSize (char :: rest) = char.utf8Size + byteSize rest := by
  rw [byteSize, String.ofList_cons, String.utf8ByteSize_append, String.utf8ByteSize_singleton, byteSize]

@[simp] theorem byteSize_append (front back : List Char) :
    byteSize (front ++ back) = byteSize front + byteSize back := by
  rw [byteSize, String.ofList_append, String.utf8ByteSize_append, byteSize, byteSize]

theorem length_le_byteSize (text : List Char) : text.length ≤ byteSize text := by
  induction text with
  | nil => exact Nat.le_refl 0
  | cons char rest ih =>
    have := char.utf8Size_pos
    rw [byteSize_cons, List.length_cons]
    omega

theorem splitAtByte_append (front back : List Char) :
    splitAtByte (byteSize front) (front ++ back) = .ok (front, back) := by
  induction front with
  | nil => rw [byteSize_nil, List.nil_append, splitAtByte]
  | cons char rest ih =>
    obtain ⟨more, size⟩ := Nat.exists_eq_add_of_lt (Nat.add_pos_left char.utf8Size_pos (byteSize rest))
    rw [byteSize_cons, size, Nat.zero_add, List.cons_append, splitAtByte, if_pos (by omega),
      show more + 1 - char.utf8Size = byteSize rest by omega, ih]
    rfl

/-- A text is cut between any two of its characters. -/
theorem cut_append (front piece back : List Char) :
    cut (front ++ piece ++ back) (byteSize front) (byteSize (front ++ piece)) = .ok piece := by
  have order : ¬ byteSize (front ++ piece) < byteSize front := by rw [byteSize_append]; omega
  rw [cut, if_neg order, splitAtByte_append]
  change (splitAtByte (byteSize front) (front ++ piece)).bind _ = _
  rw [splitAtByte_append]
  rfl

example : cut ['é'] 0 1 = .error (.breach .character) := rfl

theorem cut_front (piece back : List Char) : cut (piece ++ back) 0 (byteSize piece) = .ok piece :=
  cut_append [] piece back

theorem cut_back (front piece : List Char) :
    cut (front ++ piece) (byteSize front) (byteSize (front ++ piece)) = .ok piece := by
  simpa using cut_append front piece []

/-- The first character that passes a test is where those that fail it end. -/
theorem firstByte?_eq (test : Char → Bool) (text : List Char) :
    firstByte? test text =
      if text.dropWhile (!test ·) = [] then none else some (byteSize (text.takeWhile (!test ·))) := by
  induction text with
  | nil => rfl
  | cons char rest ih =>
    rw [firstByte?, List.dropWhile_cons, List.takeWhile_cons]
    cases test char with
    | true => rfl
    | false =>
      rw [ih]
      simp only [Bool.not_false, if_true, Bool.false_eq_true, if_false]
      split <;> simp

theorem firstByte?_getD (test : Char → Bool) (text : List Char) :
    (firstByte? test text).getD (byteSize text) = byteSize (text.takeWhile (!test ·)) := by
  rw [firstByte?_eq]
  split
  · rename_i whole
    conv => lhs; rw [← List.takeWhile_append_dropWhile (p := (!test ·)) (l := text), whole]
    simp
  · rfl

theorem lastByte?_eq_none (outside : ∀ char ∈ back, test char = false) : lastByte? test back = none := by
  induction back with
  | nil => rfl
  | cons char rest ih =>
    obtain ⟨here, later⟩ := List.forall_mem_cons.mp outside
    rw [lastByte?, ih later, here]
    rfl

theorem lastByte?_append {char : Char} (passes : test char = true) (outside : ∀ other ∈ back, test other = false) :
    lastByte? test (front ++ char :: back) = some (byteSize front) := by
  induction front with
  | nil =>
    rw [List.nil_append, lastByte?, lastByte?_eq_none outside, passes]
    rfl
  | cons other rest ih => rw [List.cons_append, lastByte?, ih, byteSize_cons]

end Bytes

end Guarded

end Terradoc
