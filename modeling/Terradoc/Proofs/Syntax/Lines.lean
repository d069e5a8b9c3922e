import Terradoc.Proofs.Text.Bytes
import Terradoc.Syntax.Lines

/-! Line numbers are exact: the line of a place is one more than the newlines before it. Places are counted in bytes,
so the newlines are, too. -/

namespace Terradoc

section Search

variable {numbers : Array Nat} {sought : Nat}

theorem getElem_le_of_sorted (sorted : numbers.toList.Pairwise (· ≤ ·)) {left right : Nat}
    (before : left ≤ right) (inside : right < numbers.size) : numbers[left] ≤ numbers[right] := by
  rcases Nat.lt_or_eq_of_le before with earlier | rfl
  · exact List.pairwise_iff_getElem.mp sorted left right (Nat.lt_trans earlier inside) inside earlier
  · exact Nat.le_refl _

/-- A window of sorted numbers outside of which a search is over: all after it are above the sought number,
and the first in it is not, unless the window starts where the numbers do. -/
structure Narrowed (numbers : Array Nat) (sought first size : Nat) : Prop where
  above : ∀ (place : Nat) (inside : place < numbers.size), first + size ≤ place → sought < numbers[place]
  below : first = 0 ∨ ∃ inside : first < numbers.size, numbers[first] ≤ sought

/-- Halving keeps what is known outside of the window until one position is left. -/
theorem narrowed_narrow (sorted : numbers.toList.Pairwise (· ≤ ·)) {first size : Nat}
    (within : first + size ≤ numbers.size) (nonempty : 0 < size)
    (narrowed : Narrowed numbers sought first size) :
    narrow numbers sought first size within < numbers.size ∧
      Narrowed numbers sought (narrow numbers sought first size within) 1 := by
  fun_induction narrow numbers sought first size within with
  | case1 first size within small =>
    obtain rfl : size = 1 := Nat.le_antisymm small nonempty
    exact ⟨within, narrowed⟩
  | case2 first size within large inside lower ih =>
    -- What the window loses lies behind its middle, so it is above the sought number, too.
    refine ih (by omega) ⟨fun place within after => ?_, narrowed.below⟩
    exact Nat.lt_of_lt_of_le lower (getElem_le_of_sorted sorted (by omega) within)
  | case3 first size within large inside upper ih =>
    refine ih (by omega) ⟨fun place within after => ?_, .inr ⟨inside, Nat.not_lt.mp upper⟩⟩
    exact narrowed.above place within (by omega)

/-- A position up to which, and no further, numbers are not above a given one. -/
structure CutAt (numbers : Array Nat) (sought position : Nat) : Prop where
  fits : position ≤ numbers.size
  before : ∀ (place : Nat) (inside : place < numbers.size), place < position → numbers[place] ≤ sought
  after : ∀ (place : Nat) (inside : place < numbers.size), position ≤ place → sought < numbers[place]

/-- What a binary search promises: the number is at the position that it gives, or would go there. -/
inductive Stands (numbers : Array Nat) (sought : Nat) : Standing → Prop where
  | present {position : Nat} (here : numbers[position]? = some sought)
      (cut : CutAt numbers sought (position + 1)) : Stands numbers sought (.present position)
  | absent {position : Nat} (missing : sought ∉ numbers) (cut : CutAt numbers sought position) :
      Stands numbers sought (.absent position)

theorem CutAt.not_mem {position : Nat} (cut : CutAt numbers sought position)
    (smaller : ∀ (place : Nat) (inside : place < numbers.size), place < position → numbers[place] < sought) :
    sought ∉ numbers := by
  intro member
  obtain ⟨place, inside, same⟩ := Array.mem_iff_getElem.mp member
  rcases Nat.lt_or_ge place position with earlier | later
  · exact Nat.ne_of_lt (smaller place inside earlier) same
  · exact Nat.ne_of_gt (cut.after place inside later) same

theorem binarySearch_stands (sorted : numbers.toList.Pairwise (· ≤ ·)) (sought : Nat) :
    Stands numbers sought (binarySearch numbers sought) := by
  rw [binarySearch]
  rcases Nat.eq_zero_or_pos numbers.size with empty | nonempty
  · obtain rfl := Array.eq_empty_of_size_eq_zero empty
    rw [narrow]
    exact .absent (Array.not_mem_empty _) ⟨Nat.le_refl _, nofun, nofun⟩
  · have whole : Narrowed numbers sought 0 numbers.size := ⟨fun place inside after => by omega, .inl rfl⟩
    obtain ⟨inside, narrowed⟩ := narrowed_narrow sorted (Nat.le_of_eq (Nat.zero_add _)) nonempty whole
    generalize narrow numbers sought 0 numbers.size _ = position at inside narrowed
    have cut (low : numbers[position] ≤ sought) : CutAt numbers sought (position + 1) :=
      ⟨inside, fun place within earlier =>
        Nat.le_trans (getElem_le_of_sorted sorted (Nat.le_of_lt_succ earlier) inside) low, narrowed.above⟩
    rw [dif_pos inside]
    split
    · rename_i same
      exact .present (by rw [Array.getElem?_eq_getElem inside, same]) (cut (Nat.le_of_eq same))
    · split
      · rename_i lower
        refine .absent ((cut (Nat.le_of_lt lower)).not_mem fun place within earlier => ?_) (cut (Nat.le_of_lt lower))
        exact Nat.lt_of_le_of_lt (getElem_le_of_sorted sorted (Nat.le_of_lt_succ earlier) inside) lower
      · rename_i differ upper
        -- Nothing was passed, so the window still starts where the numbers do.
        obtain rfl : position = 0 := narrowed.below.resolve_right fun ⟨_, low⟩ => by omega
        have all : CutAt numbers sought 0 :=
          ⟨Nat.zero_le _, nofun, fun place within _ =>
            Nat.lt_of_lt_of_le (by omega) (getElem_le_of_sorted sorted (Nat.zero_le place) within)⟩
        exact .absent (all.not_mem nofun) all

theorem CutAt.countP {position : Nat} (cut : CutAt numbers sought position) :
    numbers.toList.countP (· ≤ sought) = position := by
  rw [← List.take_append_drop position numbers.toList, List.countP_append]
  have before : (numbers.toList.take position).countP (· ≤ sought) = position := by
    rw [List.countP_eq_length.mpr, List.length_take, Array.length_toList, Nat.min_eq_left cut.fits]
    intro number member
    obtain ⟨place, within, rfl⟩ := List.mem_take_iff_getElem.mp member
    simp only [Array.length_toList] at within
    simpa using cut.before place (by omega) (by omega)
  have after : (numbers.toList.drop position).countP (· ≤ sought) = 0 := by
    rw [List.countP_eq_zero]
    intro number member
    obtain ⟨place, within, rfl⟩ := List.mem_drop_iff_getElem.mp member
    simp only [Array.length_toList] at within
    simpa using cut.after (position + place) (by omega) (by omega)
  rw [before, after, Nat.add_zero]

end Search

namespace LineIndex

theorem lineOf_eq_countP {index : LineIndex} (sorted : index.starts.toList.Pairwise (· ≤ ·)) (place : Nat) :
    index.lineOf place = index.starts.toList.countP (· ≤ place) := by
  have stands := binarySearch_stands sorted place
  rw [lineOf]
  generalize binarySearch index.starts place = standing at stands
  cases stands with
  | present _ cut => exact cut.countP.symm
  | absent _ cut => exact cut.countP.symm

theorem lt_of_mem_startsFrom {place start : Nat} {text : List Char} (member : start ∈ startsFrom place text) :
    place < start := by
  induction text generalizing place with
  | nil => cases member
  | cons char rest ih =>
    have size := char.utf8Size_pos
    rw [startsFrom] at member
    split at member
    · rcases List.mem_cons.mp member with rfl | later
      · omega
      · exact Nat.lt_trans (by omega) (ih later)
    · exact Nat.lt_trans (by omega) (ih member)

theorem pairwise_startsFrom (place : Nat) (text : List Char) : (startsFrom place text).Pairwise (· < ·) := by
  induction text generalizing place with
  | nil => exact .nil
  | cons char rest ih =>
    rw [startsFrom]
    split
    · exact .cons (fun _ => lt_of_mem_startsFrom) (ih _)
    · exact ih _

/-- The places where lines start are in order. -/
theorem sorted_ofText (text : List Char) : (ofText text).starts.toList.Pairwise (· ≤ ·) := by
  exact .cons (fun _ _ => Nat.zero_le _) ((pairwise_startsFrom 0 text).imp Nat.le_of_lt)

end LineIndex

theorem byteLength_eq (text : List Char) : byteLength text = (text.flatMap String.utf8EncodeChar).length := by
  have after (before : Nat) : text.foldl (fun size char => size + char.utf8Size) before =
      before + (text.flatMap String.utf8EncodeChar).length := by
    induction text generalizing before with
    | nil => rfl
    | cons char rest ih =>
      rw [List.foldl_cons, ih, List.flatMap_cons, List.length_append, String.length_utf8EncodeChar,
        Nat.add_assoc]
  rw [byteLength, after, Nat.zero_add]

namespace Text

abbrev newline : UInt8 := '\n'.toUInt8

theorem utf8EncodeChar_newline : String.utf8EncodeChar '\n' = [newline] := by decide

/-- No byte of another character is that of a newline. -/
theorem newline_not_mem_utf8EncodeChar {char : Char} (other : char ≠ '\n') :
    newline ∉ String.utf8EncodeChar char := by
  have differ : char.val.toNat ≠ 10 := fun same => other (Char.ext (UInt32.toNat_inj.mp same))
  have byte_eq {byte : Nat} (small : byte < 256) : newline = UInt8.ofNat byte ↔ byte = 10 := by
    rw [← UInt8.toNat_inj, UInt8.toNat_ofNat_of_lt' small, eq_comm]
    rfl
  rw [String.utf8EncodeChar]
  split_ifs <;> simp (disch := omega) only [List.mem_cons, List.not_mem_nil, or_false, byte_eq] <;> omega

theorem count_newline_utf8EncodeChar (char : Char) :
    (String.utf8EncodeChar char).count newline = if char = '\n' then 1 else 0 := by
  split
  · rename_i same
    rw [same, utf8EncodeChar_newline, List.count_singleton_self]
  · rename_i other
    exact List.count_eq_zero.mpr (newline_not_mem_utf8EncodeChar other)

/-- The newlines among characters are those among their bytes. -/
theorem count_newline_flatMap (text : List Char) :
    (text.flatMap String.utf8EncodeChar).count newline = text.count '\n' := by
  induction text with
  | nil => rfl
  | cons char rest ih =>
    rw [List.flatMap_cons, List.count_append, ih, count_newline_utf8EncodeChar, List.count_cons, Nat.add_comm]
    simp only [beq_iff_eq]

/-- How many newlines stand before a place of a text. A newline is one byte, so they are counted among the bytes. -/
def newlinesBefore (text : String) (place : Nat) : Nat := ((toBytes text).take place).count newline

theorem newlinesBefore_take (text : String) (count : Nat) :
    newlinesBefore text (byteLength (text.toList.take count)) = (text.toList.take count).count '\n' := by
  have cut : text.toList.flatMap String.utf8EncodeChar =
      (text.toList.take count).flatMap String.utf8EncodeChar ++
        (text.toList.drop count).flatMap String.utf8EncodeChar := by
    rw [← List.flatMap_append, List.take_append_drop]
  rw [newlinesBefore, toBytes_eq, cut, byteLength_eq, List.take_left, count_newline_flatMap]

theorem newlinesBefore_mono (text : String) {start stop : Nat} (order : start ≤ stop) :
    newlinesBefore text start ≤ newlinesBefore text stop :=
  (List.take_sublist_take_left order).count_le _

end Text

namespace LineIndex

theorem countP_startsFrom (start place : Nat) (text : List Char) :
    (startsFrom start text).countP (· ≤ place) =
      ((text.flatMap String.utf8EncodeChar).take (place - start)).count Text.newline := by
  induction text generalizing start with
  | nil => rw [startsFrom, List.flatMap_nil, List.take_nil]; rfl
  | cons char rest ih =>
    rw [startsFrom, List.flatMap_cons, List.take_append, List.count_append, String.length_utf8EncodeChar,
      Nat.sub_sub, ← ih]
    by_cases here : char = '\n'
    · subst here
      rw [Text.utf8EncodeChar_newline, beq_self_eq_true, if_pos rfl, List.countP_cons, Nat.add_comm]
      have single : '\n'.utf8Size = 1 := rfl
      congr 1
      rw [single]
      rcases Nat.lt_or_ge start place with before | after
      · have counted : start + 1 ≤ place := before
        have inside : [Text.newline].length ≤ place - start := Nat.sub_pos_of_lt before
        rw [if_pos (decide_eq_true counted), List.take_of_length_le inside, List.count_singleton_self]
      · have beyond : ¬ start + 1 ≤ place := Nat.not_le.mpr (Nat.lt_succ_of_le after)
        rw [if_neg (mt of_decide_eq_true beyond), Nat.sub_eq_zero_of_le after, List.take_zero, List.count_nil]
    · have none : ((String.utf8EncodeChar char).take (place - start)).count Text.newline = 0 :=
        List.count_eq_zero.mpr fun member => Text.newline_not_mem_utf8EncodeChar here (List.mem_of_mem_take member)
      rw [none, Nat.zero_add, if_neg (by simpa using here)]

/-- A place is in the line after as many newlines as stand before it. -/
theorem lineOf_eq (text : String) (place : Nat) :
    (ofText text.toList).lineOf place = Text.newlinesBefore text place + 1 := by
  rw [lineOf_eq_countP (sorted_ofText _), ofText, List.countP_cons_of_pos (by simp), countP_startsFrom,
    Text.newlinesBefore, Text.toBytes_eq, Nat.sub_zero]

/-- Lines are exact. A place is in the line after as many newlines as stand before it, whether newlines are counted
among the bytes or, between characters, among the characters. The lines between two places are those of the first
and the last byte, or that of the place when nothing is between, and come in order. -/
theorem lines_exact (text : String) :
    let index := ofText text.toList
    (∀ place, index.lineOf place = Text.newlinesBefore text place + 1) ∧
      (∀ count, index.lineOf (byteLength (text.toList.take count)) =
        (text.toList.take count).count '\n' + 1) ∧
      ∀ start stop,
        (index.range start stop).start = Text.newlinesBefore text start + 1 ∧
        (index.range start stop).stop =
          Text.newlinesBefore text (if start < stop then stop - 1 else start) + 1 ∧
        (index.range start stop).start ≤ (index.range start stop).stop := by
  refine ⟨lineOf_eq text, fun count => ?_, fun start stop => ?_⟩
  · rw [lineOf_eq, Text.newlinesBefore_take]
  · have last : max (stop - 1) start = if start < stop then stop - 1 else start := by
      split <;> omega
    have order : start ≤ max (stop - 1) start := Nat.le_max_right ..
    simp only [range, lineOf_eq, ← last, true_and]
    exact Nat.succ_le_succ (Text.newlinesBefore_mono text order)

example : (ofText "é\n\n  b\n".toList).range 3 8 = ⟨2, 3⟩ := by decide +kernel

end LineIndex

end Terradoc
