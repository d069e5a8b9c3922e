import Terradoc.Function.FileAccess
import Terradoc.Proofs.Bounds.Operations

namespace Terradoc.Guarded

def fromStart (offset size : Int) : Guarded Int := if offset < 0 then signedSum offset size else .ok offset

def substring (text : List Char) (offset length : Int) : Guarded (List Char) := do
  let size := asSigned text.length
  let offset ← fromStart offset size
  if offset < 0 || size < offset then fail .offsetOutOfRange
  else slice text (asUnsigned offset) (asUnsigned (if length < 0 then size else min (boundedSum offset length) size))

theorem fromStart_eq {offset : Int} {size : Nat} (fits : size ≤ mostMemory) (lower : Number.minWord ≤ offset) :
    fromStart offset size = .ok (if offset < 0 then offset + size else offset) := by
  obtain ⟨least, most⟩ := word_range
  unfold fromStart
  split
  · exact if_pos (by omega)
  · rfl

/-- Inside a text, a sum that stays at the ends of the word stops where the sum does. -/
theorem min_boundedSum {start length : Int} {size : Nat} (fits : size ≤ mostMemory) (here : 0 ≤ start)
    (forward : 0 ≤ length) : min (boundedSum start length) size = min (start + length) size := by
  obtain ⟨least, most⟩ := word_range
  rw [boundedSum, Number.clampWord]
  omega

theorem substring_eq {text : List Char} {offset length : Int} (fits : text.length ≤ mostMemory)
    (lower : Number.minWord ≤ offset) :
    substring text offset length = plain (Functions.substring text offset length) := by
  have most := word_range.2
  unfold substring Functions.substring
  dsimp only
  rw [asSigned_of_le fits, fromStart_eq fits lower]
  generalize (if offset < 0 then offset + text.length else offset) = start
  change (if _ then _ else _) = plain (if _ then _ else _)
  split
  · rfl
  · rename_i inside
    simp only [Bool.or_eq_true, decide_eq_true_eq, not_or, not_lt] at inside
    obtain ⟨nonneg, within⟩ := inside
    have first : asUnsigned start = start.toNat := asUnsigned_of_nonneg nonneg (by omega)
    rw [first, plain_ok]
    split
    · rw [asUnsigned_of_nonneg (Int.natCast_nonneg _) (by omega), Int.toNat_natCast, slice_to_end (by omega)]
    · rename_i forward
      rw [min_boundedSum fits nonneg (not_lt.mp forward), asUnsigned_of_nonneg (by omega) (by omega),
        slice_of_le (by omega) (by omega), List.drop_take]
      congr 1
      -- A piece that asks for more than is left ends with the text.
      by_cases left : start + length ≤ text.length
      · rw [min_eq_left left]
        congr 1
        omega
      · have short : (text.drop start.toNat).length ≤ length.toNat := by rw [List.length_drop]; omega
        rw [min_eq_right (by omega), Int.toNat_natCast, List.take_of_length_le short,
          List.take_of_length_le (by rw [List.length_drop])]

/-- Replaces a text, or what a pattern between slashes matches. -/
def replaceText (text wanted image : String) : Guarded Value :=
  if 1 < byteSize wanted.toList ∧ wanted.toList.head? = some '/' ∧ wanted.toList.getLast? = some '/' then do
    let stop ← difference (byteSize wanted.toList) 1
    let pattern ← cut wanted.toList 1 stop
    match Regex.parse? (String.ofList pattern) with
    | some regex => .ok (.string (regex.replaceAll text image))
    | none => fail .badPattern
  else plain (Functions.ofChars (Text.replace wanted.toList image.toList text.toList))

/-- A text stands between slashes where it has more than one byte and a slash at both of its ends. -/
theorem slashed?_eq_some_iff {text pattern : List Char} :
    Functions.slashed? text = some pattern ↔ text = '/' :: pattern ++ ['/'] := by
  unfold Functions.slashed?
  split
  · rename_i rest
    rw [List.cons_append, List.cons_inj_right]
    constructor
    · intro found
      split at found
      · rename_i slash
        cases found
        exact (List.dropLast_append_getLast? '/' (beq_iff_eq.mp slash)).symm
      · cases found
    · rintro rfl
      simp
  · rename_i differs
    refine ⟨nofun, ?_⟩
    rintro rfl
    exact (differs _ rfl).elim

theorem slashed?_isSome_iff {text : List Char} :
    (Functions.slashed? text).isSome = true ↔
      1 < byteSize text ∧ text.head? = some '/' ∧ text.getLast? = some '/' := by
  rw [Option.isSome_iff_exists]
  simp only [slashed?_eq_some_iff]
  have slash : '/'.utf8Size = 1 := rfl
  constructor
  · rintro ⟨pattern, rfl⟩
    refine ⟨?_, rfl, List.getLast?_append_of_ne_nil _ (List.cons_ne_nil _ _)⟩
    rw [byteSize_append, byteSize_cons, byteSize_cons, slash]
    omega
  · rintro ⟨size, first, last⟩
    cases text with
    | nil => cases first
    | cons char rest =>
      cases first
      cases rest with
      | nil => exact absurd size (by decide)
      | cons next rest =>
        rw [List.getLast?_cons_cons] at last
        exact ⟨_, congrArg ('/' :: ·) (List.dropLast_append_getLast? '/' last).symm⟩

theorem replaceText_eq (text wanted image : String) :
    replaceText text wanted image = plain (Functions.replaceText text wanted image) := by
  rw [replaceText, Functions.replaceText]
  by_cases slashes : (Functions.slashed? wanted.toList).isSome = true
  · rw [if_pos (slashed?_isSome_iff.mp slashes)]
    obtain ⟨pattern, found⟩ := Option.isSome_iff_exists.mp slashes
    rw [found, slashed?_eq_some_iff.mp found]
    have slash : byteSize ['/'] = 1 := rfl
    have size : byteSize ('/' :: pattern ++ ['/']) - 1 = byteSize (['/'] ++ pattern) := by
      rw [byteSize_append, slash]
      rfl
    have piece : cut ('/' :: pattern ++ ['/']) 1 (byteSize ('/' :: pattern ++ ['/']) - 1) = .ok pattern := by
      rw [size]
      exact cut_append ['/'] pattern ['/']
    rw [difference_of_le (by rw [byteSize_append, slash]; omega)]
    change (cut _ 1 _).bind _ = _
    rw [piece]
    dsimp only [Except.bind]
    cases Regex.parse? (String.ofList pattern) <;> rfl
  · rw [if_neg (slashes ∘ slashed?_isSome_iff.mpr)]
    rw [Bool.not_eq_true, Option.isSome_eq_false_iff, Option.isNone_iff_eq_none] at slashes
    rw [slashes]

/-- Puts blanks after every newline. -/
def indented (spaces : Int) (text : String) : Guarded Value :=
  if Functions.mostSpaces < spaces then fail (.indentTooWide spaces)
  else do
    let blanks ← repeated ' ' (asUnsigned (max spaces 0))
    plain (Functions.ofChars (Text.replace ['\n'] ('\n' :: blanks) text.toList))

theorem indented_eq (spaces : Int) (text : String) : indented spaces text = plain (Functions.indented spaces text) := by
  rw [indented, Functions.indented]
  split
  · rfl
  · rename_i narrow
    have memory : Functions.mostSpaces ≤ mostMemory := by decide
    have most := word_range.2
    have count : asUnsigned (max spaces 0) = spaces.toNat := by
      rw [asUnsigned_of_nonneg (le_max_right _ _) (by omega)]
      omega
    have blank : ' '.utf8Size = 1 := rfl
    have room : reserve (spaces.toNat * ' '.utf8Size) = .ok () := if_pos (by rw [blank]; omega)
    rw [count, repeated, room]
    rfl

def joined (separator : String) (arguments : List Value) : Guarded Value := do
  let lists ← slice arguments 1 arguments.length
  let pieces ← plain ((lists.filterMap Value.list?).flatten.mapM textArgument)
  plain (Functions.ofChars (Text.join separator.toList (pieces.map String.toList)))

theorem joined_eq (separator : String) (lists : List (List Value)) :
    joined separator (.string separator :: lists.map .list) = plain (Functions.joined separator lists) := by
  have items : (lists.map Value.list).filterMap Value.list? = lists := by
    rw [List.filterMap_map]
    exact List.filterMap_some
  rw [joined, slice_to_end (by simp), Functions.joined]
  change (plain (((lists.map Value.list).filterMap Value.list?).flatten.mapM textArgument)).bind _ = _
  rw [items]
  exact (plain_bind _ _).symm

/-- What stands before the last slash. -/
def directoryName (path : List Char) : Guarded (List Char) :=
  match lastByte? (· == '/') path with
  | some 0 => .ok ['/']
  | some place => cut path 0 place
  | none => .ok ['.']

/-- What stands after the last slash; slashes at the end do not count. -/
def baseName (path : List Char) : Guarded (List Char) :=
  let path := (path.reverse.dropWhile (· == '/')).reverse
  match lastByte? (· == '/') path with
  | some place => do
    let start ← sum place 1
    cut path start (byteSize path)
  | none => .ok (if path.isEmpty then ['/'] else path)

/-- A text has no slash, or a last one. -/
theorem lastSlash (path : List Char) :
    (∀ char ∈ path, (char == '/') = false) ∨
      ∃ front back, path = front ++ '/' :: back ∧ ∀ char ∈ back, (char == '/') = false := by
  by_cases slash : '/' ∈ path.reverse
  · obtain ⟨back, front, split, outside⟩ := List.eq_append_cons_of_mem slash
    refine .inr ⟨front.reverse, back.reverse, ?_, fun char member => ?_⟩
    · rw [← List.reverse_reverse path, split]
      simp
    · exact unlike_of_not_mem outside char (List.mem_reverse.mp member)
  · exact .inl fun char member => unlike_of_not_mem slash char (List.mem_reverse.mpr member)

section LastSlash

variable {front back : List Char}

theorem dropWhile_reverse (unlike : ∀ char ∈ back, (char == '/') = false) :
    (front ++ '/' :: back).reverse.dropWhile (· != '/') = '/' :: front.reverse := by
  rw [List.reverse_append, List.reverse_cons, List.append_assoc, List.singleton_append]
  exact dropWhile_before fun char member => unlike char (List.mem_reverse.mp member)

theorem takeWhile_reverse (unlike : ∀ char ∈ back, (char == '/') = false) :
    (front ++ '/' :: back).reverse.takeWhile (· != '/') = back.reverse := by
  rw [List.reverse_append, List.reverse_cons, List.append_assoc, List.singleton_append]
  exact takeWhile_before fun char member => unlike char (List.mem_reverse.mp member)

end LastSlash

theorem directoryName_eq (path : List Char) : directoryName path = .ok (Functions.directoryName path) := by
  rw [directoryName, Functions.directoryName]
  obtain outside | ⟨front, back, rfl, outside⟩ := lastSlash path
  · have nothing : path.reverse.dropWhile (· != '/') = [] :=
      dropWhile_unlike fun char member => outside char (List.mem_reverse.mp member)
    rw [lastByte?_eq_none outside, nothing]
  · rw [lastByte?_append (by rfl) outside, dropWhile_reverse outside]
    cases front with
    | nil => rfl
    | cons char rest =>
      obtain ⟨more, size⟩ := Nat.exists_eq_add_of_lt (Nat.add_pos_left char.utf8Size_pos (byteSize rest))
      have piece := cut_front (char :: rest) ('/' :: back)
      rw [byteSize_cons, size, Nat.zero_add] at piece ⊢
      rw [List.reverse_cons]
      cases found : rest.reverse ++ [char] with
      | nil => simp at found
      | cons last others =>
        refine piece.trans (congrArg Except.ok ?_)
        rw [← found]
        simp

/-- A text without the characters at its end that pass a test is no longer than it was. -/
theorem byteSize_trimmed_le (test : Char → Bool) (text : List Char) :
    byteSize (text.reverse.dropWhile test).reverse ≤ byteSize text := by
  have whole : (text.reverse.dropWhile test).reverse ++ (text.reverse.takeWhile test).reverse = text := by
    rw [← List.reverse_append, List.takeWhile_append_dropWhile, List.reverse_reverse]
  have size := congrArg byteSize whole
  rw [byteSize_append] at size
  omega

theorem baseName_eq {path : List Char} (fits : byteSize path ≤ mostMemory) :
    baseName path = .ok (Functions.baseName path) := by
  have size := byteSize_trimmed_le (· == '/') path
  unfold baseName Functions.baseName
  cases kept : path.reverse.dropWhile (· == '/') with
  | nil => rfl
  | cons last others =>
    rw [kept] at size
    have some : (last :: others).reverse.isEmpty = false := by simp
    dsimp only
    generalize last :: others = reversed at size some ⊢
    obtain outside | ⟨front, back, split, outside⟩ := lastSlash reversed.reverse
    · have whole : reversed.takeWhile (· != '/') = reversed :=
        takeWhile_unlike fun char member => outside char (List.mem_reverse.mpr member)
      rw [lastByte?_eq_none outside, whole, some]
      rfl
    · obtain rfl : reversed = (front ++ '/' :: back).reverse := by rw [← split, List.reverse_reverse]
      have slash : byteSize ['/'] = 1 := rfl
      have behind : byteSize front + 1 = byteSize (front ++ ['/']) := by rw [byteSize_append, slash]
      have piece := cut_back (front ++ ['/']) back
      rw [List.append_assoc, List.singleton_append] at piece
      rw [split, List.append_cons, byteSize_append, ← behind] at size
      rw [split, lastByte?_append (by rfl) outside, takeWhile_reverse outside, List.reverse_reverse]
      dsimp only
      rw [sum_of_le (by omega), behind]
      exact piece

end Terradoc.Guarded
