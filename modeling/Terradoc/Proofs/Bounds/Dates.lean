import Mathlib.Data.List.GetD
import Terradoc.Function.Time
import Terradoc.Proofs.Bounds.Operations

/-! Functions on moments with guarded operations: a pattern is followed by positions in it, and a span is cut at
bytes. Both loops end, since every round passes at least one character. -/

namespace Terradoc

open Calendar

theorem Calendar.Date.month_ofDays (days : Int) :
    1 ≤ (Date.ofDays days).month ∧ (Date.ofDays days).month ≤ 12 := by
  simp only [Date.ofDays]
  have nonneg := Int.emod_nonneg (days + 719468) (show (146097 : Int) ≠ 0 by decide)
  have bounded := Int.emod_lt_of_pos (days + 719468) (show (0 : Int) < 146097 by decide)
  generalize (days + 719468) % 146097 = dayOfEra at nonneg bounded
  omega

namespace Guarded

def monthName (time : Timestamp) : Guarded String := do
  let place ← difference time.localDate.month 1
  item monthNames place

/-- What a letter stands for that a pattern repeats so often at a position. Remainders by constants stop nothing, so
the other letters need no guard. -/
def letterText (time : Timestamp) (chars : List Char) (place : Nat) (letter : Char) (count : Nat) :
    Guarded (List Char) :=
  match letter, count with
  | 'M', 4 => (monthName time).map String.toList
  | 'M', 3 => do
    let name ← monthName time
    cut name.toList 0 3
  | letter, count =>
    match verbText? time letter count with
    | some text => .ok text.toList
    | none => do
      let stop ← sum place count
      let run ← slice chars place stop
      fail (.format (.verb (String.ofList run)))

/-- The text between quotes; none at all stands for a quote. -/
def quotedText (chars : List Char) (start size : Nat) : Guarded (List Char) :=
  if size = 0 then .ok ['\'']
  else do
    let stop ← sum start size
    slice chars start stop

/-- What quotes at a position write, and the position behind them. -/
def quotedPart (chars : List Char) (place : Nat) : Guarded (List Char × Nat) := do
  let start ← sum place 1
  let rest ← slice chars start chars.length
  match rest.findIdx? (· == '\'') with
  | none => fail (.format .unterminatedLiteral)
  | some size => do
    let written ← quotedText chars start size
    let step ← sum size 2
    let next ← sum place step
    .ok (written, next)

/-- A character that stands for itself, and the position behind it. -/
def charPart (char : Char) (place : Nat) : Guarded (List Char × Nat) := do
  let next ← sum place 1
  .ok ([char], next)

/-- What a letter and its repetitions write, and the position behind them. -/
def letterPart (time : Timestamp) (chars : List Char) (place : Nat) (letter : Char) : Guarded (List Char × Nat) := do
  let rest ← slice chars place chars.length
  let count := (rest.takeWhile (· == letter)).length
  let written ← letterText time chars place letter count
  let next ← sum place count
  .ok (written, next)

/-- What the part of a pattern at a position writes, and the position behind it. -/
def patternPart (time : Timestamp) (chars : List Char) (place : Nat) : Guarded (List Char × Nat) := do
  let first ← item chars place
  if first == '\'' then quotedPart chars place
  else if !first.isAlpha then charPart first place
  else letterPart time chars place first

/-- Follows a pattern from a position on; the budget bounds the number of its parts. -/
def patternFrom (time : Timestamp) (chars : List Char) : Nat → Nat → Guarded (List Char)
  | 0, place => if chars.length ≤ place then .ok [] else .error (.breach .endless)
  | budget + 1, place =>
    if chars.length ≤ place then .ok []
    else do
      let (written, next) ← patternPart time chars place
      (patternFrom time chars budget next).map (written ++ ·)

/-- Writes a moment by a pattern. -/
def formatDate (pattern text : String) : Guarded Value := do
  let time ← plain (Functions.readTimestamp text)
  (patternFrom time pattern.toList pattern.length 0).map fun written => .string (String.ofList written)

theorem month_named (time : Timestamp) : time.localDate.month - 1 < monthNames.length := by
  have most : time.localDate.month ≤ 12 := (Date.month_ofDays time.localDays).2
  have names : monthNames.length = 12 := rfl
  omega

theorem monthName_eq (time : Timestamp) :
    monthName time = .ok (monthNames.getD (time.localDate.month - 1) "") := by
  have least : 1 ≤ time.localDate.month := (Date.month_ofDays time.localDays).1
  rw [monthName, difference_of_le least, List.getD_eq_getElem _ _ (month_named time)]
  exact item_of_lt (month_named time)

/-- The first three bytes of every month are three letters. -/
theorem cut_monthName {name : String} (member : name ∈ monthNames) :
    cut name.toList 0 3 = .ok (name.toList.take 3) := by
  have sizes : ∀ name ∈ monthNames, byteSize (name.toList.take 3) = 3 := by decide +kernel
  have piece := cut_front (name.toList.take 3) (name.toList.drop 3)
  rw [List.take_append_drop, sizes name member] at piece
  exact piece

section Parts

variable {time : Timestamp} {before : List Char}

theorem letterText_eq {run after : List Char} {letter : Char} (fits : (before ++ run ++ after).length ≤ mostMemory) :
    letterText time (before ++ run ++ after) before.length letter run.length =
      match verbText? time letter run.length with
      | some text => .ok text.toList
      | none => fail (.format (.verb (String.ofList run))) := by
  have whole : slice (before ++ run ++ after) before.length (before.length + run.length) = .ok run := by
    rw [← List.length_append]
    exact slice_append before run after
  simp only [List.length_append] at fits
  generalize run.length = count at whole fits ⊢
  unfold letterText
  split
  · rw [monthName_eq]
    rfl
  · have named : monthNames.getD (time.localDate.month - 1) "" ∈ monthNames := by
      rw [List.getD_eq_getElem _ _ (month_named time)]
      exact List.getElem_mem _
    rw [monthName_eq]
    change cut _ 0 3 = .ok (String.ofList _).toList
    rw [cut_monthName named, String.toList_ofList]
  · cases verbText? time letter count with
    | some text => rfl
    | none =>
      dsimp only
      rw [sum_of_le (by omega)]
      change (slice _ _ _).bind _ = _
      rw [whole]
      rfl

/-- What one part of a pattern does: it is passed and leaves what follows it, or the pattern cannot be followed. -/
inductive Part (time : Timestamp) (before text : List Char) : Prop where
  | passed (written piece left : List Char) (split : text = piece ++ left) (some : piece ≠ [])
    (guarded : patternPart time (before ++ text) before.length = .ok (written, (before ++ piece).length))
    (followed : ∀ budget,
      Calendar.formatWithin time (budget + 1) text = (Calendar.formatWithin time budget left).map (written ++ ·))
  | failed (cause : FormatFault) (guarded : patternPart time (before ++ text) before.length = fail (.format cause))
    (followed : ∀ budget, Calendar.formatWithin time (budget + 1) text = .error cause)

theorem patternPart_cons (first : Char) (rest : List Char) :
    patternPart time (before ++ first :: rest) before.length =
      if first == '\'' then quotedPart (before ++ first :: rest) before.length
      else if !first.isAlpha then charPart first before.length
      else letterPart time (before ++ first :: rest) before.length first := by
  have here : item (before ++ first :: rest) before.length = .ok first := by
    rw [item_of_lt (by simp)]
    simp
  rw [patternPart, here]
  rfl

theorem Part.of_char {first : Char} {rest : List Char} (fits : (before ++ first :: rest).length ≤ mostMemory)
    (unquoted : (first == '\'') = false) (plain : first.isAlpha = false) : Part time before (first :: rest) := by
  rw [List.length_append, List.length_cons] at fits
  refine .passed [first] [first] rest rfl (List.cons_ne_nil _ _) ?_ fun budget => ?_
  · rw [patternPart_cons, unquoted, plain, List.length_append]
    change charPart first before.length = _
    rw [charPart, sum_of_le (by omega)]
    rfl
  · rw [Calendar.formatWithin, unquoted, plain]
    rfl

theorem letterPart_eq {run left : List Char} {letter : Char} (fits : (before ++ run ++ left).length ≤ mostMemory)
    (whole : (run ++ left).takeWhile (· == letter) = run) :
    letterPart time (before ++ run ++ left) before.length letter =
      match verbText? time letter run.length with
      | some text => .ok (text.toList, (before ++ run).length)
      | none => fail (.format (.verb (String.ofList run))) := by
  have rest : slice (before ++ run ++ left) before.length (before ++ run ++ left).length = .ok (run ++ left) := by
    rw [slice_to_end (by simp), List.append_assoc, List.drop_left]
  rw [letterPart, rest]
  change (letterText _ _ _ _ ((run ++ left).takeWhile _).length).bind _ = _
  rw [whole, letterText_eq fits]
  simp only [List.length_append] at fits
  cases verbText? time letter run.length with
  | none => rfl
  | some text =>
    change (sum before.length run.length).bind _ = _
    rw [sum_of_le (by omega), List.length_append]
    rfl

theorem Part.of_letter {first : Char} {rest : List Char} (fits : (before ++ first :: rest).length ≤ mostMemory)
    (unquoted : (first == '\'') = false) (letter : first.isAlpha = true) : Part time before (first :: rest) := by
  have split : first :: rest.takeWhile (· == first) ++ rest.dropWhile (· == first) = first :: rest := by
    rw [List.cons_append, List.takeWhile_append_dropWhile]
  have run : (first :: rest).takeWhile (· == first) = first :: rest.takeWhile (· == first) :=
    List.takeWhile_cons_of_pos (beq_self_eq_true first)
  have guarded : patternPart time (before ++ first :: rest) before.length =
      letterPart time (before ++ first :: rest) before.length first := by
    rw [patternPart_cons, unquoted, letter]
    rfl
  have followed (budget : Nat) : Calendar.formatWithin time (budget + 1) (first :: rest) =
      match verbText? time first (first :: rest.takeWhile (· == first)).length with
      | some text => (Calendar.formatWithin time budget (rest.dropWhile (· == first))).map (text.toList ++ ·)
      | none => .error (.verb (String.ofList (first :: rest.takeWhile (· == first)))) := by
    rw [Calendar.formatWithin, unquoted, letter]
    dsimp only
    cases verbText? time first (first :: rest.takeWhile (· == first)).length <;> rfl
  have made : letterPart time (before ++ first :: rest) before.length first =
      match verbText? time first (first :: rest.takeWhile (· == first)).length with
      | some text => .ok (text.toList, (before ++ first :: rest.takeWhile (· == first)).length)
      | none => fail (.format (.verb (String.ofList (first :: rest.takeWhile (· == first))))) := by
    rw [← split, ← List.append_assoc] at fits ⊢
    rw [← split] at run
    exact letterPart_eq fits run
  cases shown : verbText? time first (first :: rest.takeWhile (· == first)).length with
  | none =>
    rw [shown] at made followed
    exact .failed _ (guarded.trans made) followed
  | some text =>
    rw [shown] at made followed
    exact .passed text.toList _ _ split.symm (List.cons_ne_nil _ _) (guarded.trans made) followed

theorem quotedText_eq {front literal back : List Char} (fits : (front ++ literal ++ back).length ≤ mostMemory) :
    quotedText (front ++ literal ++ back) front.length literal.length =
      .ok (if literal.isEmpty then ['\''] else literal) := by
  rw [quotedText]
  cases literal with
  | nil => rfl
  | cons char more =>
    have piece := slice_append front (char :: more) back
    rw [List.length_append] at fits piece
    rw [List.length_append] at fits
    have some : (char :: more).length ≠ 0 := Nat.succ_ne_zero _
    rw [if_neg some, sum_of_le (by omega)]
    exact piece

/-- After the quote at a position. -/
theorem quotedPart_eq {rest : List Char} (fits : (before ++ '\'' :: rest).length ≤ mostMemory) :
    quotedPart (before ++ '\'' :: rest) before.length =
      match rest.findIdx? (· == '\'') with
      | none => fail (.format .unterminatedLiteral)
      | some size => (quotedText (before ++ '\'' :: rest) (before.length + 1) size).bind fun written =>
        (sum size 2).bind fun step => (sum before.length step).bind fun next => .ok (written, next) := by
  have behind : slice (before ++ '\'' :: rest) (before.length + 1) (before ++ '\'' :: rest).length = .ok rest := by
    rw [slice_to_end (by simp)]
    simp
  rw [List.length_append, List.length_cons] at fits
  rw [quotedPart, sum_of_le (by omega)]
  change (slice _ (before.length + 1) _).bind _ = _
  rw [behind]
  rfl

theorem Part.of_quote {rest : List Char} (fits : (before ++ '\'' :: rest).length ≤ mostMemory) :
    Part time before ('\'' :: rest) := by
  have guarded : patternPart time (before ++ '\'' :: rest) before.length =
      quotedPart (before ++ '\'' :: rest) before.length := patternPart_cons '\'' rest
  rw [quotedPart_eq fits] at guarded
  by_cases closed : '\'' ∈ rest
  · obtain ⟨literal, left, rfl, outside⟩ := List.eq_append_cons_of_mem closed
    have unlike := unlike_of_not_mem outside
    have found : (literal ++ '\'' :: left).findIdx? (· == '\'') = some literal.length := by
      rw [List.findIdx?_append, List.findIdx?_eq_none_iff.mpr unlike]
      simp [List.findIdx?_cons]
    have split : before ++ '\'' :: (literal ++ '\'' :: left) =
        (before ++ ['\'']) ++ literal ++ ('\'' :: left) := by simp
    have front : before.length + 1 = (before ++ ['\'']).length := by simp
    rw [split] at fits
    have written : quotedText (before ++ '\'' :: (literal ++ '\'' :: left)) (before.length + 1) literal.length =
        .ok (if literal.isEmpty then ['\''] else literal) := by
      rw [split, front]
      exact quotedText_eq fits
    simp only [List.length_append, List.length_cons, List.length_nil] at fits
    rw [found] at guarded
    dsimp only at guarded
    rw [written] at guarded
    change _ = (sum literal.length 2).bind _ at guarded
    rw [sum_of_le (by omega)] at guarded
    change _ = (sum before.length (literal.length + 2)).bind _ at guarded
    rw [sum_of_le (by omega)] at guarded
    have behind : before.length + (literal.length + 2) = (before ++ '\'' :: (literal ++ ['\''])).length := by
      simp only [List.length_append, List.length_cons, List.length_nil]
    rw [behind] at guarded
    refine .passed (if literal.isEmpty then ['\''] else literal) ('\'' :: (literal ++ ['\''])) left (by simp)
      (List.cons_ne_nil _ _) guarded fun budget => ?_
    rw [Calendar.formatWithin, dropWhile_before unlike, takeWhile_before unlike]
    rfl
  · have unlike := unlike_of_not_mem closed
    rw [List.findIdx?_eq_none_iff.mpr unlike] at guarded
    refine .failed .unterminatedLiteral guarded fun budget => ?_
    rw [Calendar.formatWithin, dropWhile_unlike unlike]
    rfl

theorem Part.of_cons {first : Char} {rest : List Char} (fits : (before ++ first :: rest).length ≤ mostMemory) :
    Part time before (first :: rest) := by
  cases quote : first == '\'' with
  | true =>
    obtain rfl := beq_iff_eq.mp quote
    exact .of_quote fits
  | false =>
    cases letter : first.isAlpha with
    | true => exact .of_letter fits quote letter
    | false => exact .of_char fits quote letter

end Parts

/-- A pattern is followed from a position on as what stands there is. -/
theorem patternFrom_eq {time : Timestamp} {before text : List Char} (fits : (before ++ text).length ≤ mostMemory)
    {budget : Nat} (enough : text.length ≤ budget) :
    patternFrom time (before ++ text) budget before.length =
      plain ((Calendar.formatWithin time budget text).mapError .format) := by
  induction budget generalizing before text with
  | zero =>
    obtain rfl := List.length_eq_zero_iff.mp (Nat.le_zero.mp enough)
    rw [patternFrom, if_pos (by simp)]
    rfl
  | succ budget ih =>
    rw [patternFrom]
    cases text with
    | nil =>
      rw [if_pos (by simp)]
      rfl
    | cons first rest =>
      rw [if_neg (by simp)]
      have part : Part time before (first :: rest) := .of_cons fits
      cases part with
      | failed cause guarded followed =>
        rw [guarded, followed]
        rfl
      | passed written piece left split some guarded followed =>
        have progress := congrArg List.length split
        have nonempty := List.length_pos_iff.mpr some
        rw [List.length_append] at progress
        rw [guarded, followed]
        change (patternFrom time _ budget (before ++ piece).length).map _ = _
        rw [split, ← List.append_assoc] at fits ⊢
        rw [ih fits (by omega)]
        cases Calendar.formatWithin time budget left <;> rfl

theorem formatDate_eq {pattern : String} (text : String) (fits : pattern.length ≤ mostMemory) :
    formatDate pattern text = plain (Functions.formatDate pattern text) := by
  rw [formatDate, Functions.formatDate]
  cases Functions.readTimestamp text with
  | error cause => rfl
  | ok time =>
    have fits' : ([] ++ pattern.toList).length ≤ mostMemory := by rwa [List.nil_append, String.length_toList]
    have followed : patternFrom time pattern.toList pattern.length 0 =
        plain ((Calendar.formatWithin time pattern.length pattern.toList).mapError .format) :=
      patternFrom_eq fits' (Nat.le_of_eq String.length_toList)
    dsimp only [bind, Except.bind, plain_ok]
    rw [followed, Timestamp.format]
    cases Calendar.formatWithin time pattern.length pattern.toList <;> rfl

/-- Reads a number and the unit after it. -/
def spanPart (span : String) (text : List Char) : Guarded (Float × List Char) :=
  match firstByte? (!isAmount ·) text with
  | none => fail (.badSpan span)
  | some size => do
    let digits ← cut text 0 size
    match Number.parseFloat? (String.ofList digits) with
    | none => fail (.badSpan span)
    | some amount => do
      let rest ← cut text size (byteSize text)
      let stop := (firstByte? isAmount rest).getD (byteSize rest)
      let unit ← cut rest 0 stop
      match unitSize? (String.ofList unit) with
      | none => fail (.badSpan span)
      | some scale => do
        let left ← cut rest stop (byteSize rest)
        .ok (amount * scale, left)

/-- Adds up amounts with units; the budget bounds their number. -/
def spanFrom (span : String) : Nat → Float → List Char → Guarded Float
  | _, total, [] => .ok total
  | 0, _, _ :: _ => .error (.breach .endless)
  | budget + 1, total, char :: rest => do
    let (amount, left) ← spanPart span (char :: rest)
    spanFrom span budget (total + amount) left

/-- Whether a minus sign starts a text, and what follows its sign. -/
def signOf : List Char → Bool × List Char
  | '-' :: rest => (true, rest)
  | '+' :: rest => (false, rest)
  | rest => (false, rest)

/-- Reads a span in nanoseconds. -/
def spanOf (span : String) : Guarded Int := do
  let (negative, rest) := signOf span.toList
  if rest.isEmpty then fail (.badSpan span)
  else
    let total ← spanFrom span rest.length 0.0 rest
    .ok (Number.truncated (if negative then -total else total))

def addTime (text span : String) : Guarded Value := do
  let time ← plain (Functions.readTimestamp text)
  let nanoseconds ← spanOf span
  .ok (.string (time.add nanoseconds).render)

/-- A text is cut where the characters end that fail a test. -/
theorem cut_span (test : Char → Bool) (text : List Char) :
    cut text 0 (byteSize (text.takeWhile test)) = .ok (text.takeWhile test) ∧
      cut text (byteSize (text.takeWhile test)) (byteSize text) = .ok (text.dropWhile test) := by
  have front := cut_front (text.takeWhile test) (text.dropWhile test)
  have back := cut_back (text.takeWhile test) (text.dropWhile test)
  rw [List.takeWhile_append_dropWhile] at front back
  exact ⟨front, back⟩

/-- One amount is read with its unit, and something is passed. -/
theorem spanFrom_cons (span : String) {budget : Nat} {total : Float} {char : Char} {rest : List Char} :
    (∃ amount left, spanPart span (char :: rest) = .ok (amount, left) ∧ left.length < (char :: rest).length ∧
      sumWithin (budget + 1) total (char :: rest) = sumWithin budget (total + amount) left) ∨
    spanPart span (char :: rest) = fail (.badSpan span) ∧ sumWithin (budget + 1) total (char :: rest) = none := by
  generalize shape : char :: rest = text
  have step : sumWithin (budget + 1) total text = (do
      let left := text.dropWhile isAmount
      if left.isEmpty then none
      else
        let amount ← Number.parseFloat? (String.ofList (text.takeWhile isAmount))
        let size ← unitSize? (String.ofList (left.takeWhile (!isAmount ·)))
        sumWithin budget (total + amount * size) (left.dropWhile (!isAmount ·))) := by
    rw [← shape]
    rfl
  rw [step, spanPart, firstByte?_eq]
  simp only [Bool.not_not]
  cases unread : text.dropWhile isAmount with
  | nil => exact .inr ⟨rfl, rfl⟩
  | cons first more =>
    obtain ⟨digits, after⟩ := cut_span isAmount text
    obtain ⟨unit, behind⟩ := cut_span (!isAmount ·) (first :: more)
    rw [if_neg (List.cons_ne_nil _ _)]
    dsimp only
    rw [digits]
    dsimp only [bind, Except.bind]
    cases Number.parseFloat? (String.ofList (text.takeWhile isAmount)) with
    | none => exact .inr ⟨rfl, rfl⟩
    | some amount =>
      dsimp only
      rw [after, unread]
      dsimp only
      rw [firstByte?_getD, unit]
      dsimp only
      cases unitSize? (String.ofList ((first :: more).takeWhile (!isAmount ·))) with
      | none => exact .inr ⟨rfl, rfl⟩
      | some scale =>
        dsimp only
        rw [behind]
        refine .inl ⟨amount * scale, _, rfl, ?_, rfl⟩
        -- The unit holds at least the character that ends the number.
        have other : isAmount first = false := by
          have head := List.head?_dropWhile_not isAmount text
          rw [unread] at head
          simpa using head
        have unit := (List.dropWhile_suffix (l := more) (!isAmount ·)).length_le
        have number := (List.dropWhile_suffix (l := text) isAmount).length_le
        rw [unread, List.length_cons] at number
        rw [List.dropWhile_cons_of_pos (by rw [other]; rfl)]
        omega

theorem spanFrom_eq (span : String) {budget : Nat} {total : Float} {text : List Char}
    (enough : text.length ≤ budget) :
    spanFrom span budget total text =
      match sumWithin budget total text with
      | some sum => .ok sum
      | none => fail (.badSpan span) := by
  induction budget generalizing total text with
  | zero =>
    obtain rfl := List.length_eq_zero_iff.mp (Nat.le_zero.mp enough)
    rfl
  | succ budget ih =>
    cases text with
    | nil => rfl
    | cons char rest =>
      rw [spanFrom]
      obtain ⟨amount, left, guarded, shorter, summed⟩ | ⟨guarded, summed⟩ := spanFrom_cons span
      · rw [guarded, summed]
        exact ih (by omega)
      · rw [guarded, summed]
        rfl

theorem spanOf_eq (span : String) :
    spanOf span = match parseSpan? span with
      | some nanoseconds => .ok nanoseconds
      | none => fail (.badSpan span) := by
  have parsed : parseSpan? span =
      if (signOf span.toList).2.isEmpty then none
      else (sumWithin (signOf span.toList).2.length 0.0 (signOf span.toList).2).bind fun total =>
        some (Number.truncated (if (signOf span.toList).1 then -total else total)) := rfl
  rw [spanOf, parsed]
  generalize signOf span.toList = signed
  obtain ⟨negative, rest⟩ := signed
  dsimp only
  split
  · rfl
  · rw [spanFrom_eq span (Nat.le_refl _)]
    cases sumWithin rest.length 0.0 rest <;> rfl

theorem addTime_eq (text span : String) : addTime text span = plain (Functions.addTime text span) := by
  rw [addTime, Functions.addTime, spanOf_eq]
  cases Functions.readTimestamp text with
  | error cause => rfl
  | ok time =>
    dsimp only [bind, Except.bind, plain_ok]
    cases parseSpan? span <;> rfl

end Guarded

end Terradoc
