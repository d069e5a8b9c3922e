namespace Terradoc.Text

/-- What follows a text that stands at the start of another. -/
def after? : List Char → List Char → Option (List Char)
  | [], text => some text
  | _ :: _, [] => none
  | expected :: more, char :: rest => if expected == char then after? more rest else none

/-- The parts before and after the first place where a text occurs. -/
def breakAt? (piece : List Char) : List Char → Option (List Char × List Char)
  | [] => (after? piece []).map fun rest => ([], rest)
  | char :: rest =>
    match after? piece (char :: rest) with
    | some rest => some ([], rest)
    | none => (breakAt? piece rest).map fun (before, rest) => (char :: before, rest)

theorem after?_eq_some {piece text rest : List Char} :
    after? piece text = some rest ↔ text = piece ++ rest := by
  induction piece generalizing text with
  | nil => simp [after?, eq_comm]
  | cons expected more ih =>
    cases text with
    | nil => simp [after?]
    | cons char tail =>
      by_cases equal : expected = char
      · subst equal; simp [after?, ih]
      · have differ : (expected == char) = false := by simpa using equal
        simp only [after?, differ]
        simp [Ne.symm equal]

theorem breakAt?_eq_append {piece text before rest : List Char}
    (found : breakAt? piece text = some (before, rest)) : text = before ++ piece ++ rest := by
  induction text generalizing before with
  | nil =>
    simp only [breakAt?, Option.map_eq_some_iff, Prod.mk.injEq] at found
    obtain ⟨tail, same, rfl, rfl⟩ := found
    simpa using after?_eq_some.1 same
  | cons char tail ih =>
    simp only [breakAt?] at found
    split at found
    · rename_i here same
      cases found
      simpa using after?_eq_some.1 same
    · simp only [Option.map_eq_some_iff, Prod.mk.injEq, Prod.exists] at found
      obtain ⟨front, back, same, rfl, rfl⟩ := found
      simp [ih same]

theorem breakAt?_single_cons (separator char : Char) (rest : List Char) :
    breakAt? [separator] (char :: rest) =
      if separator = char then some ([], rest)
      else (breakAt? [separator] rest).map fun (before, rest) => (char :: before, rest) := by
  by_cases same : separator = char <;> simp [breakAt?, after?, same]

theorem breakAt?_single_eq_none {separator : Char} {text : List Char} :
    breakAt? [separator] text = none ↔ separator ∉ text := by
  induction text with
  | nil => simp [breakAt?, after?]
  | cons char rest ih =>
    rw [breakAt?_single_cons]
    by_cases same : separator = char
    · simp [same]
    · simp [same, ih]

theorem breakAt?_single_append {separator : Char} {before : List Char} (outside : separator ∉ before)
    (rest : List Char) :
    breakAt? [separator] (before ++ separator :: rest) = some (before, rest) := by
  induction before with
  | nil => simp [breakAt?_single_cons]
  | cons char more ih =>
    rw [List.mem_cons, not_or] at outside
    rw [List.cons_append, breakAt?_single_cons, if_neg outside.1, ih outside.2]
    rfl

theorem not_mem_of_breakAt?_single {separator : Char} {text before rest : List Char}
    (found : breakAt? [separator] text = some (before, rest)) : separator ∉ before := by
  induction text generalizing before with
  | nil => simp [breakAt?, after?] at found
  | cons char tail ih =>
    rw [breakAt?_single_cons] at found
    split at found
    · cases found
      exact List.not_mem_nil
    · rename_i differ
      obtain ⟨⟨front, back⟩, inner, same⟩ := Option.map_eq_some_iff.mp found
      cases same
      exact List.not_mem_cons_of_ne_of_not_mem differ (ih inner)

/-- The pieces of a text between the places where a separator of at least one character occurs. -/
def splitAt (first : Char) (more : List Char) (text : List Char) : List (List Char) :=
  match _found : breakAt? (first :: more) text with
  | none => [text]
  | some (before, rest) => before :: splitAt first more rest
termination_by text.length
decreasing_by
  have whole := breakAt?_eq_append _found
  have size := congrArg List.length whole
  simp at size
  omega

/-- The pieces of a text between separators. An empty separator stands around every character. -/
def split (separator text : List Char) : List (List Char) :=
  match separator with
  | first :: more => splitAt first more text
  | [] => [] :: text.map (fun char => [char]) ++ [[]]

def join (separator : List Char) (pieces : List (List Char)) : List Char :=
  separator.intercalate pieces

theorem splitAt_eq_single {separator : Char} {text : List Char} (outside : separator ∉ text) :
    splitAt separator [] text = [text] := by
  rw [splitAt]
  split
  · rfl
  · rename_i found
    rw [breakAt?_single_eq_none.mpr outside] at found
    cases found

theorem splitAt_append_cons {separator : Char} {before : List Char} (outside : separator ∉ before)
    (rest : List Char) :
    splitAt separator [] (before ++ separator :: rest) = before :: splitAt separator [] rest := by
  have broken := breakAt?_single_append outside rest
  rw [splitAt]
  split
  · rename_i found
    rw [broken] at found
    cases found
  · rename_i found
    rw [broken] at found
    cases found
    rfl

theorem splitAt_append {separator : Char} (text rest : List Char) :
    splitAt separator [] (text ++ separator :: rest) =
      splitAt separator [] text ++ splitAt separator [] rest := by
  fun_induction splitAt separator [] text with
  | case1 text whole =>
    rw [splitAt_append_cons (breakAt?_single_eq_none.mp whole), List.singleton_append]
  | case2 text before after broken ih =>
    have whole := breakAt?_eq_append broken
    rw [List.append_assoc, List.singleton_append] at whole
    rw [whole, List.append_assoc, List.cons_append,
      splitAt_append_cons (not_mem_of_breakAt?_single broken), ih, List.cons_append]

theorem splitAt_join {separator : Char} {pieces : List (List Char)} (nonempty : pieces ≠ [])
    (outside : ∀ piece ∈ pieces, separator ∉ piece) :
    splitAt separator [] (join [separator] pieces) = pieces := by
  induction pieces with
  | nil => exact absurd rfl nonempty
  | cons piece rest ih =>
    have here := outside piece List.mem_cons_self
    cases rest with
    | nil => simpa [join] using splitAt_eq_single here
    | cons next more =>
      have joined : join [separator] (piece :: next :: more) =
          piece ++ separator :: join [separator] (next :: more) := by simp [join]
      rw [joined, splitAt_append_cons here,
        ih (List.cons_ne_nil next more) fun other member => outside other (List.mem_cons_of_mem _ member)]

theorem not_mem_of_mem_splitAt {separator : Char} {text piece : List Char}
    (member : piece ∈ splitAt separator [] text) : separator ∉ piece := by
  fun_induction splitAt separator [] text with
  | case1 text whole =>
    obtain rfl := List.mem_singleton.mp member
    exact breakAt?_single_eq_none.mp whole
  | case2 text before rest broken ih =>
    rcases List.mem_cons.mp member with rfl | later
    · exact not_mem_of_breakAt?_single broken
    · exact ih later

/-- Puts another text in every place where a piece occurs. -/
def replace (piece image text : List Char) : List Char := join image (split piece text)

def occursIn (piece text : List Char) : Bool := (breakAt? piece text).isSome

/-- What stands before a text that ends another. -/
def before? (piece text : List Char) : Option (List Char) :=
  (after? piece.reverse text.reverse).map List.reverse

/-- A text without the characters of a set at its ends. -/
def trimOf (set : List Char) (text : List Char) : List Char :=
  ((text.dropWhile set.contains).reverse.dropWhile set.contains).reverse

def splitChar (separator : Char) (text : String) : List String :=
  (splitAt separator [] text.toList).map String.ofList

/-- The parts around the first place where a piece occurs. -/
def splitOnce? (piece text : String) : Option (String × String) :=
  (breakAt? piece.toList text.toList).map fun (before, rest) =>
    (String.ofList before, String.ofList rest)

/-- Texts with a separator between them. -/
def joinWith (separator : String) (pieces : List String) : String :=
  String.ofList (join separator.toList (pieces.map String.toList))

theorem splitChar_eq_single {separator : Char} {text : String} (outside : separator ∉ text.toList) :
    splitChar separator text = [text] := by
  rw [splitChar, splitAt_eq_single outside, List.map_singleton, String.ofList_toList]

theorem splitChar_joinWith {pieces : List String} (nonempty : pieces ≠ [])
    (single : ∀ piece ∈ pieces, '/' ∉ piece.toList) : splitChar '/' (joinWith "/" pieces) = pieces := by
  have outside : ∀ piece ∈ pieces.map String.toList, '/' ∉ piece := by
    intro piece member
    obtain ⟨text, present, rfl⟩ := List.mem_map.mp member
    exact single text present
  have split : splitAt '/' [] (joinWith "/" pieces).toList = pieces.map String.toList := by
    rw [joinWith, String.toList_ofList]
    exact splitAt_join (by simpa using nonempty) outside
  rw [splitChar, split]
  simp [Function.comp_def]

end Terradoc.Text
