import Terradoc.Function.Format
import Terradoc.Proofs.Bounds.Operations

namespace Terradoc.Guarded

def mostPrecision : Nat := 2 ^ 16 - 1

/-- A number with so many digits after its point. -/
def fixed (precision : Nat) (number : Float) : Guarded String :=
  if precision ≤ mostPrecision then .ok (Number.renderFixed precision number) else .error (.breach .precision)

def shown (verb : Char) (precision : Option Nat) (value : Value) : Guarded String :=
  match verb, value.float? with
  | 'f', some number => fixed (precision.getD 6) number
  | verb, _ => plain (formatValue verb precision value)

/-- Follows a format; the budget bounds the number of its parts. -/
def scan : Nat → List Char → List Value → Guarded (List Char)
  | _, [], _ => .ok []
  | 0, _ :: _, _ => .error (.breach .endless)
  | _ + 1, ['%'], _ => fail .formatEnd
  | budget + 1, '%' :: '%' :: rest, values => (scan budget rest values).map ('%' :: ·)
  | budget + 1, '%' :: '.' :: rest, values =>
    match rest.dropWhile Char.isDigit with
    | [] => fail .incompleteVerb
    | verb :: after => do
      let (value, values) ← plain (nextValue verb values)
      let text ← shown verb (precisionOf (rest.takeWhile Char.isDigit)) value
      (scan budget after values).map (text.toList ++ ·)
  | budget + 1, '%' :: verb :: rest, values => do
    let (value, values) ← plain (nextValue verb values)
    let text ← shown verb none value
    (scan budget rest values).map (text.toList ++ ·)
  | budget + 1, char :: rest, values => (scan budget rest values).map (char :: ·)

def formatText (format : String) (values : List Value) : Guarded String :=
  (scan format.length format.toList values).map String.ofList

def formatted (format : String) (arguments : List Value) : Guarded Value := do
  let values ← slice arguments 1 arguments.length
  (formatText format values).map Value.string

/-- Formats one text for each row, with room for the values of all rows. -/
def formattedRows (valueSize : Nat) (format : String) (arguments : List Value) : Guarded Value := do
  let values ← slice arguments 1 arguments.length
  reserve (rowCount values * valueSize)
  let rows ← (List.range (rowCount values)).mapM fun position =>
    (formatText format (formatRow values position)).map Value.string
  .ok (.list rows)

theorem precisionOf_le {digits : List Char} {precision : Nat} (read : precisionOf digits = some precision) :
    precision ≤ mostPlaces := by
  unfold precisionOf at read
  dsimp only at read
  split at read
  · cases read
  · cases read
    exact Nat.min_le_right _ _

theorem shown_eq {precision : Option Nat} (few : ∀ count, precision = some count → count ≤ mostPlaces)
    (verb : Char) (value : Value) : shown verb precision value = plain (formatValue verb precision value) := by
  unfold shown
  split
  · rename_i number found
    have fits : precision.getD 6 ≤ mostPrecision := by
      cases precision with
      | none => decide
      | some count => exact Nat.le_trans (few count rfl) (by decide)
    rw [fixed, if_pos fits]
    simp [formatValue, found]
  · rfl

/-- One verb takes the next value, and the scan goes on. -/
theorem scan_verb {budget : Nat} {verb : Char} {precision : Option Nat} {after : List Char}
    (few : ∀ count, precision = some count → count ≤ mostPlaces)
    (later : ∀ values, scan budget after values = plain (formatWithin budget after values)) (values : List Value) :
    (do
      let (value, values) ← plain (nextValue verb values)
      let text ← shown verb precision value
      (scan budget after values).map (text.toList ++ ·)) =
      plain (do
        let (value, values) ← nextValue verb values
        let text ← formatValue verb precision value
        (formatWithin budget after values).map (text.toList ++ ·)) := by
  cases values with
  | nil => rfl
  | cons value values =>
    change (shown verb precision value).bind _ = plain ((formatValue verb precision value).bind _)
    rw [shown_eq few, plain_bind]
    congr 1
    funext text
    rw [later, plain_map]

theorem scan_eq {budget : Nat} {format : List Char} (enough : format.length ≤ budget) (values : List Value) :
    scan budget format values = plain (formatWithin budget format values) := by
  fun_induction scan budget format values with
  | case1 budget => cases budget <;> rfl
  | case2 => cases enough
  | case3 => rfl
  | case4 budget rest values ih =>
    rw [List.length_cons, List.length_cons] at enough
    rw [formatWithin, plain_map, ih (by omega)]
  | case5 budget rest values nothing => rw [formatWithin, nothing, plain_error]
  | case6 budget rest values verb after found ih =>
    have shorter := (List.dropWhile_suffix (l := rest) Char.isDigit).length_le
    rw [found] at shorter
    simp only [List.length_cons] at enough shorter
    rw [formatWithin, found]
    exact scan_verb (fun _ => precisionOf_le) (fun values => ih values (by omega)) values
  | case7 budget verb rest values plain dotless ih =>
    simp only [List.length_cons] at enough
    rw [formatWithin]
    · exact scan_verb (fun _ given => by cases given) (fun values => ih values (by omega)) values
    · exact plain
    · exact dotless
  | case8 budget char rest values last doubled pointed verbless ih =>
    rw [List.length_cons] at enough
    rw [formatWithin, plain_map, ih (by omega)]
    all_goals assumption

theorem formatText_eq (format : String) (values : List Value) :
    formatText format values = plain (Terradoc.formatText format values) := by
  rw [formatText, Terradoc.formatText, plain_map, scan_eq (Nat.le_of_eq String.length_toList)]

theorem formatted_eq (format : String) (values : List Value) :
    formatted format (.string format :: values) = plain ((Terradoc.formatText format values).map Value.string) := by
  rw [formatted, slice_to_end (by simp), plain_map]
  exact congrArg (Except.map Value.string) (formatText_eq format values)

theorem mapM_plain {α β : Type} (step : α → Except CallFault β) (items : List α) :
    (items.mapM fun item => plain (step item)) = plain (items.mapM step) := by
  induction items with
  | nil => rfl
  | cons item rest ih =>
    rw [List.mapM_cons, List.mapM_cons, ih]
    cases step item with
    | error cause => rfl
    | ok first => cases rest.mapM step <;> rfl

/-- There are as many rows as the longest list has items. -/
theorem rowCount_le {valueSize : Nat} (small : valueSize ≤ mostMemory) {values : List Value}
    (fits : ∀ items, .list items ∈ values → items.length * valueSize ≤ mostMemory) :
    rowCount values * valueSize ≤ mostMemory := by
  rw [rowCount]
  cases longest : ((values.filterMap Value.list?).map List.length).max? with
  | none => rwa [Option.getD_none, Nat.one_mul]
  | some count =>
    obtain ⟨items, member, rfl⟩ := List.mem_map.mp (List.max?_mem longest)
    obtain ⟨value, member, found⟩ := List.mem_filterMap.mp member
    cases value <;> cases found
    exact fits items member

theorem formattedRows_eq {valueSize : Nat} (small : valueSize ≤ mostMemory) (format : String) {values : List Value}
    (fits : ∀ items, .list items ∈ values → items.length * valueSize ≤ mostMemory) :
    formattedRows valueSize format (.string format :: values) = plain ((formatRows format values).map Value.list) := by
  have room : reserve (rowCount values * valueSize) = .ok () := if_pos (rowCount_le small fits)
  have row (position : Nat) : (formatText format (formatRow values position)).map Value.string =
      plain ((Terradoc.formatText format (formatRow values position)).map Value.string) := by
    rw [formatText_eq, plain_map]
  rw [formattedRows, slice_to_end (by simp), plain_map, formatRows, ← mapM_plain]
  simp only [List.drop_succ_cons, List.drop_zero, ← row]
  change (reserve (rowCount values * valueSize)).bind _ = _
  rw [room]
  rfl

end Terradoc.Guarded
