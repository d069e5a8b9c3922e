import Mathlib.Data.List.Forall2
import Terradoc.Proofs.Function.Texts

/-! Formats. A format of texts with verbs between them gives the texts with values between them: percent signs that
are doubled stand for themselves wherever they are, and every verb takes the next value. -/

namespace Terradoc

/-- A text as it stands in a format: with every percent sign doubled. -/
def escaped (text : List Char) : List Char :=
  text.flatMap fun char => if char = '%' then ['%', '%'] else [char]

def afterFirst (rest : List String) : List Char := rest.flatMap fun text => '%' :: 's' :: escaped text.toList

/-- The format that shows a text and, for every other text, a value before it. -/
def formatOf (first : String) (rest : List String) : String :=
  String.ofList (escaped first.toList ++ afterFirst rest)

/-- Values that a template shows as they are. -/
inductive Value.Scalar : Value → Prop where
  | string (text : String) : Scalar (.string text)
  | number (number : Number) : Scalar (.number number)
  | bool (truth : Bool) : Scalar (.bool truth)

theorem Value.Scalar.known {value : Value} (scalar : value.Scalar) : value.unknowns = [] := by
  cases scalar <;> rfl

theorem Value.Scalar.exists_text {value : Value} (scalar : value.Scalar) : ∃ text, value.toText = .ok text := by
  cases scalar <;> exact ⟨_, rfl⟩

section Steps

variable {budget : Nat} {rest : List Char} {values : List Value}

theorem formatWithin_percent :
    formatWithin (budget + 1) ('%' :: '%' :: rest) values = (formatWithin budget rest values).map ('%' :: ·) := rfl

theorem formatWithin_char {char : Char} (plain : char ≠ '%') :
    formatWithin (budget + 1) (char :: rest) values = (formatWithin budget rest values).map (char :: ·) := by
  simp [formatWithin, plain]

theorem formatWithin_verb {value : Value} :
    formatWithin (budget + 1) ('%' :: 's' :: rest) (value :: values) =
      (formatValue 's' none value).bind fun text => (formatWithin budget rest values).map (text.toList ++ ·) := rfl

/-- Escaped text is shown as it is, and what follows it is not touched. -/
theorem formatWithin_escaped (text : List Char) (enough : (escaped text ++ rest).length ≤ budget) :
    ∃ left, rest.length ≤ left ∧
      formatWithin budget (escaped text ++ rest) values = (formatWithin left rest values).map (text ++ ·) := by
  induction text generalizing budget with
  | nil =>
    refine ⟨budget, enough, ?_⟩
    cases shown : formatWithin budget rest values <;> simp [escaped, shown, Except.map]
  | cons char more ih =>
    have step : ∃ pieces, escaped (char :: more) = char :: (pieces ++ escaped more) ∧
        ∀ budget, formatWithin (budget + 1) (char :: (pieces ++ escaped more) ++ rest) values =
          (formatWithin budget (escaped more ++ rest) values).map (char :: ·) := by
      by_cases percent : char = '%'
      · subst percent
        exact ⟨['%'], rfl, fun budget => formatWithin_percent⟩
      · exact ⟨[], by simp [escaped, percent], fun budget => formatWithin_char percent⟩
    obtain ⟨pieces, split, stepped⟩ := step
    rw [split] at enough ⊢
    simp only [List.length_append, List.length_cons] at enough
    obtain ⟨size, rfl⟩ := Nat.exists_eq_add_of_lt (show 0 < budget by omega)
    rw [Nat.zero_add, stepped]
    obtain ⟨left, fits, same⟩ := ih (show (escaped more ++ rest).length ≤ size by
      rw [List.length_append]; omega)
    refine ⟨left, fits, ?_⟩
    rw [same]
    cases formatWithin left rest values <;> rfl

end Steps

/-- What a format shows after its first text: the next value before every other text. -/
def fill : List String → List Value → Except CallFault (List Char)
  | [], _ => .ok []
  | _ :: _, [] => .error (.notEnoughArguments 's')
  | text :: rest, value :: values =>
    (formatValue 's' none value).bind fun shown =>
      (fill rest values).map fun more => shown.toList ++ text.toList ++ more

theorem formatWithin_formatOf (first : List Char) (rest : List String) (values : List Value) {budget : Nat}
    (enough : (escaped first ++ afterFirst rest).length ≤ budget) :
    formatWithin budget (escaped first ++ afterFirst rest) values = (fill rest values).map (first ++ ·) := by
  induction rest generalizing first values budget with
  | nil =>
    obtain ⟨left, -, shown⟩ := formatWithin_escaped first enough
    rw [shown]
    cases left <;> rfl
  | cons text rest ih =>
    obtain ⟨left, fits, shown⟩ := formatWithin_escaped first enough
    have next : afterFirst (text :: rest) = '%' :: 's' :: (escaped text.toList ++ afterFirst rest) := by
      simp [afterFirst]
    rw [next, List.length_cons, List.length_cons] at fits
    obtain ⟨size, rfl⟩ := Nat.exists_eq_add_of_lt (show 0 < left by omega)
    rw [shown, next, Nat.zero_add]
    cases values with
    | nil => rfl
    | cons value values =>
      rw [formatWithin_verb, ih text.toList values (by omega), fill]
      cases formatValue 's' none value with
      | error cause => rfl
      | ok written =>
        cases fill rest values with
        | error cause => rfl
        | ok more => simp [Except.bind, Except.map]

theorem formatText_formatOf (first : String) (rest : List String) (values : List Value) :
    formatText (formatOf first rest) values =
      (fill rest values).map fun more => first ++ String.ofList more := by
  have chars : (formatOf first rest).toList = escaped first.toList ++ afterFirst rest := String.toList_ofList
  rw [formatText, chars, formatWithin_formatOf first.toList rest values (by rw [← chars, String.length_toList])]
  cases fill rest values with
  | error cause => rfl
  | ok more => simp [Except.map]

theorem formatValue_scalar {value : Value} (scalar : value.Scalar) {text : String} (written : value.toText = .ok text) :
    formatValue 's' none value = .ok text := by
  have shown : textArgument value = .ok text := textArgument_eq_ok_iff.mpr written
  cases scalar <;> exact shown

/-- A value for every verb. -/
theorem fill_scalars {rest texts : List String} {values : List Value} (scalars : ∀ value ∈ values, value.Scalar)
    (written : List.Forall₂ (fun value text => value.toText = .ok text) values texts)
    (same : values.length = rest.length) :
    fill rest values = .ok (String.join (List.zipWith (· ++ ·) texts rest)).toList := by
  induction written generalizing rest with
  | nil =>
    obtain rfl := List.length_eq_zero_iff.mp same.symm
    simp [fill]
  | @cons value shown values texts here later ih =>
    cases rest with
    | nil => cases same
    | cons text rest =>
      obtain ⟨scalar, scalars⟩ := List.forall_mem_cons.mp scalars
      rw [fill, formatValue_scalar scalar here, ih scalars (Nat.succ.inj same)]
      simp [Except.bind, Except.map]

/-- A verb that is left without a value. -/
theorem fill_short {rest : List String} {values : List Value} (short : values.length < rest.length) :
    ∃ cause, fill rest values = .error cause ∧
      ((∀ value ∈ values, value.Scalar) → cause = .notEnoughArguments 's') := by
  induction values generalizing rest with
  | nil =>
    obtain ⟨text, rest, rfl⟩ := List.exists_cons_of_length_pos short
    exact ⟨_, rfl, fun _ => rfl⟩
  | cons value values ih =>
    obtain ⟨text, rest, rfl⟩ := List.exists_cons_of_length_pos (Nat.zero_lt_of_lt short)
    obtain ⟨cause, failed, reason⟩ := ih (Nat.lt_of_succ_lt_succ short)
    rw [fill, failed]
    cases shown : formatValue 's' none value with
    | error fault =>
      refine ⟨fault, rfl, fun scalars => ?_⟩
      have scalar := scalars value List.mem_cons_self
      obtain ⟨written, here⟩ := scalar.exists_text
      cases shown.symm.trans (formatValue_scalar scalar here)
    | ok written =>
      exact ⟨cause, rfl, fun scalars => reason fun other member => scalars other (List.mem_cons_of_mem _ member)⟩

section Calls

variable (host : Host) (root : Path) (depth : Nat)

/-- The format function follows its format on known values. -/
theorem functionTable_format (format : String) {values : List Value}
    (known : ∀ value ∈ values, value.unknowns = []) :
    functionTable host root depth "format" (.string format :: values) =
      ((formatText format values).map Value.string).mapError (.call "format") := by
  have accepted : Arguments.accept (some .any) [.text] 0 (.string format :: values) = .ok (format, values) := by
    rw [Arguments.accept, Arguments.accept, acceptAll_any]
    rfl
  have found : ∀ render, Entries.get? (functionsWith host root render) "format" =
      some ⟨[.text], some .any, false, fun arguments => (formatText arguments.1 arguments.2).map Value.string⟩ :=
    fun _ => rfl
  rw [functionTable_of_known found (by simp [Function.takes]) (List.forall_mem_cons.mpr ⟨rfl, known⟩) accepted]

/-- A format of texts with verbs between them gives the texts with those of the values between them, whatever percent
signs the texts hold. With fewer values than verbs it fails; where all values have a text, for want of a value. -/
theorem format_substitutes (first : String) (rest : List String) (values : List Value) :
    ((∀ value ∈ values, value.Scalar) → values.length = rest.length →
      ∃ texts, List.Forall₂ (fun value text => value.toText = .ok text) values texts ∧
        functionTable host root depth "format" (.string (formatOf first rest) :: values) =
          .ok (.string (first ++ String.join (List.zipWith (· ++ ·) texts rest)))) ∧
    ((∀ value ∈ values, value.unknowns = []) → values.length < rest.length →
      ∃ cause, functionTable host root depth "format" (.string (formatOf first rest) :: values) =
          .error (.call "format" cause) ∧
        ((∀ value ∈ values, value.Scalar) → cause = .notEnoughArguments 's')) := by
  constructor
  · intro scalars same
    obtain ⟨texts, written⟩ := exists_forall₂ fun value member => (scalars value member).exists_text
    refine ⟨texts, written, ?_⟩
    rw [functionTable_format host root depth _ fun value member => (scalars value member).known,
      formatText_formatOf, fill_scalars scalars written same]
    simp only [Except.map, Except.mapError, String.ofList_toList]
  · intro known short
    obtain ⟨cause, failed, reason⟩ := fill_short short
    refine ⟨cause, ?_, reason⟩
    rw [functionTable_format host root depth _ known, formatText_formatOf, failed]
    rfl

end Calls

/-- Percent signs next to verbs, and values of every kind. -/
theorem format_substitutes_with_percents :
    let host : Host := ⟨.directory [], ⟨"/"⟩, "/", ⟨"/tmp"⟩⟩
    let values : List Value := [.string "%s", .number (.int (-3)), .bool true]
    formatOf "100%" ["%", "%s", ""] = "100%%%s%%%s%%s%s" ∧
      functionTable host ⟨"/"⟩ 0 "format" (.string "100%%%s%%%s%%s%s" :: values) =
        .ok (.string "100%%s%-3%strue") ∧
      functionTable host ⟨"/"⟩ 0 "format" (.string "100%%%s%%%s%%s%s" :: values.take 2) =
        .error (.call "format" (.notEnoughArguments 's')) := by
  intro host values
  have format : formatOf "100%" ["%", "%s", ""] = "100%%%s%%%s%%s%s" := by decide
  have scalars : ∀ value ∈ values, value.Scalar :=
    List.forall_mem_cons.mpr ⟨.string _,
      List.forall_mem_cons.mpr ⟨.number _, List.forall_mem_singleton.mpr (.bool _)⟩⟩
  obtain ⟨whole, -⟩ := format_substitutes host ⟨"/"⟩ 0 "100%" ["%", "%s", ""] values
  obtain ⟨-, short⟩ := format_substitutes host ⟨"/"⟩ 0 "100%" ["%", "%s", ""] (values.take 2)
  have fewer : ∀ value ∈ values.take 2, value.Scalar :=
    fun value member => scalars value (List.mem_of_mem_take member)
  rw [← format]
  refine ⟨rfl, ?_, ?_⟩
  · obtain ⟨texts, written, given⟩ := whole scalars rfl
    unfold values at written
    rcases written with _ | ⟨here, _ | ⟨next, _ | ⟨last, _ | _⟩⟩⟩
    cases here
    cases next
    cases last
    rw [given, Except.ok.injEq, Value.string.injEq]
    decide +kernel
  · obtain ⟨cause, given, reason⟩ := short (fun value member => (fewer value member).known) (by decide)
    rw [given, reason fewer]

end Terradoc
