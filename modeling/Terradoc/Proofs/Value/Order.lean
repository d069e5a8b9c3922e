import Mathlib.Data.String.Basic
import Terradoc.Proofs.Json.Text
import Terradoc.Proofs.Value.Equality

/-! The order used for sets. Values are in three bands: texts, numbers, and all others, told apart by the
first characters of their JSON texts. Numbers are ordered among themselves and so are all others. Strings
are compared as they are, but with a template by their JSON texts, where quotes and escapes count, so that
a template can stand between two strings against their order. -/

namespace Terradoc.Value

/-- The text by which values of different kinds are compared. -/
def jsonText (value : Value) : String := value.toJson.compact

theorem itemsFinite_of_forall {items : List Value} (finite : ∀ item ∈ items, item.toJson.Finite) :
    Json.ItemsFinite (itemsToJson items) := by
  induction items with
  | nil => trivial
  | cons head tail ih =>
    obtain ⟨first, rest⟩ := List.forall_mem_cons.mp finite
    exact ⟨first, ih rest⟩

theorem entriesFinite_of_forall {entries : Entries Value}
    (finite : ∀ entry ∈ entries, entry.2.toJson.Finite) :
    Json.EntriesFinite (entriesToJson entries) := by
  induction entries with
  | nil => trivial
  | cons head tail ih =>
    obtain ⟨first, rest⟩ := List.forall_mem_cons.mp finite
    exact ⟨first, ih rest⟩

theorem Formed.toJson_finite {value : Value} (formed : value.Formed) : value.toJson.Finite := by
  induction formed with
  | number finite => simpa [toJson, Json.Finite] using finite
  | list below ih => simpa [toJson, Json.Finite] using itemsFinite_of_forall ih
  | map once below ih => simpa [toJson, Json.Finite] using entriesFinite_of_forall ih
  | unknown marker =>
    rw [toJson]
    split <;> simp [Json.Finite]
  | null | bool | string => simp [toJson, Json.Finite]

/-- The band of a value: texts, numbers, all others. -/
def band : Value → Nat
  | string _ => 0
  | unknown marker => if marker.template.isSome then 0 else 2
  | number _ => 1
  | _ => 2

/-- The first character of the text of a value tells its band. -/
theorem jsonText_head {value : Value} (formed : value.Formed) :
    ∃ head rest, value.jsonText.toList = head :: rest ∧
      ((value.band = 0 ∧ head.toNat = 34) ∨ (value.band = 1 ∧ 45 ≤ head.toNat ∧ head.toNat ≤ 57) ∨
        (value.band = 2 ∧ 91 ≤ head.toNat)) := by
  obtain ⟨head, rest, text, starts⟩ := Json.compact_head formed.toJson_finite
  refine ⟨head, rest, text, ?_⟩
  cases value with
  | number =>
    refine .inr (.inl ⟨rfl, ?_⟩)
    rcases (starts : Number.IsTextHead head) with rfl | rfl | digit
    · decide
    · decide
    · have := Char.isDigit_iff_toNat.mp digit
      simp at this
      omega
  | string =>
    cases (starts : head = _)
    exact .inl ⟨rfl, rfl⟩
  | unknown marker =>
    cases shown : marker.template <;> simp only [toJson, shown] at starts <;>
      cases (starts : head = _) <;> simp [band, shown]
  | bool value =>
    cases (starts : head = if value then 't' else 'f')
    cases value <;> simp [band]
  | null | list | map =>
    cases (starts : head = _)
    simp [band]

/-- The bands are told apart by the texts. -/
theorem jsonText_of_band_lt {left right : Value} (first : left.Formed) (second : right.Formed)
    (lower : left.band < right.band) : left.jsonText < right.jsonText := by
  obtain ⟨head, rest, text, place⟩ := jsonText_head first
  obtain ⟨other, more, text', place'⟩ := jsonText_head second
  rw [String.lt_iff_toList_lt, text, text', List.cons_lt_cons_iff]
  have heads : head.toNat < other.toNat := by omega
  exact .inl (UInt32.lt_iff_toNat_lt.mpr heads)

/-- All pairs but those of numbers and those of strings are compared by their JSON texts. -/
theorem order_eq_text {left right : Value}
    (numbers : ∀ number other, ¬ (left = .number number ∧ right = .number other))
    (strings : ∀ text other, ¬ (left = .string text ∧ right = .string other)) :
    order left right = compare left.jsonText right.jsonText := by
  cases left <;> cases right <;> simp at numbers strings <;> try rfl
  rename_i value other
  cases value <;> cases other <;> rfl

/-- Values of different bands are ordered by their bands. -/
theorem order_of_band_lt {left right : Value} (first : left.Formed) (second : right.Formed)
    (lower : left.band < right.band) : order left right = .lt := by
  rw [order_eq_text, compare_lt_iff_lt]
  · exact jsonText_of_band_lt first second lower
  · rintro number other ⟨rfl, rfl⟩
    exact absurd lower (lt_irrefl _)
  · rintro text other ⟨rfl, rfl⟩
    exact absurd lower (lt_irrefl _)

/-- The order turns around with its sides. -/
theorem order_swap (left right : Value) : order right left = (order left right).swap := by
  by_cases numbers : ∃ number other, left = .number number ∧ right = .number other
  · obtain ⟨number, other, rfl, rfl⟩ := numbers
    exact Number.order_swap number other
  by_cases strings : ∃ text other, left = .string text ∧ right = .string other
  · obtain ⟨text, other, rfl, rfl⟩ := strings
    exact Std.OrientedOrd.eq_swap
  rw [order_eq_text (fun _ _ same => numbers ⟨_, _, same⟩) fun _ _ same => strings ⟨_, _, same⟩,
    order_eq_text (fun _ _ same => numbers ⟨_, _, same.symm⟩) fun _ _ same =>
      strings ⟨_, _, same.symm⟩]
  exact Std.OrientedOrd.eq_swap

/-- Of three values of a list, where the first is not after the second and the second not after the third,
the first is not after the third. -/
def OrderedAmong (values : List Value) : Prop :=
  ∀ first ∈ values, ∀ second ∈ values, ∀ third ∈ values,
    notAfter first second = true → notAfter second third = true → notAfter first third = true

/-- No template of a list stands, by quoted texts, between two strings of the list that are in the other
order. -/
def TemplatesInOrder (values : List Value) : Prop :=
  ∀ low high marker template, .string low ∈ values → .string high ∈ values →
    .unknown marker ∈ values → marker.template = some template → low < high →
    ¬ (Json.quote high ≤ Json.quote template ∧ Json.quote template ≤ Json.quote low)

theorem notAfter_iff (left right : Value) : notAfter left right = true ↔ order left right ≠ .gt := by
  simp [notAfter]

theorem notAfter_numbers {left right : Number} (first : left.Finite) (second : right.Finite) :
    notAfter (.number left) (.number right) = true ↔ left.rank ≤ right.rank := by
  rw [notAfter_iff, order, Number.order_eq_compare first second]
  exact compare_le_iff_le

theorem notAfter_strings (left right : String) :
    notAfter (.string left) (.string right) = true ↔ left ≤ right := by
  rw [notAfter_iff, order]
  exact compare_le_iff_le

theorem notAfter_texts {left right : Value}
    (numbers : ∀ number other, ¬ (left = .number number ∧ right = .number other))
    (strings : ∀ text other, ¬ (left = .string text ∧ right = .string other)) :
    notAfter left right = true ↔ left.jsonText ≤ right.jsonText := by
  rw [notAfter_iff, order_eq_text numbers strings]
  exact compare_le_iff_le

theorem band_le_of_notAfter {left right : Value} (first : left.Formed) (second : right.Formed)
    (below : notAfter left right = true) : left.band ≤ right.band := by
  by_contra higher
  rw [notAfter_iff, order_swap right left,
    order_of_band_lt second first (Nat.lt_of_not_le higher)] at below
  exact below rfl

/-- A text is a string or the template of an unknown. -/
theorem band_eq_zero {value : Value} (text : value.band = 0) :
    (∃ string, value = .string string) ∨
      ∃ marker template, value = .unknown marker ∧ marker.template = some template := by
  cases value with
  | string value => exact .inl ⟨value, rfl⟩
  | unknown marker =>
    cases shown : marker.template with
    | none => simp [band, shown] at text
    | some template => exact .inr ⟨marker, template, rfl, shown⟩
  | _ => cases text

theorem band_cases (value : Value) : value.band = 0 ∨ value.band = 1 ∨ value.band = 2 := by
  cases value with
  | unknown marker => cases shown : marker.template <;> simp [band, shown]
  | _ => simp [band]

/-- Of the other values all are compared by their texts. -/
theorem notAfter_others {left right : Value} (first : left.band = 2) :
    notAfter left right = true ↔ left.jsonText ≤ right.jsonText := by
  refine notAfter_texts ?_ ?_
  · rintro _ _ ⟨rfl, _⟩
    cases first
  · rintro _ _ ⟨rfl, _⟩
    cases first

theorem band_eq_one {value : Value} (number : value.band = 1) : ∃ number, value = .number number := by
  cases value with
  | number value => exact ⟨value, rfl⟩
  | unknown marker => cases shown : marker.template <;> simp [band, shown] at number
  | _ => cases number

private theorem jsonText_template {marker : Unknown} {template : String}
    (shown : marker.template = some template) : (unknown marker).jsonText = Json.quote template := by
  rw [jsonText, toJson, shown]
  rfl

private theorem notAfter_template (left : Value) {marker : Unknown} {template : String}
    (shown : marker.template = some template) :
    (notAfter left (.unknown marker) = true ↔ left.jsonText ≤ Json.quote template) ∧
      (notAfter (.unknown marker) left = true ↔ Json.quote template ≤ left.jsonText) := by
  rw [← jsonText_template shown]
  exact ⟨notAfter_texts (by rintro _ _ ⟨_, ⟨⟩⟩) (by rintro _ _ ⟨_, ⟨⟩⟩),
    notAfter_texts (by rintro _ _ ⟨⟨⟩, _⟩) (by rintro _ _ ⟨⟨⟩, _⟩)⟩

private theorem jsonText_string (text : String) : (string text).jsonText = Json.quote text := by
  rw [jsonText, toJson]
  rfl

/-- Among texts the templates are ordered by their quoted texts, and the strings around one agree. -/
private theorem notAfter_trans_texts {values : List Value} (sound : TemplatesInOrder values)
    {first second third : Value} (inside : first ∈ values) (between : second ∈ values)
    (last : third ∈ values) (text : first.band = 0) (text' : second.band = 0) (text'' : third.band = 0)
    (below : notAfter first second = true) (next : notAfter second third = true) :
    notAfter first third = true := by
  rcases band_eq_zero text' with ⟨middle, rfl⟩ | ⟨marker, template, rfl, shown⟩
  · rcases band_eq_zero text with ⟨low, rfl⟩ | ⟨marker, template, rfl, shown⟩
    · rw [notAfter_strings] at below
      rcases band_eq_zero text'' with ⟨high, rfl⟩ | ⟨marker, template, rfl, shown⟩
      · rw [notAfter_strings] at next ⊢
        exact below.trans next
      · rw [(notAfter_template _ shown).1, jsonText_string] at next ⊢
        rcases below.eq_or_lt with rfl | less
        · exact next
        · by_contra after
          exact sound low middle marker template inside between last shown less
            ⟨next, (not_le.mp after).le⟩
    · rw [(notAfter_template _ shown).2] at below ⊢
      rcases band_eq_zero text'' with ⟨high, rfl⟩ | ⟨other, template', rfl, shown'⟩
      · rw [notAfter_strings] at next
        rw [jsonText_string] at below ⊢
        rcases next.eq_or_lt with rfl | less
        · exact below
        · by_contra after
          exact sound middle high marker template between last inside shown less
            ⟨(not_le.mp after).le, below⟩
      · rw [(notAfter_template _ shown').1] at next
        rw [jsonText_template shown']
        exact below.trans next
  · rw [(notAfter_template _ shown).1] at below
    rw [(notAfter_template _ shown).2] at next
    rcases band_eq_zero text with ⟨low, rfl⟩ | ⟨marker', template', rfl, shown'⟩
    · rcases band_eq_zero text'' with ⟨high, rfl⟩ | ⟨marker', template', rfl, shown'⟩
      · rw [jsonText_string] at below next
        rw [notAfter_strings]
        by_contra after
        exact sound high low marker template last inside between shown (not_le.mp after)
          ⟨below, next⟩
      · rw [(notAfter_template _ shown').1]
        rw [jsonText_template shown'] at next
        exact below.trans next
    · rw [(notAfter_template _ shown').2]
      rw [jsonText_template shown'] at below
      exact below.trans next

/-- A list of values is ordered just when no template in it stands between two strings against their
order. -/
theorem orderedAmong_iff {values : List Value} (formed : ∀ value ∈ values, value.Formed) :
    OrderedAmong values ↔ TemplatesInOrder values := by
  constructor
  · rintro ordered low high marker template inside last between shown less ⟨below, next⟩
    have among := ordered _ last _ between _ inside
    rw [(notAfter_template _ shown).1, (notAfter_template _ shown).2, jsonText_string,
      jsonText_string, notAfter_strings] at among
    exact absurd (among below next) less.not_ge
  · intro sound first inside second between third last below next
    have shape := formed first inside
    have shape' := formed second between
    have shape'' := formed third last
    have lower := band_le_of_notAfter shape shape' below
    have higher := band_le_of_notAfter shape' shape'' next
    rcases Nat.lt_or_ge first.band third.band with apart | level
    · rw [notAfter_iff, order_of_band_lt shape shape'' apart]
      decide
    have same : first.band = second.band := by omega
    have same' : second.band = third.band := by omega
    rcases band_cases second with text | number | other
    · exact notAfter_trans_texts sound inside between last (same.trans text) text
        (same'.symm.trans text) below next
    · obtain ⟨left, rfl⟩ := band_eq_one (same.trans number)
      obtain ⟨middle, rfl⟩ := band_eq_one number
      obtain ⟨right, rfl⟩ := band_eq_one (same'.symm.trans number)
      cases shape with
      | number finite =>
        cases shape' with
        | number finite' =>
          cases shape'' with
          | number finite'' =>
            rw [notAfter_numbers finite finite'] at below
            rw [notAfter_numbers finite' finite''] at next
            rw [notAfter_numbers finite finite'']
            exact below.trans next
    · rw [notAfter_others (same.trans other)] at below ⊢
      rw [notAfter_others other] at next
      exact below.trans next

/-- The order turns around with its sides, and among the values of a list it is a total preorder just when
no template in the list stands between two strings against their order. -/
theorem order_total_iff {values : List Value} (formed : ∀ value ∈ values, value.Formed) :
    (∀ left right : Value, order right left = (order left right).swap) ∧
      (OrderedAmong values ↔ TemplatesInOrder values) :=
  ⟨order_swap, orderedAmong_iff formed⟩

def templated (template : String) : Value := .unknown ⟨"var.x", "x", none, some template⟩

/-- Two strings and a template after both of them. -/
theorem order_total_of_three :
    (∀ value ∈ [string "a", string "b", templated "b$\x7bvar.x\x7d"], value.Formed) ∧
      OrderedAmong [string "a", string "b", templated "b$\x7bvar.x\x7d"] := by
  have formed : ∀ value ∈ [string "a", string "b", templated "b$\x7bvar.x\x7d"], value.Formed := by
    exact List.forall_mem_cons.mpr ⟨.string _, List.forall_mem_cons.mpr ⟨.string _,
      List.forall_mem_singleton.mpr (.unknown _)⟩⟩
  refine ⟨formed, (order_total_iff formed).2.mpr ?_⟩
  intro low high marker template inside last between shown less
  simp [templated] at inside last between
  obtain rfl := between
  cases shown
  rcases inside with rfl | rfl <;> rcases last with rfl | rfl <;> revert less <;> decide

/-- Quoted, a template can stand after a string that goes on with a blank and before the string that it
starts with. -/
theorem order_not_transitive :
    order (string "a") (string "a b") = .lt ∧
      order (string "a b") (templated "a b$\x7bvar.x\x7d") = .lt ∧
      order (string "a") (templated "a b$\x7bvar.x\x7d") = .gt := by
  decide

end Terradoc.Value
