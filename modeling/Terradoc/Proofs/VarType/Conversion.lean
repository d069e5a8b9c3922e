import Mathlib.Data.List.Forall2
import Terradoc.Proofs.Entries
import Terradoc.Proofs.Value.Membership
import Terradoc.VarType.Basic

/-! How values are converted to types: one level at a time, what attributes of an object type take, and what
conversion keeps of a value. -/

namespace Terradoc

open Value

namespace AttributeType

def name : AttributeType → String
  | mk name _ _ => name

def type : AttributeType → VarType
  | mk _ type _ => type

def default : AttributeType → Option Value
  | mk _ _ default => default

/-- An attribute takes the value that is there, converted, or else its default as it is written. -/
def Takes (field : AttributeType) (found : Option Value) (value : Value) : Prop :=
  match found with
  | some given => field.type.coerce given = .ok value
  | none => field.default = some value

end AttributeType

/-- What holds of the attributes of every object type inside a type. -/
inductive VarType.EachObject (holds : List AttributeType → Prop) : VarType → Prop where
  | any : EachObject holds .any
  | string : EachObject holds .string
  | number : EachObject holds .number
  | bool : EachObject holds .bool
  | list {item : VarType} (below : EachObject holds item) : EachObject holds (.list item)
  | set {item : VarType} (below : EachObject holds item) : EachObject holds (.set item)
  | map {item : VarType} (below : EachObject holds item) : EachObject holds (.map item)
  | object {attributes : List AttributeType} (here : holds attributes)
    (below : ∀ field ∈ attributes, EachObject holds field.type) : EachObject holds (.object attributes)
  | tuple {types : List VarType} (below : ∀ type ∈ types, EachObject holds type) :
    EachObject holds (.tuple types)

theorem VarType.EachObject.imp {holds weaker : List AttributeType → Prop} {type : VarType}
    (each : type.EachObject holds) (weaken : ∀ attributes, holds attributes → weaker attributes) :
    type.EachObject weaker := by
  induction each with
  | any => exact .any
  | string => exact .string
  | number => exact .number
  | bool => exact .bool
  | list _ ih => exact .list ih
  | set _ ih => exact .set ih
  | map _ ih => exact .map ih
  | object here _ ih => exact .object (weaken _ here) ih
  | tuple _ ih => exact .tuple ih

theorem Entries.get?_erase {α : Type} (entries : Entries α) (key other : String) :
    get? (erase entries key) other = if other == key then none else get? entries other := by
  induction entries with
  | nil => simp [erase]
  | cons head rest ih =>
    obtain ⟨first, value⟩ := head
    rw [erase] at ih ⊢
    by_cases same : first = key
    · subst same
      rw [List.filter_cons_of_neg (by simp), ih, get?_cons]
      split <;> rfl
    · rw [List.filter_cons_of_pos (by simpa using same), get?_cons, get?_cons, ih]
      by_cases equal : other = first
      · subst equal
        simp [same]
      · simp [equal]

theorem coerceEntries_eq_mapM (convert : Value → Except CoerceFault Value) (entries : Entries Value) :
    coerceEntries convert entries = entries.mapM fun entry => (entry.1, ·) <$> convert entry.2 := by
  induction entries with
  | nil => rfl
  | cons head rest ih =>
    obtain ⟨key, value⟩ := head
    rw [coerceEntries, List.mapM_cons, ih]
    cases convert value <;> rfl

theorem coerceEntries_eq_ok_iff {convert : Value → Except CoerceFault Value}
    {entries results : Entries Value} : coerceEntries convert entries = .ok results ↔
      List.Forall₂ (fun entry result => entry.1 = result.1 ∧ convert entry.2 = .ok result.2)
        entries results := by
  rw [coerceEntries_eq_mapM, mapM_eq_ok_iff]
  have step (entry result : String × Value) : (entry.1, ·) <$> convert entry.2 = .ok result ↔
      entry.1 = result.1 ∧ convert entry.2 = .ok result.2 := by
    cases convert entry.2 <;> simp [Prod.ext_iff]
  simp only [step]

theorem coerceTuple_eq_mapM (types : List VarType) (items : List Value) :
    coerceTuple types items = (types.zip items).mapM fun row => row.1.coerce row.2 := by
  induction types generalizing items with
  | nil => rfl
  | cons type rest ih =>
    cases items with
    | nil => rfl
    | cons item others =>
      rw [coerceTuple, List.zip_cons_cons, List.mapM_cons, ih]

theorem coerceTuple_eq_ok_iff {types : List VarType} {items results : List Value} :
    coerceTuple types items = .ok results ↔
      List.Forall₂ (fun row result => row.1.coerce row.2 = .ok result) (types.zip items) results := by
  rw [coerceTuple_eq_mapM, mapM_eq_ok_iff]

theorem coerceObject_cons_eq_ok_iff {field : AttributeType} {rest : List AttributeType}
    {entries taken results : Entries Value} :
    coerceObject (field :: rest) entries taken = .ok results ↔
      ∃ value, field.Takes (Entries.get? entries field.name) value ∧
        coerceObject rest (Entries.erase entries field.name)
          (Entries.insert taken field.name value) = .ok results := by
  obtain ⟨name, type, default⟩ := field
  simp only [AttributeType.Takes, AttributeType.name, AttributeType.type, AttributeType.default]
  rw [coerceObject.eq_def]
  cases found : Entries.get? entries name with
  | some given => cases done : type.coerce given <;> simp [found, done, bind, Except.bind]
  | none => cases default <;> simp [found, bind, Except.bind]

section Attributes

variable {attributes : List AttributeType} {entries results : Entries Value}
  (find : String → Option Value) (once : (attributes.map AttributeType.name).Nodup)
  (found : ∀ field ∈ attributes, Entries.get? entries field.name = find field.name)

include once found

private theorem coerceObject_onto {taken : Entries Value}
    (fresh : ∀ field ∈ attributes, field.name ∉ taken.map Prod.fst) :
    coerceObject attributes entries taken = .ok results ↔ ∃ more, results = taken ++ more ∧
      more.map Prod.fst = attributes.map AttributeType.name ∧
      List.Forall₂ (fun field entry => field.Takes (find field.name) entry.2) attributes more := by
  induction attributes generalizing entries taken with
  | nil =>
    simp only [coerceObject, Except.ok.injEq, List.forall₂_nil_left_iff, List.map_nil, List.map_eq_nil_iff,
      and_self, exists_eq_right, List.append_nil]
    exact eq_comm
  | cons field rest ih =>
    obtain ⟨unlike, once⟩ := List.nodup_cons.mp once
    obtain ⟨here, found⟩ := List.forall_mem_cons.mp found
    obtain ⟨new, fresh⟩ := List.forall_mem_cons.mp fresh
    have differ : ∀ other ∈ rest, other.name ≠ field.name :=
      fun other member same => unlike (same ▸ List.mem_map_of_mem member)
    have later (value : Value) := @ih (Entries.erase entries field.name) once
      (fun other member => by
        rw [Entries.get?_erase, if_neg (by simpa using differ other member), found other member])
      (Entries.insert taken field.name value)
      (fun other member => by
        rw [Entries.insert_of_fresh value new, List.map_append, List.mem_append]
        simpa [differ other member] using fresh other member)
    rw [coerceObject_cons_eq_ok_iff, here]
    constructor
    · rintro ⟨value, takes, done⟩
      obtain ⟨more, rfl, names, rows⟩ := (later value).mp done
      exact ⟨(field.name, value) :: more, by simp [Entries.insert_of_fresh value new], by simp [names],
        .cons takes rows⟩
    · rintro ⟨more, rfl, names, rows⟩
      cases rows with
      | @cons _ entry _ more takes rows =>
        obtain ⟨same, names⟩ := List.cons.inj names
        refine ⟨entry.2, takes, (later entry.2).mpr ⟨more, ?_, names, rows⟩⟩
        rw [Entries.insert_of_fresh entry.2 new, ← same]
        simp

/-- Where no two attributes have the same name, an object type takes its attributes one by one. -/
theorem coerceObject_eq_ok_iff : coerceObject attributes entries [] = .ok results ↔
    results.map Prod.fst = attributes.map AttributeType.name ∧
      List.Forall₂ (fun field entry => field.Takes (find field.name) entry.2) attributes results := by
  rw [coerceObject_onto find once found fun _ _ => List.not_mem_nil]
  simp

end Attributes

/-- What a value is converted to, one level deep. -/
inductive VarType.Converts : VarType → Value → Value → Prop where
  | null (type : VarType) : Converts type .null .null
  | unknown (type : VarType) (marker : Unknown) : Converts type (.unknown marker) (.unknown marker)
  | any (value : Value) : Converts .any value value
  | string (text : String) : Converts .string (.string text) (.string text)
  | numberText (number : Number) : Converts .string (.number number) (.string number.toText)
  | boolText (truth : Bool) :
    Converts .string (.bool truth) (.string (if truth then "true" else "false"))
  | number (number : Number) : Converts .number (.number number) (.number number)
  | numeral {text : String} {number : Float} (reads : Number.parseFloat? (Text.trim text) = some number) :
    Converts .number (.string text) (.ofFloat number)
  | bool (truth : Bool) : Converts .bool (.bool truth) (.bool truth)
  | truth (truth : Bool) : Converts .bool (.string (if truth then "true" else "false")) (.bool truth)
  | list {item : VarType} {items results : List Value}
    (rows : List.Forall₂ (fun value result => item.coerce value = .ok result) items results) :
    Converts (.list item) (.list items) (.list results)
  | set {item : VarType} {items results : List Value}
    (rows : List.Forall₂ (fun value result => item.coerce value = .ok result) items results) :
    Converts (.set item) (.list items) (.list (toSet results))
  | map {item : VarType} {entries results : Entries Value}
    (rows : List.Forall₂ (fun entry result => entry.1 = result.1 ∧ item.coerce entry.2 = .ok result.2)
      entries results) : Converts (.map item) (.map entries) (.map results)
  | object {attributes : List AttributeType} {entries results : Entries Value}
    (done : coerceObject attributes entries [] = .ok results) :
    Converts (.object attributes) (.map entries) (.map results)
  | tuple {types : List VarType} {items results : List Value} (size : types.length = items.length)
    (rows : List.Forall₂ (fun row result => row.1.coerce row.2 = .ok result) (types.zip items) results) :
    Converts (.tuple types) (.list items) (.list results)

private theorem map_eq_ok {α β : Type} {step : Except CoerceFault α} {wrap : α → β} {result : β}
    (done : (do return wrap (← step)) = Except.ok (ε := CoerceFault) result) :
    ∃ value, step = .ok value ∧ wrap value = result := by
  cases step with
  | error => cases done
  | ok value => exact ⟨value, rfl, Except.ok.inj done⟩

private theorem converts_of_coerce {type : VarType} {value result : Value}
    (done : type.coerce value = .ok result) : type.Converts value result := by
  rw [VarType.coerce.eq_def] at done
  split at done
  case h_8 =>
    split at done <;> cases done
    exact .numeral ‹_›
  case h_10 =>
    split at done
    · rename_i yes
      cases done
      exact beq_iff_eq.mp yes ▸ .truth true
    · split at done <;> cases done
      rename_i no
      exact beq_iff_eq.mp no ▸ .truth false
  case h_11 =>
    obtain ⟨results, each, rfl⟩ := map_eq_ok done
    exact .list (mapM_eq_ok_iff.mp each)
  case h_12 =>
    obtain ⟨results, each, rfl⟩ := map_eq_ok done
    exact .set (mapM_eq_ok_iff.mp each)
  case h_13 =>
    obtain ⟨results, each, rfl⟩ := map_eq_ok done
    exact .map (coerceEntries_eq_ok_iff.mp each)
  case h_14 =>
    obtain ⟨results, each, rfl⟩ := map_eq_ok done
    exact .object each
  case h_15 types items =>
    split at done
    · cases done
    · rename_i size
      obtain ⟨results, each, rfl⟩ := map_eq_ok done
      exact .tuple (by simpa using size) (coerceTuple_eq_ok_iff.mp each)
  all_goals
    cases done
  · exact .unknown _ _
  · exact .null _
  · exact .any _
  · exact .string _
  · exact .numberText _
  · exact .boolText _
  · exact .number _
  · exact .bool _

private theorem coerce_of_converts {type : VarType} {value result : Value}
    (converts : type.Converts value result) : type.coerce value = .ok result := by
  cases converts with
  | any => cases value <;> rfl
  | numeral reads =>
    rw [VarType.coerce]
    simp only [reads]
  | truth truth => cases truth <;> rfl
  | list rows =>
    rw [VarType.coerce, mapM_eq_ok_iff.mpr rows]
    rfl
  | set rows =>
    rw [VarType.coerce, mapM_eq_ok_iff.mpr rows]
    rfl
  | map rows =>
    rw [VarType.coerce, coerceEntries_eq_ok_iff.mpr rows]
    rfl
  | object done =>
    rw [VarType.coerce, done]
    rfl
  | tuple size rows =>
    rw [VarType.coerce, if_neg (by simpa using size), coerceTuple_eq_ok_iff.mpr rows]
    rfl
  | _ => simp [VarType.coerce]

theorem VarType.coerce_eq_ok_iff {type : VarType} {value result : Value} :
    type.coerce value = .ok result ↔ type.Converts value result :=
  ⟨converts_of_coerce, coerce_of_converts⟩

@[simp] theorem VarType.coerce_null (type : VarType) : type.coerce .null = .ok .null :=
  VarType.coerce_eq_ok_iff.mpr (.null type)

/-- A property that a value has just when all it is made of has it. -/
structure Value.Hereditary (holds : Value → Prop) : Prop where
  formed : ∀ value, holds value → value.Formed
  null : holds .null
  bool : ∀ truth, holds (.bool truth)
  number : ∀ number, number.Finite → holds (.number number)
  string : ∀ text, holds (.string text)
  list : ∀ items, holds (.list items) ↔ ∀ item ∈ items, holds item
  map : ∀ entries : Entries Value, holds (.map entries) ↔
    (entries.map Prod.fst).Nodup ∧ ∀ entry ∈ entries, holds entry.2

theorem Value.hereditary_formed : Hereditary Formed where
  formed _ formed := formed
  null := .null
  bool := .bool
  number _ := .number
  string := .string
  list _ := ⟨fun | .list below => below, .list⟩
  map _ := ⟨fun | .map once below => ⟨once, below⟩, fun both => .map both.1 both.2⟩

theorem Value.hereditary_plain : Hereditary Plain where
  formed _ plain := plain.formed
  null := ⟨.null, rfl⟩
  bool truth := ⟨.bool truth, rfl⟩
  number _ finite := ⟨.number finite, rfl⟩
  string text := ⟨.string text, rfl⟩
  list items := by
    constructor
    · rintro ⟨formed, known⟩ item member
      cases formed with
      | list below => exact ⟨below item member, unknownsOfItems_eq_nil_iff.mp known item member⟩
    · exact fun plain => ⟨.list (forall_formed plain), list_known plain⟩
  map entries := by
    constructor
    · rintro ⟨formed, known⟩
      cases formed with
      | map once below =>
        exact ⟨once, fun entry member =>
          ⟨below entry member, unknownsOfEntries_eq_nil_iff.mp known entry member⟩⟩
    · exact fun both => ⟨.map both.1 fun entry member => (both.2 entry member).formed,
        unknownsOfEntries_eq_nil_iff.mpr fun entry member => (both.2 entry member).known⟩

namespace Value.Hereditary

variable {holds : Value → Prop} (hereditary : Hereditary holds)

include hereditary

theorem ofFloat (value : Float) : holds (.ofFloat value) := by
  rw [Value.ofFloat]
  split
  · rename_i number made
    exact hereditary.number number (Number.finite_of_ofFloat? made)
  · exact hereditary.null

theorem insert {entries : Entries Value} {key : String} {value : Value}
    (before : holds (.map entries)) (new : holds value) :
    holds (.map (Entries.insert entries key value)) := by
  rw [hereditary.map] at before ⊢
  constructor
  · exact Entries.nodup_insert before.1 key value
  · intro entry member
    rcases Entries.mem_insert member with old | rfl
    · exact before.2 entry old
    · exact new

theorem coerceObject {attributes : List AttributeType} {entries taken results : Entries Value}
    (each : ∀ field ∈ attributes, ∀ value result, holds value → field.type.coerce value = .ok result →
      holds result)
    (defaults : ∀ field ∈ attributes, ∀ value, field.default = some value → holds value)
    (start : ∀ entry ∈ entries, holds entry.2) (before : holds (.map taken))
    (done : coerceObject attributes entries taken = .ok results) : holds (.map results) := by
  induction attributes generalizing entries taken with
  | nil =>
    rw [Terradoc.coerceObject] at done
    cases done
    exact before
  | cons field rest ih =>
    obtain ⟨first, each⟩ := List.forall_mem_cons.mp each
    obtain ⟨absent, defaults⟩ := List.forall_mem_cons.mp defaults
    obtain ⟨value, takes, done⟩ := coerceObject_cons_eq_ok_iff.mp done
    have new : holds value := by
      unfold AttributeType.Takes at takes
      split at takes
      · rename_i given found
        exact first given value (start _ (Entries.mem_of_get? found)) takes
      · exact absent value takes
    exact ih each defaults (fun entry member => start entry (List.mem_of_mem_filter member))
      (hereditary.insert before new) done

/-- Conversion keeps what the defaults of a type have. -/
theorem coerce {type : VarType} (defaults : type.EachObject fun attributes => ∀ field ∈ attributes,
      ∀ value, field.default = some value → holds value)
    {value result : Value} (start : holds value) (done : type.coerce value = .ok result) :
    holds result := by
  induction defaults generalizing value result with
  | any =>
    cases VarType.coerce_eq_ok_iff.mp done
    all_goals exact start
  | string =>
    cases VarType.coerce_eq_ok_iff.mp done with
    | null | unknown => exact start
    | _ => exact hereditary.string _
  | number =>
    cases VarType.coerce_eq_ok_iff.mp done with
    | numeral => exact hereditary.ofFloat _
    | _ => exact start
  | bool =>
    cases VarType.coerce_eq_ok_iff.mp done with
    | truth => exact hereditary.bool _
    | _ => exact start
  | list _ ih =>
    cases VarType.coerce_eq_ok_iff.mp done with
    | null | unknown => exact start
    | list rows =>
      rw [hereditary.list] at start ⊢
      intro result member
      obtain ⟨item, inside, done⟩ := exists_of_forall₂ rows member
      exact ih (start item inside) done
  | set _ ih =>
    cases VarType.coerce_eq_ok_iff.mp done with
    | null | unknown => exact start
    | @set _ items results rows =>
      rw [hereditary.list] at start ⊢
      have converted : ∀ result ∈ results, holds result := by
        intro result member
        obtain ⟨item, inside, done⟩ := exists_of_forall₂ rows member
        exact ih (start item inside) done
      have kept := toSet_kept fun result member => hereditary.formed result (converted result member)
      exact fun result member => converted result (kept.inside member)
  | map _ ih =>
    cases VarType.coerce_eq_ok_iff.mp done with
    | null | unknown => exact start
    | @map _ entries results rows =>
      rw [hereditary.map] at start ⊢
      have keys : entries.map Prod.fst = results.map Prod.fst :=
        map_eq_map_iff_forall₂.mpr (rows.imp fun _ _ row => row.1)
      refine ⟨keys ▸ start.1, fun result member => ?_⟩
      obtain ⟨entry, inside, done⟩ := exists_of_forall₂ rows member
      exact ih (start.2 entry inside) done.2
  | object here _ ih =>
    cases VarType.coerce_eq_ok_iff.mp done with
    | null | unknown => exact start
    | object turned =>
      rw [hereditary.map] at start
      exact hereditary.coerceObject (fun field member _ _ => ih field member) here start.2
        ((hereditary.map []).mpr ⟨List.nodup_nil, List.forall_mem_nil _⟩) turned
  | tuple _ ih =>
    cases VarType.coerce_eq_ok_iff.mp done with
    | null | unknown => exact start
    | tuple size rows =>
      rw [hereditary.list] at start ⊢
      intro result member
      obtain ⟨⟨type, item⟩, inside, done⟩ := exists_of_forall₂ rows member
      obtain ⟨place, inside⟩ := List.of_mem_zip inside
      exact ih type place (start item inside) done

end Value.Hereditary

end Terradoc
