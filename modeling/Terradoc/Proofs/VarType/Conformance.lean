import Mathlib.Data.List.Dedup
import Terradoc.Proofs.VarType.Conversion
import Terradoc.VarType.Parser

/-! Whether a converted value is of the type. All that is converted is; what escapes is the default of an
attribute, which stands as it is written, and an attribute whose name a later one takes over. -/

namespace Terradoc

open Value

/-- A value is of a type. Null and unknowns are of every type. -/
inductive VarType.Conforms : VarType → Value → Prop where
  | null (type : VarType) : Conforms type .null
  | unknown (type : VarType) (marker : Unknown) : Conforms type (.unknown marker)
  | any (value : Value) : Conforms .any value
  | string (text : String) : Conforms .string (.string text)
  | number (number : Number) : Conforms .number (.number number)
  | bool (truth : Bool) : Conforms .bool (.bool truth)
  | list {item : VarType} {items : List Value} (each : ∀ value ∈ items, Conforms item value) :
    Conforms (.list item) (.list items)
  | set {item : VarType} {items : List Value} (each : ∀ value ∈ items, Conforms item value)
    (apart : items.Pairwise fun first second => equal first second = false ∧ equal second first = false)
    (sorted : items.IsChain fun value next => notAfter value next = true) :
    Conforms (.set item) (.list items)
  | map {item : VarType} {entries : Entries Value} (each : ∀ entry ∈ entries, Conforms item entry.2) :
    Conforms (.map item) (.map entries)
  | object {attributes : List AttributeType} {entries : Entries Value}
    (names : entries.map Prod.fst = attributes.map AttributeType.name)
    (each : List.Forall₂ (fun field entry => Conforms field.type entry.2) attributes entries) :
    Conforms (.object attributes) (.map entries)
  | tuple {types : List VarType} {items : List Value} (each : List.Forall₂ Conforms types items) :
    Conforms (.tuple types) (.list items)

/-- No required attribute has the name of an earlier one, which would have taken its value. -/
def AttributeType.Fillable (attributes : List AttributeType) : Prop :=
  attributes.Pairwise fun first second => first.name = second.name → second.default ≠ none

/-- Every object type inside a type either lets no map through, or it names its attributes once and their
defaults are of their types. -/
inductive VarType.Sound : VarType → Prop where
  | any : Sound .any
  | string : Sound .string
  | number : Sound .number
  | bool : Sound .bool
  | list {item : VarType} (below : Sound item) : Sound (.list item)
  | set {item : VarType} (below : Sound item) : Sound (.set item)
  | map {item : VarType} (below : Sound item) : Sound (.map item)
  | closed {attributes : List AttributeType} (closed : ¬ AttributeType.Fillable attributes) :
    Sound (.object attributes)
  | object {attributes : List AttributeType} (once : (attributes.map AttributeType.name).Nodup)
    (defaults : ∀ field ∈ attributes, ∀ value, field.default = some value → field.type.Conforms value)
    (below : ∀ field ∈ attributes, Sound field.type) : Sound (.object attributes)
  | tuple {types : List VarType} (below : ∀ type ∈ types, Sound type) : Sound (.tuple types)

/-- A required attribute is among the entries. -/
private theorem required_present {attributes : List AttributeType} {entries taken results : Entries Value}
    (done : coerceObject attributes entries taken = .ok results) :
    ∀ field ∈ attributes, field.default = none → Entries.get? entries field.name ≠ none := by
  induction attributes generalizing entries taken with
  | nil => exact List.forall_mem_nil _
  | cons field rest ih =>
    obtain ⟨value, takes, done⟩ := coerceObject_cons_eq_ok_iff.mp done
    refine List.forall_mem_cons.mpr ⟨fun required absent => ?_, fun other member required absent => ?_⟩
    · rw [absent] at takes
      exact absurd (required.symm.trans takes) nofun
    · refine ih done other member required ?_
      rw [Entries.get?_erase, absent, ite_self]

theorem fillable_of_coerceObject {attributes : List AttributeType}
    {entries taken results : Entries Value}
    (done : coerceObject attributes entries taken = .ok results) :
    AttributeType.Fillable attributes := by
  induction attributes generalizing entries taken with
  | nil => exact .nil
  | cons field rest ih =>
    obtain ⟨value, _, done⟩ := coerceObject_cons_eq_ok_iff.mp done
    refine .cons (fun other member same required => ?_) (ih done)
    refine required_present done other member required ?_
    rw [Entries.get?_erase, if_pos (beq_iff_eq.mpr same.symm)]

/-- Nulls for all required attributes are let through. -/
theorem exists_coerceObject {attributes : List AttributeType} {entries : Entries Value}
    (taken : Entries Value) (fillable : AttributeType.Fillable attributes)
    (present : ∀ field ∈ attributes, field.default = none → Entries.get? entries field.name ≠ none)
    (nulls : ∀ entry ∈ entries, entry.2 = .null) :
    ∃ results, coerceObject attributes entries taken = .ok results := by
  induction attributes generalizing entries taken with
  | nil => exact ⟨taken, by rw [coerceObject]⟩
  | cons field rest ih =>
    obtain ⟨unlike, fillable⟩ := List.pairwise_cons.mp fillable
    obtain ⟨here, later⟩ := List.forall_mem_cons.mp present
    have takes : ∃ value, field.Takes (Entries.get? entries field.name) value := by
      cases found : Entries.get? entries field.name with
      | some given =>
        obtain rfl : given = .null := nulls _ (Entries.mem_of_get? found)
        exact ⟨.null, field.type.coerce_null⟩
      | none => exact Option.ne_none_iff_exists'.mp fun required => here required found
    obtain ⟨value, takes⟩ := takes
    obtain ⟨results, done⟩ := @ih (Entries.erase entries field.name)
      (Entries.insert taken field.name value) fillable (fun other member required => by
        rw [Entries.get?_erase, if_neg (by
          simpa using fun same : other.name = field.name => unlike other member same.symm required)]
        exact later other member required)
      fun entry member => nulls entry (List.mem_of_mem_filter member)
    exact ⟨results, coerceObject_cons_eq_ok_iff.mpr ⟨value, takes, done⟩⟩

theorem conforms_ofFloat (value : Float) : VarType.Conforms .number (.ofFloat value) := by
  rw [Value.ofFloat]
  split
  · exact .number _
  · exact .null _

/-- The defaults of a type are values as evaluation makes them. -/
abbrev VarType.DefaultsFormed (type : VarType) : Prop :=
  type.EachObject fun attributes => ∀ field ∈ attributes, ∀ value, field.default = some value → value.Formed

theorem VarType.Sound.conforms {type : VarType} (sound : type.Sound) (formed : type.DefaultsFormed)
    {value result : Value} (start : value.Formed) (done : type.coerce value = .ok result) :
    type.Conforms result := by
  induction sound generalizing value result with
  | any => exact .any _
  | string =>
    cases VarType.coerce_eq_ok_iff.mp done with
    | null | unknown => constructor
    | _ => exact .string _
  | number =>
    cases VarType.coerce_eq_ok_iff.mp done with
    | null | unknown => constructor
    | number => exact .number _
    | numeral => exact conforms_ofFloat _
  | bool =>
    cases VarType.coerce_eq_ok_iff.mp done with
    | null | unknown => constructor
    | _ => exact .bool _
  | list _ ih =>
    cases formed with
    | list formed =>
      cases VarType.coerce_eq_ok_iff.mp done with
      | null | unknown => constructor
      | list rows =>
        rw [hereditary_formed.list] at start
        refine .list fun result member => ?_
        obtain ⟨item, inside, done⟩ := exists_of_forall₂ rows member
        exact ih formed (start item inside) done
  | set _ ih =>
    cases formed with
    | set formed =>
      cases VarType.coerce_eq_ok_iff.mp done with
      | null | unknown => constructor
      | set rows =>
        rw [hereditary_formed.list] at start
        have kept := toSet_kept fun result member => by
          obtain ⟨item, inside, done⟩ := exists_of_forall₂ rows member
          exact hereditary_formed.coerce formed (start item inside) done
        refine .set (fun result member => ?_) kept.apart (isChain_mergeSort notAfter_total _)
        obtain ⟨item, inside, done⟩ := exists_of_forall₂ rows (kept.inside member)
        exact ih formed (start item inside) done
  | map _ ih =>
    cases formed with
    | map formed =>
      cases VarType.coerce_eq_ok_iff.mp done with
      | null | unknown => constructor
      | map rows =>
        rw [hereditary_formed.map] at start
        refine .map fun result member => ?_
        obtain ⟨entry, inside, done⟩ := exists_of_forall₂ rows member
        exact ih formed (start.2 entry inside) done.2
  | closed closed =>
    cases VarType.coerce_eq_ok_iff.mp done with
    | null | unknown => constructor
    | object turned => exact absurd (fillable_of_coerceObject turned) closed
  | object once defaults _ ih =>
    cases formed with
    | object _ formed =>
      cases VarType.coerce_eq_ok_iff.mp done with
      | null | unknown => constructor
      | object turned =>
        rw [hereditary_formed.map] at start
        obtain ⟨names, rows⟩ := (coerceObject_eq_ok_iff (Entries.get? _) once fun _ _ => rfl).mp turned
        refine .object names (forall₂_of_mem rows fun field member entry _ takes => ?_)
        unfold AttributeType.Takes at takes
        split at takes
        · rename_i given found
          exact ih field member (formed field member) (start.2 _ (Entries.mem_of_get? found)) takes
        · exact defaults field member entry.2 takes
  | tuple _ ih =>
    cases formed with
    | tuple formed =>
      cases VarType.coerce_eq_ok_iff.mp done with
      | null | unknown => constructor
      | tuple size rows =>
        rw [hereditary_formed.list] at start
        have places := List.map_fst_zip size.le
        rw [← places]
        refine .tuple (List.forall₂_map_left_iff.mpr (forall₂_of_mem rows fun row member result _ done => ?_))
        obtain ⟨place, inside⟩ := List.of_mem_zip member
        exact ih row.1 place (formed row.1 place) (start row.2 inside) done

/-- Whatever is converted to a type is of the type. -/
def VarType.Faithful (type : VarType) : Prop :=
  ∀ value result, value.Formed → type.coerce value = .ok result → type.Conforms result

theorem coerceTuple_map {types : List VarType} (given image : VarType → Value)
    (each : ∀ type ∈ types, type.coerce (given type) = .ok (image type)) :
    coerceTuple types (types.map given) = .ok (types.map image) := by
  induction types with
  | nil => rfl
  | cons type rest ih =>
    obtain ⟨first, later⟩ := List.forall_mem_cons.mp each
    rw [List.map_cons, coerceTuple, first, ih later]
    rfl

namespace AttributeType

variable {attributes : List AttributeType}

def nulls (attributes : List AttributeType) : Entries Value :=
  (attributes.map name).dedup.map fun name => (name, .null)

/-- Null for all attributes but those of a name, which are as given or left out. -/
def nullsBut (attributes : List AttributeType) (name : String) : Option Value → Entries Value
  | some given => Entries.insert (nulls attributes) name given
  | none => Entries.erase (nulls attributes) name

theorem nulls_null : ∀ entry ∈ nulls attributes, entry.2 = .null :=
  List.forall_mem_map.mpr fun _ _ => rfl

theorem nulls_formed (attributes : List AttributeType) : (map (nulls attributes)).Formed := by
  refine .map ?_ fun entry member => nulls_null entry member ▸ .null
  rw [nulls, List.map_map]
  exact (List.nodup_dedup _).map fun _ _ same => same

theorem get?_nulls {field : AttributeType} (member : field ∈ attributes) :
    Entries.get? (nulls attributes) field.name = some .null := by
  have once := ((hereditary_formed.map _).mp (nulls_formed attributes)).1
  rw [Entries.get?_eq_some_iff once]
  exact List.mem_map.mpr ⟨field.name, List.mem_dedup.mpr (List.mem_map_of_mem member), rfl⟩

theorem get?_nullsBut {field : AttributeType} (member : field ∈ attributes) (key : String)
    (found : Option Value) : Entries.get? (nullsBut attributes key found) field.name =
      if field.name == key then found else some .null := by
  cases found with
  | some given => rw [nullsBut, Entries.get?_insert, get?_nulls member]
  | none => rw [nullsBut, Entries.get?_erase, get?_nulls member]

theorem nullsBut_formed (attributes : List AttributeType) (key : String) {found : Option Value}
    (formed : ∀ given, found = some given → given.Formed) : (map (nullsBut attributes key found)).Formed := by
  have start := nulls_formed attributes
  cases found with
  | some given => exact hereditary_formed.insert start (formed given rfl)
  | none =>
    rw [hereditary_formed.map] at start ⊢
    exact ⟨start.1.sublist (List.filter_sublist.map _),
      fun entry member => start.2 entry (List.mem_of_mem_filter member)⟩

end AttributeType

namespace VarType.Faithful

variable {item : VarType} {attributes : List AttributeType} {types : List VarType}

theorem of_list (faithful : (VarType.list item).Faithful) : item.Faithful := by
  intro value result formed done
  have whole := faithful (.list [value]) (.list [result]) (.list (List.forall_mem_singleton.mpr formed))
    (coerce_eq_ok_iff.mpr (.list (.cons done .nil)))
  cases whole with
  | list each => exact each result List.mem_cons_self

theorem of_set (faithful : (VarType.set item).Faithful) : item.Faithful := by
  intro value result formed done
  have whole := faithful (.list [value]) (.list (toSet [result]))
    (.list (List.forall_mem_singleton.mpr formed)) (coerce_eq_ok_iff.mpr (.set (.cons done .nil)))
  cases whole with
  | set each _ _ => exact each result (by simp [toSet, distinct])

theorem of_map (faithful : (VarType.map item).Faithful) : item.Faithful := by
  intro value result formed done
  have whole := faithful (.map [("", value)]) (.map [("", result)])
    (.map (List.nodup_singleton _) (List.forall_mem_singleton.mpr formed))
    (coerce_eq_ok_iff.mpr (.map (.cons ⟨rfl, done⟩ .nil)))
  cases whole with
  | map each => exact each ("", result) List.mem_cons_self

open Classical in
theorem of_tuple (faithful : (VarType.tuple types).Faithful) : ∀ type ∈ types, type.Faithful := by
  intro type member value result formed done
  have each : ∀ other ∈ types, other.coerce (if other = type then value else .null) =
      .ok (if other = type then result else .null) := by
    intro other _
    split
    · rename_i same
      rw [same, done]
    · exact other.coerce_null
  have turned := coerceTuple_map (if · = type then value else .null) (if · = type then result else .null) each
  have whole := faithful _ _ (.list (List.forall_mem_map.mpr fun other _ => by
      split
      · exact formed
      · exact .null))
    (coerce_eq_ok_iff.mpr (.tuple (List.length_map _).symm (coerceTuple_eq_ok_iff.mp turned)))
  cases whole with
  | tuple each =>
    rw [List.forall₂_map_right_iff, List.forall₂_same] at each
    simpa using each type member

/-- An object type that lets a map through has no name twice, as what it makes of the map has none. -/
theorem names_once (faithful : (VarType.object attributes).Faithful)
    (formed : (VarType.object attributes).DefaultsFormed) (fillable : AttributeType.Fillable attributes) :
    (attributes.map AttributeType.name).Nodup := by
  have present : ∀ field ∈ attributes, field.default = none →
      Entries.get? (AttributeType.nulls attributes) field.name ≠ none := by
    intro field member _
    simp [AttributeType.get?_nulls member]
  obtain ⟨results, turned⟩ := exists_coerceObject [] fillable present AttributeType.nulls_null
  have start := AttributeType.nulls_formed attributes
  have done := coerce_eq_ok_iff.mpr (.object turned)
  have once := ((hereditary_formed.map _).mp (hereditary_formed.coerce formed start done)).1
  cases faithful _ _ start done with
  | object names _ => rwa [names] at once

/-- An attribute takes no value that is not of its type. -/
theorem conforms_of_takes (faithful : (VarType.object attributes).Faithful)
    (once : (attributes.map AttributeType.name).Nodup) {field : AttributeType}
    (member : field ∈ attributes) (found : Option Value) {value : Value}
    (formed : ∀ given, found = some given → given.Formed) (takes : field.Takes found value) :
    field.type.Conforms value := by
  have single : ∀ other ∈ attributes, other.name = field.name → other = field :=
    fun other inside same => List.inj_on_of_nodup_map once inside member same
  have turned : coerceObject attributes (AttributeType.nullsBut attributes field.name found) [] =
      .ok (attributes.map fun other =>
        (other.name, if other.name == field.name then value else .null)) := by
    rw [coerceObject_eq_ok_iff (fun name => if name == field.name then found else some .null) once
      fun other inside => AttributeType.get?_nullsBut inside field.name found]
    refine ⟨by simp, ?_⟩
    rw [List.forall₂_map_right_iff, List.forall₂_same]
    intro other inside
    split
    · rename_i same
      rw [single other inside (beq_iff_eq.mp same)]
      exact takes
    · exact other.type.coerce_null
  cases faithful _ _ (AttributeType.nullsBut_formed attributes _ formed) (coerce_eq_ok_iff.mpr (.object turned)) with
  | object _ each =>
    rw [List.forall₂_map_right_iff, List.forall₂_same] at each
    simpa using each field member

end VarType.Faithful

theorem VarType.Faithful.sound {type : VarType} (formed : type.DefaultsFormed) (faithful : type.Faithful) :
    type.Sound := by
  induction formed with
  | any => exact .any
  | string => exact .string
  | number => exact .number
  | bool => exact .bool
  | list _ ih => exact .list (ih faithful.of_list)
  | set _ ih => exact .set (ih faithful.of_set)
  | map _ ih => exact .map (ih faithful.of_map)
  | @object attributes here below ih =>
    by_cases fillable : AttributeType.Fillable attributes
    · have once := faithful.names_once (.object here below) fillable
      refine .object once (fun field member value absent => ?_) fun field member => ih field member ?_
      · exact faithful.conforms_of_takes once member none nofun absent
      · intro value result shape done
        refine faithful.conforms_of_takes once member (some value) ?_ done
        rintro _ ⟨⟩
        exact shape
    · exact .closed fillable
  | tuple _ ih => exact .tuple fun type member => ih type member (faithful.of_tuple type member)

/-- Whatever is converted to a type is of the type, just when every object type inside either lets no map
through or names its attributes once and with defaults of their types. -/
theorem VarType.coerce_conforms_iff {type : VarType} (formed : type.DefaultsFormed) :
    (∀ value result, value.Formed → type.coerce value = .ok result → type.Conforms result) ↔ type.Sound :=
  ⟨fun faithful => VarType.Faithful.sound formed faithful,
    fun sound _ _ start done => sound.conforms formed start done⟩

/-- An object type with an attribute that may be left out and is then null, and one with a default. -/
def VarType.disk : VarType := .object [.mk "name" .string none, .mk "size" .number (some (ofInt 10)),
  .mk "tags" (.set .string) (some .null)]

theorem VarType.coerce_conforms_of_disk : disk.DefaultsFormed ∧
    ∀ value result, value.Formed → disk.coerce value = .ok result → disk.Conforms result := by
  have formed : disk.DefaultsFormed := by
    refine .object ?_ ?_
    · have ten : (ofInt 10).Formed := .number trivial
      simp [AttributeType.default, Formed.null, ten]
    · simp [AttributeType.type, EachObject.string, EachObject.number, EachObject.set]
  refine ⟨formed, (coerce_conforms_iff formed).mpr (.object (by decide) ?_ ?_)⟩
  · simp [AttributeType.default, AttributeType.type, ofInt, Conforms.number, Conforms.null]
  · simp [AttributeType.type, Sound.string, Sound.number, Sound.set]

/-- An object type whose one attribute is a number and has a text as its default. -/
def VarType.misfit : VarType := .object [.mk "size" .number (some (.string "10"))]

/-- A default that is no number stands where the type says number. -/
theorem VarType.coerce_not_conforming :
    (∀ env, VarType.parse env (.call "object" [.object [(.name "size",
        .call "optional" [.variable "number", .string "10"] false)]] false) = .ok misfit) ∧
      misfit.coerce (.map []) = .ok (.map [("size", .string "10")]) ∧
      ¬ misfit.Conforms (.map [("size", .string "10")]) := by
  refine ⟨fun env => ?_, ?_, ?_⟩
  · have number : VarType.parse env (.variable "number") = .ok .number := by
      rw [VarType.parse]
      rfl
    have default : (Expr.string "10").eval env = .ok (.string "10") := by
      rw [Expr.eval]
    simp only [VarType.parse, parseAttributes, parseAttribute, number, default]
    rfl
  · rfl
  · intro conforms
    have apart : ¬ VarType.Conforms .number (.string "10") := by
      intro number
      cases number
    cases conforms with
    | object _ each => exact apart (List.forall₂_cons.mp each).1

end Terradoc
