import Terradoc.Proofs.VarType.Conformance

/-! Converting twice. A known value that is of a type already is left as it is, and what is converted is of
the type where defaults are, so that a second conversion to the same type changes nothing. -/

namespace Terradoc

open Value

abbrev AttributeType.NamesOnce (attributes : List AttributeType) : Prop :=
  (attributes.map AttributeType.name).Nodup

/-- Each attribute has a name of its own, and conversion to its type leaves its default as it is. -/
structure AttributeType.Settled (attributes : List AttributeType) : Prop where
  once : NamesOnce attributes
  plain : ∀ field ∈ attributes, ∀ value, field.default = some value → value.Plain
  fixed : ∀ field ∈ attributes, ∀ value, field.default = some value → field.type.coerce value = .ok value

namespace VarType

private theorem zip_rows {types : List VarType} {items : List Value}
    (each : List.Forall₂ (fun type item => type.coerce item = .ok item) types items) :
    List.Forall₂ (fun row result => row.1.coerce row.2 = .ok result) (types.zip items) items := by
  induction each with
  | nil => exact .nil
  | cons head _ ih => exact .cons head ih

/-- A known value of a type is left as it is. -/
theorem coerce_of_conforms {type : VarType} (once : type.EachObject AttributeType.NamesOnce) {value : Value}
    (plain : value.Plain) (conforms : type.Conforms value) : type.coerce value = .ok value := by
  rw [coerce_eq_ok_iff]
  induction once generalizing value with
  | any => exact .any value
  | string =>
    cases conforms <;> constructor
  | number =>
    cases conforms <;> constructor
  | bool =>
    cases conforms <;> constructor
  | list _ ih =>
    cases conforms with
    | null | unknown => constructor
    | list each =>
      rw [hereditary_plain.list] at plain
      refine .list (List.forall₂_same.mpr fun value member => ?_)
      exact coerce_eq_ok_iff.mpr (ih (plain value member) (each value member))
  | set _ ih =>
    cases conforms with
    | null | unknown => constructor
    | set each apart sorted =>
      rw [hereditary_plain.list] at plain
      have same := toSet_eq_self (forall_formed plain) (fun value member => (plain value member).known)
        (apart.imp fun differ => differ.1) sorted
      have converts := Converts.set (List.forall₂_same.mpr fun value member =>
        coerce_eq_ok_iff.mpr (ih (plain value member) (each value member)))
      rwa [same] at converts
  | map _ ih =>
    cases conforms with
    | null | unknown => constructor
    | map each =>
      rw [hereditary_plain.map] at plain
      refine .map (List.forall₂_same.mpr fun entry member => ⟨rfl, ?_⟩)
      exact coerce_eq_ok_iff.mpr (ih (plain.2 entry member) (each entry member))
  | object once _ ih =>
    cases conforms with
    | null | unknown => constructor
    | @object attributes entries names each =>
      rw [hereditary_plain.map] at plain
      have rows := forall₂_and (map_eq_map_iff_forall₂.mp names.symm) each
      refine .object ((coerceObject_eq_ok_iff (Entries.get? entries) once fun _ _ => rfl).mpr
        ⟨names, forall₂_of_mem rows fun field member entry inside row => ?_⟩)
      rw [row.1, (Entries.get?_eq_some_iff plain.1).mpr inside]
      exact coerce_eq_ok_iff.mpr (ih field member (plain.2 entry inside) row.2)
  | tuple _ ih =>
    cases conforms with
    | null | unknown => constructor
    | @tuple types items each =>
      rw [hereditary_plain.list] at plain
      refine .tuple each.length_eq (zip_rows (forall₂_of_mem each fun type member item inside conforms => ?_))
      exact coerce_eq_ok_iff.mpr (ih type member (plain item inside) conforms)

theorem EachObject.defaultsFormed {type : VarType} (settled : type.EachObject AttributeType.Settled) :
    type.DefaultsFormed :=
  settled.imp fun _ here field member value absent => (here.plain field member value absent).formed

theorem EachObject.sound {type : VarType} (settled : type.EachObject AttributeType.Settled) :
    type.Sound := by
  induction settled with
  | any => exact .any
  | string => exact .string
  | number => exact .number
  | bool => exact .bool
  | list _ ih => exact .list ih
  | set _ ih => exact .set ih
  | map _ ih => exact .map ih
  | object here below ih =>
    refine .object here.once (fun field member value absent => ?_) ih
    exact (ih field member).conforms (below field member).defaultsFormed
      (here.plain field member value absent).formed (here.fixed field member value absent)
  | tuple _ ih => exact .tuple ih

/-- Where conversion leaves the defaults of a type as they are, it leaves what it has converted as it is. -/
theorem coerce_idempotent {type : VarType} (settled : type.EachObject AttributeType.Settled)
    {value result : Value} (plain : value.Plain) (done : type.coerce value = .ok result) :
    type.coerce result = .ok result := by
  have conforms := settled.sound.conforms settled.defaultsFormed plain.formed done
  have plain' := hereditary_plain.coerce (settled.imp fun _ here => here.plain) plain done
  exact coerce_of_conforms (settled.imp fun _ here => here.once) plain' conforms

/-- What a caller gives for a disk. -/
def diskGiven : Value := .map [("name", ofInt 7), ("tags", .list [.string "b", .string "a"])]

/-- The disk that it makes: a text, the default, and a set. -/
def diskMade : Value :=
  .map [("name", .string "7"), ("size", ofInt 10), ("tags", .list [.string "a", .string "b"])]

theorem coerce_idempotent_of_disk : disk.EachObject AttributeType.Settled ∧ diskGiven.Plain ∧
    disk.coerce diskGiven = .ok diskMade ∧ disk.coerce diskMade = .ok diskMade := by
  have number (value : Int) : (ofInt value).Plain := ⟨.number trivial, rfl⟩
  have settled : disk.EachObject AttributeType.Settled := by
    refine .object ⟨by decide, ?_, ?_⟩ ?_
    · simp [AttributeType.default, number, hereditary_plain.null]
    · simp [AttributeType.default, AttributeType.type]
      rfl
    · simp [AttributeType.type, EachObject.string, EachObject.number, EachObject.set]
  have plain : diskGiven.Plain := by
    rw [diskGiven, hereditary_plain.map]
    refine ⟨by decide, ?_⟩
    simp [number, hereditary_plain.list, hereditary_plain.string]
  have done : disk.coerce diskGiven = .ok diskMade := by
    have tags : toSet [.string "b", .string "a"] = [.string "a", .string "b"] := toSet_pair rfl
    rw [diskMade, ← tags]
    rfl
  exact ⟨settled, plain, done, coerce_idempotent settled plain done⟩

end VarType

end Terradoc
