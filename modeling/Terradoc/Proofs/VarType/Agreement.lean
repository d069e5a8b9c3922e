import Terradoc.Proofs.Function.Call
import Terradoc.Proofs.VarType.Conversion

namespace Terradoc

namespace VarType

@[simp] theorem coerce_any (value : Value) : any.coerce value = .ok value :=
  coerce_eq_ok_iff.mpr (.any value)

@[simp] theorem coerce_list_any (items : List Value) : (list any).coerce (.list items) = .ok (.list items) :=
  coerce_eq_ok_iff.mpr (.list (List.forall₂_same.mpr fun item _ => coerce_any item))

@[simp] theorem coerce_set_any (items : List Value) :
    (set any).coerce (.list items) = .ok (.list (Value.toSet items)) :=
  coerce_eq_ok_iff.mpr (.set (List.forall₂_same.mpr fun item _ => coerce_any item))

@[simp] theorem coerce_map_any (entries : Entries Value) : (map any).coerce (.map entries) = .ok (.map entries) :=
  coerce_eq_ok_iff.mpr (.map (List.forall₂_same.mpr fun entry _ => ⟨rfl, coerce_any entry.2⟩))

end VarType

/-- An outcome is what a type makes of a value: where one of them fails so does the other, and else both give
the same. -/
def VarType.Agrees {ε : Type} (type : VarType) (value : Value) (outcome : Except ε Value) : Prop :=
  ∀ result, outcome = .ok result ↔ type.coerce value = .ok result

def conversionTypes : Entries VarType := [
  ("tostring", .string), ("tonumber", .number), ("tobool", .bool), ("tolist", .list .any),
  ("toset", .set .any), ("tomap", .map .any)]

namespace Functions

variable {value : Value} (known : value.isUnknown = false)

include known

theorem toText_agrees : VarType.string.Agrees value (toText value) := by
  intro result
  cases value with
  | unknown => cases known
  | _ => simp [toText, textArgument, Value.toText, VarType.coerce, Except.map]

theorem toNumber_agrees : VarType.number.Agrees value (toNumber value) := by
  intro result
  cases value with
  | unknown => cases known
  | string text =>
    rw [toNumber, VarType.coerce]
    cases Number.parseFloat? (Text.trim text) <;> simp
  | _ => simp [toNumber, VarType.coerce]

theorem toBool_agrees : VarType.bool.Agrees value (toBool value) := by
  intro result
  cases value with
  | unknown => cases known
  | string text =>
    rw [toBool, VarType.coerce]
    split
    · simp
    · split <;> simp
  | _ => simp [toBool, VarType.coerce]

theorem toList_agrees : (VarType.list .any).Agrees value (toList value) := by
  intro result
  cases value with
  | unknown => cases known
  | list items => simp [toList]
  | _ => simp [toList, VarType.coerce]

theorem toSet_agrees : (VarType.set .any).Agrees value (toSet value) := by
  intro result
  cases value with
  | unknown => cases known
  | list items => simp [toSet]
  | _ => simp [toSet, VarType.coerce]

theorem toMap_agrees : (VarType.map .any).Agrees value (toMap value) := by
  intro result
  cases value with
  | unknown => cases known
  | map entries => simp [toMap]
  | _ => simp [toMap, VarType.coerce]

end Functions

section Calls

variable {host : Host} {root : Path} {depth : Nat} {value : Value}

theorem functionTable_agrees (known : value.unknowns = []) {row : String × VarType}
    (among : row ∈ conversionTypes) : row.2.Agrees value (functionTable host root depth row.1 [value]) := by
  have whole : value.isUnknown = false := by
    cases value with
    | unknown => cases known
    | _ => rfl
  intro result
  simp only [conversionTypes, List.mem_cons, List.not_mem_nil, or_false] at among
  rcases among with rfl | rfl | rfl | rfl | rfl | rfl <;>
    refine (functionTable_onValue (fun _ => rfl) known).trans ?_
  · exact Functions.toText_agrees whole result
  · exact Functions.toNumber_agrees whole result
  · exact Functions.toBool_agrees whole result
  · exact Functions.toList_agrees whole result
  · exact Functions.toSet_agrees whole result
  · exact Functions.toMap_agrees whole result

end Calls

namespace Param

/-- The type that a parameter converts its arguments to. -/
def type : Param → VarType
  | any => .any
  | text => .string
  | number => .number
  | bool => .bool
  | list => .list .any
  | map => .map .any

/-- What an accepted argument holds, as a value. -/
def held : (param : Param) → param.Carrier → Value
  | any, value => value
  | text, value => .string value
  | number, value => (value.map Value.number).getD .null
  | bool, value => .bool value
  | list, items => .list items
  | map, entries => .map entries

/-- A parameter takes values, other than null, as its type does. -/
theorem accept_agrees {value : Value} (given : value ≠ .null) (known : value.isUnknown = false) (param : Param)
    (index : Nat) : param.type.Agrees value ((param.accept index value).map param.held) := by
  intro result
  cases value with
  | unknown => cases known
  | null => exact absurd rfl given
  | string text =>
    cases param with
    | number =>
      rw [accept, type, VarType.coerce]
      cases Number.parseFloat? (Text.trim text) with
      | none => simp [Except.map]
      | some number =>
        simp only [Except.map, held, Value.ofFloat]
        cases Number.ofFloat? number <;> simp
    | bool =>
      rw [accept, type, VarType.coerce]
      split
      · simp [Except.map, held]
      · split <;> simp [Except.map, held]
    | _ => simp [accept, type, VarType.coerce, Except.map, held]
  | bool truth =>
    cases truth <;> cases param <;> simp [accept, type, VarType.coerce, Except.map, held]
  | number | list | map =>
    cases param <;> simp [accept, type, VarType.coerce, Except.map, held]

end Param

/-- Known values are converted alike by the conversion functions and by the types, and arguments other than null
alike by the parameters of functions and by the types. -/
theorem conversions_agree (host : Host) (root : Path) (depth : Nat) (value : Value) :
    (value.unknowns = [] → ∀ row ∈ conversionTypes,
      row.2.Agrees value (functionTable host root depth row.1 [value])) ∧
    (value ≠ .null → value.isUnknown = false → ∀ (param : Param) (index : Nat),
      param.type.Agrees value ((param.accept index value).map param.held)) :=
  ⟨fun known _ among => functionTable_agrees known among, Param.accept_agrees⟩

/-- An infinity that is written as text, with blanks around it, is null in all three ways. -/
theorem conversions_agree_of_infinity :
    let value := Value.string " -inf "
    value.unknowns = [] ∧ value ≠ .null ∧ value.isUnknown = false ∧
      functionTable ⟨.directory [], ⟨"/"⟩, "/", ⟨"/tmp"⟩⟩ ⟨"/"⟩ 0 "tonumber" [value] = .ok .null ∧
      (Param.number.accept 0 value).map Param.number.held = .ok .null := by
  intro value
  have given : value ≠ .null := nofun
  obtain ⟨functions, parameters⟩ :=
    conversions_agree ⟨.directory [], ⟨"/"⟩, "/", ⟨"/tmp"⟩⟩ ⟨"/"⟩ 0 value
  have null : VarType.number.coerce value = .ok .null := by rfl
  have among : ("tonumber", VarType.number) ∈ conversionTypes := by simp [conversionTypes]
  exact ⟨rfl, given, rfl, (functions rfl _ among .null).mpr null,
    (parameters given rfl .number 0 .null).mpr null⟩

end Terradoc
