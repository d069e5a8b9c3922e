import Terradoc.Json.Basic

namespace Terradoc

/-- Key of one replicated instance: a count index or a collection key. -/
inductive InstanceKey where
  | index (position : Nat)
  | key (name : String)
deriving DecidableEq, Repr, Inhabited

/-- Suffix of a replicated block's path. -/
def InstanceKey.suffix : InstanceKey → String
  | index position => "[" ++ toString position ++ "]"
  | key name => "[\"" ++ name ++ "\"]"

/-- Kind of block that a target addresses. -/
inductive TargetKind where
  | resource
  | data
  | module
deriving DecidableEq, Repr, Inhabited

/-- A block addressed by an expression. -/
structure BlockTarget where
  kind : TargetKind
  /-- Resource or data type; `module` for module calls. -/
  label : String
  name : String
  key : Option InstanceKey
  label_of_module : kind = .module → label = "module"
deriving DecidableEq, Repr

namespace BlockTarget

def resource (label name : String) : BlockTarget := ⟨.resource, label, name, none, nofun⟩

def data (label name : String) : BlockTarget := ⟨.data, label, name, none, nofun⟩

def module (name : String) : BlockTarget := ⟨.module, "module", name, none, fun _ => rfl⟩

instance : Inhabited BlockTarget := ⟨module ""⟩

def reference (target : BlockTarget) : String := target.label ++ "." ++ target.name

end BlockTarget

/-- Marker of a value that is not known. -/
structure Unknown where
  /-- Address of the expression that could not be resolved. -/
  address : String
  name : String
  target : Option BlockTarget
  /-- Source of the template that interpolated the unknown. -/
  template : Option String
deriving DecidableEq, Repr, Inhabited

/-- An unknown without target and template. -/
def Unknown.plain (address name : String) : Unknown := ⟨address, name, none, none⟩

inductive Value where
  | null
  | bool (value : Bool)
  | number (value : Number)
  | string (value : String)
  | list (items : List Value)
  | map (entries : List (String × Value))
  | unknown (marker : Unknown)
deriving Inhabited

namespace Value

def ofInt (value : Int) : Value := number (.int value)

/-- A list position or size. -/
def ofNat (value : Nat) : Value := number (.int value)

/-- A double; what is not finite has no value. -/
def ofFloat (value : Float) : Value :=
  match Number.ofFloat? value with
  | some value => number value
  | none => null

def unresolved (address name : String) : Value := unknown (Unknown.plain address name)

def typeName : Value → String
  | null => "null"
  | bool _ => "bool"
  | number _ => "number"
  | string _ => "string"
  | list _ => "list"
  | map _ => "map"
  | unknown _ => "unknown"

def isUnknown : Value → Bool
  | unknown _ => true
  | _ => false

def unknown? : Value → Option Unknown
  | unknown marker => some marker
  | _ => none

def string? : Value → Option String
  | string value => some value
  | _ => none

def bool? : Value → Option Bool
  | bool value => some value
  | _ => none

def list? : Value → Option (List Value)
  | list items => some items
  | _ => none

def map? : Value → Option (List (String × Value))
  | map entries => some entries
  | _ => none

/-- The double nearest to a number. -/
def float? : Value → Option Float
  | number value => some value.toFloat
  | _ => none

/-- Whole numbers as a signed 64-bit word. -/
def int? : Value → Option Int
  | number value => value.toInt?
  | _ => none

mutual
/-- Every unknown of a value, depth first. -/
def unknowns : Value → List Unknown
  | unknown marker => [marker]
  | list items => unknownsOfItems items
  | map entries => unknownsOfEntries entries
  | _ => []

def unknownsOfItems : List Value → List Unknown
  | [] => []
  | item :: rest => unknowns item ++ unknownsOfItems rest

def unknownsOfEntries : List (String × Value) → List Unknown
  | [] => []
  | (_, value) :: rest => unknowns value ++ unknownsOfEntries rest
end

theorem unknownsOfItems_eq_nil_iff {items : List Value} :
    unknownsOfItems items = [] ↔ ∀ item ∈ items, item.unknowns = [] := by
  induction items with
  | nil => simp [unknownsOfItems]
  | cons item rest ih => rw [unknownsOfItems, List.append_eq_nil_iff, ih, List.forall_mem_cons]

theorem unknownsOfEntries_eq_nil_iff {entries : List (String × Value)} :
    unknownsOfEntries entries = [] ↔ ∀ entry ∈ entries, entry.2.unknowns = [] := by
  induction entries with
  | nil => simp [unknownsOfEntries]
  | cons entry rest ih => rw [unknownsOfEntries, List.append_eq_nil_iff, ih, List.forall_mem_cons]

def firstUnknown? (value : Value) : Option Unknown := value.unknowns.head?

/-- Why a value has no text or number. -/
inductive ConversionError where
  | nullText
  | noText (typeName : String)
deriving DecidableEq, Repr

/-- Wording of a failed conversion. -/
def ConversionError.message : ConversionError → String
  | nullText => "cannot interpolate a null value"
  | noText typeName => "cannot convert " ++ typeName ++ " to string"

/-- The text a value takes inside a template. -/
def toText : Value → Except ConversionError String
  | string value => .ok value
  | number value => .ok value.toText
  | bool value => .ok (if value then "true" else "false")
  | null => .error .nullText
  | other => .error (.noText other.typeName)

end Value

end Terradoc
