import Terradoc.Eval.Expr

namespace Terradoc

/-- Why a block cannot be replicated. -/
inductive ReplicationFault where
  | both
  | value (cause : EvalError)
  | count (display : String)
  | listItem (typeName : String)
  | collection (typeName : String)

def ReplicationFault.message : ReplicationFault → String
  | both => "cannot use both count and for_each on the same block"
  | value cause => cause.message
  | count display => "count must be a non-negative whole number, got " ++ display
  | listItem typeName => "for_each over a list requires strings, got " ++ typeName
  | collection typeName => "for_each requires a map or a set of strings, got " ++ typeName

/-- One instance of a block and the iteration that it is evaluated in. -/
structure Instance where
  key : Option InstanceKey
  each : Option (Value × Value)
  count : Option Value

namespace Instance

/-- The instance of a block that is made once. -/
def single : Instance := ⟨none, none, none⟩

def anyIndex : Instance := ⟨none, none, some (.unresolved "count.index" "index")⟩

/-- The instance of a block whose collection is not known. -/
def anyEntry : Instance :=
  ⟨none, some (.unresolved "each.key" "key", .unresolved "each.value" "value"), none⟩

def indexed (index : Nat) : Instance := ⟨some (.index index), none, some (.ofNat index)⟩

def keyed (entry : String × Value) : Instance :=
  ⟨some (.key entry.1), some (.string entry.1, entry.2), none⟩

def environment (inst : Instance) (env : Environment) : Environment :=
  { env with each := inst.each, count := inst.count }

end Instance

/-- How many instances a known value asks for. -/
def countOf? (value : Value) : Option Nat :=
  let whole := match value with
    | .number number => number.toInt?
    | .string text => (Number.parseInteger 10 (Text.trim text)).toOption
    | _ => none
  whole.bind fun whole => if 0 ≤ whole then some whole.toNat else none

def countInstances (value : Value) : Except ReplicationFault (List Instance) :=
  match value with
  | .unknown _ | .null => .ok [.anyIndex]
  | value =>
    match countOf? value with
    | some count => .ok ((List.range count).map Instance.indexed)
    | none => .error (.count value.display)

/-- An item of a list as an entry whose key and value are its text. -/
def itemEntry (item : Value) : Except ReplicationFault (String × Value) :=
  match item with
  | .string _ | .number _ | .bool _ =>
    match item.toText with
    | .ok text => .ok (text, .string text)
    | .error _ => .error (.listItem item.typeName)
  | other => .error (.listItem other.typeName)

/-- Leaves out entries whose key is that of the entry before. -/
def dropRepeats : List (String × Value) → List (String × Value)
  | [] => []
  | entry :: rest =>
    match dropRepeats rest with
    | [] => [entry]
    | next :: others => if entry.1 == next.1 then entry :: others else entry :: next :: others

/-- The entries of a collection in the order of their keys. -/
def replicationEntries (value : Value) : Except ReplicationFault (List (String × Value)) := do
  let entries ← match value with
    | .map entries => .ok entries
    | .list items => items.mapM itemEntry
    | other => .error (.collection other.typeName)
  return dropRepeats (entries.mergeSort fun left right => !(right.1 < left.1))

/-- The instances that a collection asks for. -/
def entryInstances (value : Value) : Except ReplicationFault (List Instance) :=
  match value with
  | .unknown _ | .null => .ok [.anyEntry]
  | value => (replicationEntries value).map (List.map Instance.keyed)

/-- The value that decides on the instances of a block. -/
def replicationValue (env : Environment) (expr : Expr) : Except ReplicationFault Value :=
  match expr.eval env with
  | .ok value => .ok value
  | .error cause => .error (.value cause)

def instances (body : Body) (env : Environment) : Except ReplicationFault (List Instance) :=
  match body.attribute? "count", body.attribute? "for_each" with
  | some _, some _ => .error .both
  | some count, none => do countInstances (← replicationValue env count)
  | none, some collection => do entryInstances (← replicationValue env collection)
  | none, none => .ok [.single]

end Terradoc
