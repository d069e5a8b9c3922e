import Terradoc.Json.Basic

namespace Terradoc

/-- A value. The keys of tables are in order. -/
inductive Toml where
  | string (value : String)
  | integer (value : Int)
  | float (value : Float)
  | boolean (value : Bool)
  /-- A date, a time or both. -/
  | moment (text : String)
  | array (items : List Toml)
  | table (entries : List (String × Toml))
deriving Inhabited

namespace Toml

/-- The key under which a moment stands where only tables can be. -/
def momentKey : String := "$__toml_private_datetime"

def entries? : Toml → Option (Entries Toml)
  | table entries => some entries
  | moment text => some [(momentKey, string text)]
  | _ => none

def string? : Toml → Option String
  | string value => some value
  | _ => none

def boolean? : Toml → Option Bool
  | boolean value => some value
  | _ => none

def items? : Toml → Option (List Toml)
  | array items => some items
  | _ => none

mutual
/-- JSON form of a value. Integers outside of the signed 64-bit range have none, and doubles that are
not finite become null. -/
def toJson? : Toml → Option Json
  | string value => some (.string value)
  | integer value =>
    if Number.minWord ≤ value && value ≤ Number.maxWord then some (.number (.int value)) else none
  | float value => some (if value.isFinite then .number (.float value) else .null)
  | boolean value => some (.bool value)
  | moment text => some (.object [(momentKey, .string text)])
  | array items => (itemsToJson? items).map Json.array
  | table entries => (entriesToJson? entries).map Json.object

def itemsToJson? : List Toml → Option (List Json)
  | [] => some []
  | item :: rest => do
    let first ← item.toJson?
    let others ← itemsToJson? rest
    some (first :: others)

def entriesToJson? : List (String × Toml) → Option (List (String × Json))
  | [] => some []
  | (key, value) :: rest => do
    let first ← value.toJson?
    let others ← entriesToJson? rest
    some ((key, first) :: others)
end

end Toml

end Terradoc
