import Terradoc.Json.Printer
import Terradoc.Value.Basic

namespace Terradoc

/-- Object that stands for an unknown which is a whole attribute. -/
def Unknown.toJson (marker : Unknown) : Json :=
  match marker.template with
  | some template => .string template
  | none =>
    let base := [("__attribute__", Json.string marker.address), ("__name__", Json.string marker.name)]
    match marker.target with
    | none => .object base
    | some target =>
      .object (base ++ [("__ref__", .string target.reference), ("__type__", .string target.label)])

namespace Value

mutual
/-- JSON form of a value inside a collection. -/
def toJson : Value → Json
  | null => .null
  | bool value => .bool value
  | number value => .number value
  | string value => .string value
  | list items => .array (itemsToJson items)
  | map entries => .object (entriesToJson entries)
  | unknown marker => match marker.template with
    | some template => .string template
    | none => .null

def itemsToJson : List Value → List Json
  | [] => []
  | item :: rest => toJson item :: itemsToJson rest

def entriesToJson : List (String × Value) → List (String × Json)
  | [] => []
  | (key, value) :: rest => (key, toJson value) :: entriesToJson rest
end

/-- JSON form of a whole attribute. -/
def toAttributeJson : Value → Json
  | unknown marker => marker.toJson
  | other => other.toJson

/-- A JSON number: a double that is whole becomes an integer. -/
def ofJsonNumber : Number → Value
  | .int value => ofInt value
  | .float value => ofFloat value

mutual
def ofJson : Json → Value
  | .null => null
  | .bool value => bool value
  | .number value => ofJsonNumber value
  | .string value => string value
  | .array items => list (itemsOfJson items)
  | .object entries => map (entriesOfJson entries)

def itemsOfJson : List Json → List Value
  | [] => []
  | item :: rest => ofJson item :: itemsOfJson rest

def entriesOfJson : List (String × Json) → List (String × Value)
  | [] => []
  | (key, value) :: rest => (key, ofJson value) :: entriesOfJson rest
end

/-- Text shown for a value: strings as they are, collections as JSON. -/
def display : Value → String
  | string value => value
  | unknown marker => "<unknown " ++ marker.address ++ ">"
  | other => other.toJson.compact

end Value

end Terradoc
