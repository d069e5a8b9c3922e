import Terradoc.Entries
import Terradoc.Number.Reading

namespace Terradoc

inductive Json where
  | null
  | bool (value : Bool)
  | number (value : Number)
  | string (value : String)
  | array (items : List Json)
  | object (entries : List (String × Json))
deriving Inhabited

namespace Json

def ofNat (value : Nat) : Json := number (.int value)

def ofStrings (values : List String) : Json := array (values.map string)

def member? (value : Json) (key : String) : Option Json :=
  match value with
  | object entries => Entries.get? entries key
  | _ => none

def text? : Json → Option String
  | string value => some value
  | _ => none

def items? : Json → Option (List Json)
  | array items => some items
  | _ => none

def entries? : Json → Option (List (String × Json))
  | object entries => some entries
  | _ => none

def bool? : Json → Option Bool
  | bool value => some value
  | _ => none

end Json

end Terradoc
