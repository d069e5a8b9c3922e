import Terradoc.Toml.Basic

namespace Terradoc.Toml

/-- What stands under a key so far. -/
inductive Node where
  | value (value : Toml)
  /-- A table. An implicit one has no header yet; a dotted one is made by keys with dots. -/
  | table (implicit dotted : Bool) (entries : List (String × Node))
  /-- An array of tables: those that are complete, and the entries of the last one. -/
  | tables (complete : List Toml) (last : List (String × Node))

/-- Entries in the order of their keys. -/
def sortEntries (entries : Entries Toml) : Entries Toml :=
  entries.mergeSort fun left right => !(right.1 < left.1)

mutual
def Node.toToml : Node → Toml
  | .value value => value
  | .table _ _ entries => .table (sortEntries (nodesToToml entries))
  | .tables complete last => .array (complete ++ [.table (sortEntries (nodesToToml last))])

/-- The values that nodes have come to. -/
def nodesToToml : List (String × Node) → List (String × Toml)
  | [] => []
  | (key, node) :: rest => (key, node.toToml) :: nodesToToml rest
end

def tableOf (entries : Entries Node) : Toml := .table (sortEntries (nodesToToml entries))

/-- Sets a key. The keys before it lead through tables that keys with dots make or have made. -/
def assign (key : String) (value : Toml) : List String → Entries Node → Option (Entries Node)
  | [], entries => if Entries.contains entries key then none
    else some (Entries.insert entries key (.value value))
  | step :: rest, entries =>
    match Entries.get? entries step with
    | none => do
      let inner ← assign key value rest []
      some (Entries.insert entries step (.table true true inner))
    | some (.table true dotted inner) =>
      if rest.isEmpty && !dotted then none
      else do
        let inner ← assign key value rest inner
        some (Entries.insert entries step (.table true dotted inner))
    | some _ => none

/-- Changes the entries of the table at the end of a path of keys. Tables on the way are made where
they are missing, and the last table of an array stands for the array. -/
def within (edit : Entries Node → Option (Entries Node)) :
    List String → Entries Node → Option (Entries Node)
  | [], entries => edit entries
  | step :: rest, entries =>
    match Entries.get? entries step with
    | none => do
      let inner ← within edit rest []
      some (Entries.insert entries step (.table true false inner))
    | some (.table implicit dotted inner) => do
      let inner ← within edit rest inner
      some (Entries.insert entries step (.table implicit dotted inner))
    | some (.tables complete last) => do
      let last ← within edit rest last
      some (Entries.insert entries step (.tables complete last))
    | some (.value _) => none

/-- Starts the table of a header. -/
def openTable (key : String) (entries : Entries Node) : Option (Entries Node) :=
  match Entries.get? entries key with
  | none => some (Entries.insert entries key (.table false false []))
  | some (.table true false inner) => some (Entries.insert entries key (.table false false inner))
  | some _ => none

/-- Starts the next table of an array. -/
def openNext (key : String) (entries : Entries Node) : Option (Entries Node) :=
  match Entries.get? entries key with
  | none => some (Entries.insert entries key (.tables [] []))
  | some (.tables complete last) =>
    some (Entries.insert entries key (.tables (complete ++ [tableOf last]) []))
  | some _ => none

end Terradoc.Toml
