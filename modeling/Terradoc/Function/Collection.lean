import Terradoc.Function.Basic
import Terradoc.Value.Order

namespace Terradoc.Functions

/-- A function of one list that holds no unknowns. -/
def onList (run : List Value → Except CallFault Value) : Function :=
  ⟨[.list], none, false, fun (items, ()) => run items⟩

/-- A function of one list that may hold unknowns. -/
def onOpenList (run : List Value → Except CallFault Value) : Function :=
  ⟨[.list], none, true, fun (items, ()) => run items⟩

def ofItems (items : List Value) : Except CallFault Value := .ok (.list items)

/-- How many characters, items or entries a value has. -/
def lengthOf : Value → Except CallFault Value
  | .list items => .ok (.ofNat items.length)
  | .map entries => .ok (.ofNat entries.length)
  | .string text => .ok (.ofNat text.length)
  | other => .error (.noLength other.typeName)

mutual
def leaves : Value → List Value
  | .list items => leavesOf items
  | other => [other]

/-- The items of several values that are no lists, in order. -/
def leavesOf : List Value → List Value
  | [] => []
  | item :: rest => leaves item ++ leavesOf rest
end

/-- The items between two positions. -/
def slice (items : List Value) (start stop : Int) : Except CallFault Value :=
  if start < 0 || stop < start || (items.length : Int) < stop then
    .error (.sliceBounds start stop)
  else ofItems ((items.take stop.toNat).drop start.toNat)

def sorted (items : List Value) : Except CallFault Value := do
  let texts ← items.mapM textArgument
  ofItems ((texts.mergeSort fun left right => !(right < left)).map Value.string)

def indexOf (items : List Value) (wanted : Value) : Except CallFault Value :=
  match items.findIdx? (Value.equal · wanted) with
  | some position => .ok (.ofNat position)
  | none => .error .itemNotFound

/-- The item at a position; positions past the end start over. -/
def element (items : List Value) (position : Option Number) : Except CallFault Value :=
  if items.isEmpty then .error .elementOfEmpty
  else do
    let position ← wholeArgument 1 position
    if position < 0 then .error .negativeIndex
    else .ok (items.getD (position.toNat % items.length) .null)

def byKey (entries : Entries Value) : Entries Value :=
  entries.mergeSort fun left right => !(right.1 < left.1)

/-- The value under a key, or a default. -/
def lookup (entries : Entries Value) (key : String) (others : List Value) :
    Except CallFault Value :=
  match Entries.get? entries key, others with
  | some value, _ => .ok value
  | none, default :: _ => .ok default
  | none, [] => .error (.keyNotFound key)

/-- Puts the entries of maps together; later ones replace earlier ones, and nulls count for
nothing. -/
def merge (before : Entries Value) : List Value → Except CallFault (Entries Value)
  | [] => .ok before
  | .map entries :: rest => merge (Entries.insertAll before entries) rest
  | .null :: rest => merge before rest
  | other :: _ => .error (.mergeArgument other.typeName)

def zipmap (keys values : List Value) : Except CallFault Value :=
  if keys.length != values.length then .error .zipmapLengths
  else do
    let keys ← keys.mapM textArgument
    .ok (.map (Entries.ofList (keys.zip values)))

/-- Numbers from a start to a stop, at most so many. -/
def rangeFrom (stop step : Float) : Nat → Float → Except CallFault (List Value)
  | room, current =>
    if (0.0 < step && current < stop) || (step < 0.0 && stop < current) then
      match room with
      | 0 => .error .rangeTooLong
      | room + 1 => (rangeFrom stop step room (current + step)).map (Value.ofFloat current :: ·)
    else .ok []

def longestRange : Nat := 1024

def stepRange (start stop step : Float) : Except CallFault Value :=
  if step == 0.0 then .error .zeroStep
  else (rangeFrom stop step longestRange start).map Value.list

/-- The range of one to three numbers: the stop; start and stop; start, stop and step. -/
def range (numbers : List (Option Number)) : Except CallFault Value :=
  match numbers with
  | [stop] => do stepRange 0.0 (← floatArgument 0 stop) 1.0
  | [start, stop] => do stepRange (← floatArgument 0 start) (← floatArgument 1 stop) 1.0
  | [start, stop, step] => do
    stepRange (← floatArgument 0 start) (← floatArgument 1 stop) (← floatArgument 2 step)
  | numbers => .error (.rangeArguments numbers.length)

def isBlank : Value → Bool
  | .null => true
  | .string text => text == ""
  | _ => false

/-- Cuts a list into pieces of a size; the budget bounds their number. -/
def chunks (size : Nat) : Nat → List Value → List Value
  | 0, _ | _, [] => []
  | budget + 1, items => .list (items.take size) :: chunks size budget (items.drop size)

/-- Cuts a list into pieces of a size; size zero leaves it whole. -/
def chunked (items : List Value) (size : Int) : Except CallFault Value :=
  if size < 0 then .error .negativeChunk
  else if size = 0 then ofItems [.list items]
  else ofItems (chunks size.toNat items.length items)

def holds (items : List Value) (wanted : Value) : Bool := items.any (Value.equal · wanted)

/-- Elements of the first set that are in all others. -/
def intersection (first : List Value) (rest : List (List Value)) : List Value :=
  (Value.toSet first).filter fun item =>
    rest.all fun other => (Value.toSet other).any (Value.equal item ·)

def isTrue : Value → Bool
  | .bool value => value
  | .string text => text == "true"
  | _ => false

def sumFrom : Float → List Value → Except CallFault Value
  | total, [] => .ok (.ofFloat total)
  | total, item :: rest =>
    match item.float? with
    | some value => sumFrom (total + value) rest
    | none => .error .sumOfOthers

def collectionFunctions : Entries Function := [
  ("length", ⟨[.any], none, true, fun (value, ()) => lengthOf value⟩),
  ("concat", ⟨[], some .list, true, fun lists => ofItems (List.flatten lists)⟩),
  ("flatten", onOpenList fun items => ofItems (leavesOf items)),
  ("distinct", onList fun items => ofItems (Value.distinct items)),
  ("slice", ⟨[.list, .number, .number], none, true, fun (items, start, stop, ()) => do
    slice items (← wholeArgument 1 start) (← wholeArgument 2 stop)⟩),
  ("sort", onList sorted),
  ("reverse", onOpenList fun items => ofItems items.reverse),
  ("index", ⟨[.list, .any], none, false, fun (items, wanted, ()) => indexOf items wanted⟩),
  ("element", ⟨[.list, .number], none, true, fun (items, position, ()) =>
    element items position⟩),
  ("contains", ⟨[.list, .any], none, false, fun (items, wanted, ()) =>
    .ok (.bool (holds items wanted))⟩),
  ("keys", ⟨[.map], none, true, fun (entries, ()) =>
    ofItems ((byKey entries).map fun entry => .string entry.1)⟩),
  ("values", ⟨[.map], none, true, fun (entries, ()) =>
    ofItems ((byKey entries).map (·.2))⟩),
  ("lookup", ⟨[.map, .text], some .any, true, fun (entries, key, others) =>
    lookup entries key others⟩),
  ("merge", ⟨[], some .any, true, fun values => (merge [] values).map Value.map⟩),
  ("zipmap", ⟨[.list, .list], none, true, fun (keys, values, ()) => zipmap keys values⟩),
  ("range", ⟨[], some .number, false, fun numbers => range numbers⟩),
  ("compact", onList fun items => ofItems (items.filter (!isBlank ·))),
  ("coalesce", ⟨[], some .any, true, fun values =>
    match List.find? (!isBlank ·) values with
    | some value => .ok value
    | none => .error .nothingToCoalesce⟩),
  ("coalescelist", ⟨[], some .list, true, fun lists =>
    match List.find? (!List.isEmpty ·) lists with
    | some items => ofItems items
    | none => .error .onlyEmptyLists⟩),
  ("chunklist", ⟨[.list, .number], none, true, fun (items, size, ()) => do
    chunked items (← wholeArgument 1 size)⟩),
  ("setunion", ⟨[], some .list, false, fun lists =>
    ofItems (Value.toSet (List.flatMap Value.toSet lists))⟩),
  ("setintersection", ⟨[.list], some .list, false, fun (first, rest) =>
    ofItems (intersection first rest)⟩),
  ("setsubtract", ⟨[.list, .list], none, false, fun (left, right, ()) =>
    ofItems ((Value.toSet left).filter fun item => !right.any (Value.equal item ·))⟩),
  ("one", onOpenList fun
    | [] => .ok .null
    | [only] => .ok only
    | _ => .error .moreThanOne),
  ("alltrue", onList fun items => .ok (.bool (items.all isTrue))),
  ("anytrue", onList fun items => .ok (.bool (items.any isTrue))),
  ("sum", onList fun items => if items.isEmpty then .error .sumOfNothing else sumFrom 0.0 items)]

end Terradoc.Functions
