import Terradoc.Pattern.Parser
import Terradoc.Pattern.Program

/-! Searching texts for patterns. Of the matches at the leftmost place the preferred one is found:
earlier options before later ones, greedy repetitions as long as possible. -/

namespace Terradoc

structure Regex where
  program : Pattern.Program
  start : Nat
  /-- How many groups there are beside the whole match. -/
  groups : Nat
  names : List (String × Nat)

namespace Pattern

/-- Places that groups have started and ended at. -/
abbrev Slots := Array (Option Nat)

structure Thread where
  place : Nat
  slots : Slots

/-- Follows threads, the preferred first, through the instructions that take no character. A place
of the program is visited once. -/
def advance (program : Program) (before after : Option Char) (position : Nat) :
    Nat → List Thread → Array Bool → List Thread → List Thread
  | 0, _, _, done => done.reverse
  | _, [], _, done => done.reverse
  | budget + 1, thread :: rest, seen, done =>
    if seen.getD thread.place true then advance program before after position budget rest seen done
    else
      let seen := seen.setIfInBounds thread.place true
      match program.getD thread.place .accept with
      | .split first second =>
        advance program before after position budget
          (⟨first, thread.slots⟩ :: ⟨second, thread.slots⟩ :: rest) seen done
      | .save slot next =>
        advance program before after position budget
          (⟨next, thread.slots.setIfInBounds slot (some position)⟩ :: rest) seen done
      | .look condition next =>
        advance program before after position budget
          (if condition.holds before after then ⟨next, thread.slots⟩ :: rest else rest) seen done
      | .set _ _ | .accept =>
        advance program before after position budget rest seen (thread :: done)

/-- Threads that can take a character, up to the first that accepts, and the slots of that one. -/
def step (program : Program) (char : Option Char) :
    List Thread → List Thread × Option Slots
  | [] => ([], none)
  | thread :: rest =>
    match program.getD thread.place .accept with
    | .accept => ([], some thread.slots)
    | .set chars next =>
      let (threads, accepted) := step program char rest
      match char with
      | some char =>
        if chars.holds char then (⟨next, thread.slots⟩ :: threads, accepted)
        else (threads, accepted)
      | none => (threads, accepted)
    | _ => step program char rest

/-- Runs threads over the rest of a text. A new thread starts at every place until one accepts. -/
def run (program : Program) (fresh : Thread) (best : Option Slots) (pending : List Thread)
    (before : Option Char) (position : Nat) : List Char → Option Slots
  | [] =>
    let threads := if best.isSome then pending else pending ++ [fresh]
    let ready := advance program before none position (2 * program.size + 2 * threads.length + 2)
      threads (Array.replicate program.size false) []
    (step program none ready).2.or best
  | char :: rest =>
    let threads := if best.isSome then pending else pending ++ [fresh]
    let ready := advance program before (some char) position
      (2 * program.size + 2 * threads.length + 2) threads (Array.replicate program.size false) []
    let (threads, accepted) := step program (some char) ready
    let best := accepted.or best
    if threads.isEmpty && best.isSome then best
    else run program fresh best threads (some char) (position + 1) rest

end Pattern

namespace Regex

def parse? (text : String) : Option Regex :=
  (Pattern.parse? text).map fun parsed =>
    let whole := Pattern.Expression.group 0 parsed.expression
    let (start, program) := whole.compile 0 #[.accept]
    ⟨program, start, parsed.groups, parsed.names⟩

/-- Places of the whole match and of every group. -/
structure Match where
  start : Nat
  stop : Nat
  groups : List (Option (Nat × Nat))

def matchOf (regex : Regex) (slots : Pattern.Slots) : Match :=
  let place (index : Nat) : Option (Nat × Nat) := do
    let start ← (slots[2 * index]?).join
    let stop ← (slots[2 * index + 1]?).join
    some (start, stop)
  let whole := (place 0).getD (0, 0)
  ⟨whole.1, whole.2, (List.range regex.groups).map fun index => place (index + 1)⟩

/-- The first match from a place on. -/
def findFrom? (regex : Regex) (text : List Char) (start : Nat) : Option Match :=
  let before := if start = 0 then none else text[start - 1]?
  let slots : Pattern.Slots := Array.replicate (2 * regex.groups + 2) none
  (Pattern.run regex.program ⟨regex.start, slots⟩ none [] before start (text.drop start)).map
    regex.matchOf

/-- Successive matches. An empty match does not stand where the match before it ends. -/
def findAllFrom (regex : Regex) (text : List Char) : Nat → Nat → Option Nat → List Match
  | 0, _, _ => []
  | budget + 1, start, last =>
    if text.length < start then []
    else match regex.findFrom? text start with
      | none => []
      | some found =>
        if found.start = found.stop && last == some found.stop then
          findAllFrom regex text budget (start + 1) last
        else found :: findAllFrom regex text budget found.stop (some found.stop)

def findAll (regex : Regex) (text : List Char) : List Match :=
  regex.findAllFrom text (2 * text.length + 3) 0 none

/-- The part of a text between two places. -/
def slice (text : List Char) (place : Nat × Nat) : List Char :=
  (text.take place.2).drop place.1

def Match.textOf (found : Match) (text : List Char) (index : Nat) : List Char :=
  if index = 0 then slice text (found.start, found.stop)
  else ((found.groups.getD (index - 1) none).map (slice text)).getD []

/-- What a match has found for a group that is written as a number or a name. -/
def referenced (regex : Regex) (found : Match) (text name : List Char) : List Char :=
  let digits := match name with
    | '+' :: rest => rest
    | name => name
  if !digits.isEmpty && digits.all Char.isDigit then found.textOf text (Number.digitsValue digits)
  else ((regex.names.lookup (String.ofList name)).map (found.textOf text)).getD []

/-- Whether a character may stand in a group reference without braces. -/
def isReferencePart (char : Char) : Bool := char.isAlphanum || char == '_'

/-- Puts what a match has found into a replacement: a dollar sign with a number or a name stands
for a group, two for one dollar sign. The budget bounds the number of parts. -/
def expandWithin (regex : Regex) (found : Match) (text : List Char) : Nat → List Char → List Char
  | 0, _ | _, [] => []
  | budget + 1, '$' :: '$' :: rest => '$' :: expandWithin regex found text budget rest
  | budget + 1, '$' :: '\x7b' :: rest =>
    match rest.dropWhile (· != '\x7d') with
    | _ :: after =>
      regex.referenced found text (rest.takeWhile (· != '\x7d')) ++
        expandWithin regex found text budget after
    | [] => '$' :: expandWithin regex found text budget ('\x7b' :: rest)
  | budget + 1, '$' :: rest =>
    let name := rest.takeWhile isReferencePart
    if name.isEmpty then '$' :: expandWithin regex found text budget rest
    else
      regex.referenced found text name ++
        expandWithin regex found text budget (rest.dropWhile isReferencePart)
  | budget + 1, char :: rest => char :: expandWithin regex found text budget rest

def replaceMatches (regex : Regex) (text replacement : List Char) (place : Nat) :
    List Match → List Char
  | [] => text.drop place
  | found :: rest =>
    slice text (place, found.start) ++
      regex.expandWithin found text replacement.length replacement ++
      replaceMatches regex text replacement found.stop rest

def replaceAll (regex : Regex) (text replacement : String) : String :=
  let chars := text.toList
  String.ofList (regex.replaceMatches chars replacement.toList 0 (regex.findAll chars))

end Regex

end Terradoc
