import Terradoc.Function.Format
import Terradoc.Pattern.Search
import Terradoc.Text.Case

namespace Terradoc.Functions

def onText (run : String → Except CallFault Value) : Function :=
  ⟨[.text], none, false, fun (text, ()) => run text⟩

def onTexts (run : String → String → Except CallFault Value) : Function :=
  ⟨[.text, .text], none, false, fun (first, second, ()) => run first second⟩

def ofChars (chars : List Char) : Except CallFault Value := .ok (.string (String.ofList chars))

/-- Puts the first letter of every word in upper case, given whether a word may start here. -/
def titleFrom : Bool → List Char → List Char
  | _, [] => []
  | start, char :: rest =>
    (if start && Text.isAlphabetic char then Text.upperChar char else [char]) ++
      titleFrom (!Text.isLetterOrNumeral char) rest

/-- The text between slashes that mark it as a pattern. -/
def slashed? (text : List Char) : Option (List Char) :=
  match text with
  | '/' :: rest => if rest.getLast? == some '/' then some rest.dropLast else none
  | _ => none

def replaceText (text wanted image : String) : Except CallFault Value :=
  match slashed? wanted.toList with
  | some pattern =>
    match Regex.parse? (String.ofList pattern) with
    | some regex => .ok (.string (regex.replaceAll text image))
    | none => .error .badPattern
  | none => ofChars (Text.replace wanted.toList image.toList text.toList)

/-- The part of a text from an offset on; negative offsets count from the end, and a negative length
takes all that is left. -/
def substring (text : List Char) (offset length : Int) : Except CallFault (List Char) :=
  let size : Int := text.length
  let offset := if offset < 0 then offset + size else offset
  if offset < 0 || size < offset then .error .offsetOutOfRange
  else
    let rest := text.drop offset.toNat
    .ok (if length < 0 then rest else rest.take length.toNat)

/-- Pieces of a text between separators. The empty text has one empty piece. -/
def splitText (separator text : List Char) : List (List Char) :=
  if text.isEmpty then [[]] else Text.split separator text

/-- The value of a match: the named groups, else all groups, else the whole match. -/
def matchValue (regex : Regex) (text : List Char) (found : Regex.Match) : Value :=
  let group (index : Nat) : Value :=
    match found.groups.getD (index - 1) none with
    | some place => .string (String.ofList (Regex.slice text place))
    | none => .null
  if !regex.names.isEmpty then .map (regex.names.map fun (name, index) => (name, group index))
  else if regex.groups != 0 then
    .list ((List.range regex.groups).map fun index => group (index + 1))
  else .string (String.ofList (Regex.slice text (found.start, found.stop)))

def firstMatch (pattern text : String) : Except CallFault Value :=
  match Regex.parse? pattern with
  | none => .error .badPattern
  | some regex =>
    match regex.findFrom? text.toList 0 with
    | some found => .ok (matchValue regex text.toList found)
    | none => .error .noMatch

def allMatches (pattern text : String) : Except CallFault Value :=
  match Regex.parse? pattern with
  | none => .error .badPattern
  | some regex => .ok (.list ((regex.findAll text.toList).map (matchValue regex text.toList)))

def mostSpaces : Int := 1024

/-- Puts blanks after every newline. -/
def indented (spaces : Int) (text : String) : Except CallFault Value :=
  if mostSpaces < spaces then .error (.indentTooWide spaces)
  else
    let blanks := List.replicate spaces.toNat ' '
    ofChars (Text.replace ['\n'] ('\n' :: blanks) text.toList)

/-- Texts of the items of several lists with a separator between them. -/
def joined (separator : String) (lists : List (List Value)) : Except CallFault Value := do
  let pieces ← lists.flatten.mapM textArgument
  ofChars (Text.join separator.toList (pieces.map String.toList))

def textFunctions : Entries Function := [
  ("upper", onText fun text => .ok (.string (Text.upper text))),
  ("lower", onText fun text => .ok (.string (Text.lower text))),
  ("title", onText fun text => ofChars (titleFrom true text.toList)),
  ("trim", onTexts fun text set => ofChars (Text.trimOf set.toList text.toList)),
  ("trimspace", onText fun text => .ok (.string (Text.trim text))),
  ("trimprefix", onTexts fun text start =>
    ofChars ((Text.after? start.toList text.toList).getD text.toList)),
  ("trimsuffix", onTexts fun text ending =>
    ofChars ((Text.before? ending.toList text.toList).getD text.toList)),
  ("chomp", onText fun text =>
    ofChars (text.toList.reverse.dropWhile fun char => char == '\n' || char == '\r').reverse),
  ("replace", ⟨[.text, .text, .text], none, false,
    fun (text, wanted, image, ()) => replaceText text wanted image⟩),
  ("substr", ⟨[.text, .number, .number], none, false, fun (text, offset, length, ()) => do
    let offset ← wholeArgument 1 offset
    let length ← wholeArgument 2 length
    ofChars (← substring text.toList offset length)⟩),
  ("split", onTexts fun separator text =>
    .ok (.list ((splitText separator.toList text.toList).map fun piece =>
      .string (String.ofList piece)))),
  ("join", ⟨[.text], some .list, false, fun (separator, lists) => joined separator lists⟩),
  ("format", ⟨[.text], some .any, false, fun (format, values) =>
    (formatText format values).map Value.string⟩),
  ("formatlist", ⟨[.text], some .any, false, fun (format, values) =>
    (formatRows format values).map Value.list⟩),
  ("indent", ⟨[.number, .text], none, false, fun (spaces, text, ()) => do
    indented (← wholeArgument 0 spaces) text⟩),
  ("strrev", onText fun text => ofChars text.toList.reverse),
  ("startswith", onTexts fun text start =>
    .ok (.bool (Text.after? start.toList text.toList).isSome)),
  ("endswith", onTexts fun text ending =>
    .ok (.bool (Text.before? ending.toList text.toList).isSome)),
  ("strcontains", onTexts fun text piece =>
    .ok (.bool (Text.occursIn piece.toList text.toList))),
  ("regex", onTexts firstMatch),
  ("regexall", onTexts allMatches)]

end Terradoc.Functions
