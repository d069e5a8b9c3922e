import Terradoc.Pattern.Search
import Terradoc.Text.Utf8

/-! Glob patterns for relative paths. `?` and `*` stay within a name and count bytes, `**` spans
directories, brackets list characters and braces list alternatives. -/

namespace Terradoc.Glob

open Pattern

inductive Part where
  | literal (char : Char)
  | anyByte
  | anyBytes
  /-- Directories at the start, in between, and everything below at the end. -/
  | leadingDirectories
  | innerDirectories
  | everythingBelow
  | bracket (negated : Bool) (ranges : List (Char × Char))
  | options (choices : List (List Part))

/-- Puts the double star for directories after parts, in place of the slash before it. -/
def joinDirectories (atEnd : Bool) (before : List Part) : List Part :=
  match before with
  | .leadingDirectories :: rest => .leadingDirectories :: rest
  | .everythingBelow :: rest => .everythingBelow :: rest
  | _ :: rest => (if atEnd then Part.everythingBelow else .innerDirectories) :: rest
  | [] => []

/-- Parts of a double star, given those before, nearest first, and the character before it. -/
def doubleStar (inside : Bool) (previous : Option Char) (before : List Part) (rest : List Char) :
    List Part × List Char :=
  let plain := (Part.anyBytes :: .anyBytes :: before, rest)
  if before.isEmpty then
    match rest with
    | [] => ([.leadingDirectories], [])
    | '/' :: rest => ([.leadingDirectories], rest)
    | _ => plain
  else if previous != some '/' && !(inside && (previous == some ',' || previous == some '\x7b')) then
    plain
  else match rest with
    | [] => (joinDirectories true before, [])
    | '/' :: rest => (joinDirectories false before, rest)
    | ',' :: _ | '\x7d' :: _ => if inside then (joinDirectories true before, rest) else plain
    | _ => plain

/-- Ranges of a bracket up to its end. The first character stands for itself; a dash joins its
neighbours unless it ends the bracket. -/
def readRanges (first joining : Bool) (ranges : List (Char × Char)) :
    List Char → Option (List (Char × Char) × List Char)
  | [] => none
  | char :: rest =>
    if char == ']' && !first then
      some (if joining then ('-', '-') :: ranges else ranges, rest)
    else if char == '-' && !first && !joining then readRanges false true ranges rest
    else if joining then
      match ranges with
      | (low, _) :: others =>
        if low ≤ char then readRanges false false ((low, char) :: others) rest else none
      | [] => none
    else readRanges false false ((char, char) :: ranges) rest

mutual
/-- Reads parts up to the end, or inside braces up to a comma or the closing brace. -/
def readParts (inside : Bool) (previous : Option Char) (before : List Part) :
    Nat → List Char → Option (List Part × List Char)
  | 0, _ => none
  | budget + 1, text =>
    match text with
    | [] => if inside then none else some (before.reverse, [])
    | '?' :: rest => readParts inside (some '?') (.anyByte :: before) budget rest
    | '*' :: '*' :: rest =>
      let (parts, after) := doubleStar inside previous before rest
      let previous := if after.length < rest.length then some '/' else some '*'
      readParts inside previous parts budget after
    | '*' :: rest => readParts inside (some '*') (.anyBytes :: before) budget rest
    | '[' :: rest => do
      let (negated, rest) := match rest with
        | '!' :: rest | '^' :: rest => (true, rest)
        | rest => (false, rest)
      let (ranges, rest) ← readRanges true false [] rest
      readParts inside (some ']') (.bracket negated ranges :: before) budget rest
    | '\x7b' :: rest => do
      let (choices, rest) ← readChoices (some '\x7b') budget rest
      readParts inside (some '\x7d') (.options choices :: before) budget rest
    | '\x7d' :: _ => if inside then some (before.reverse, text) else none
    | ',' :: rest =>
      if inside then some (before.reverse, text)
      else readParts inside (some ',') (.literal ',' :: before) budget rest
    | '\\' :: char :: rest => readParts inside (some char) (.literal char :: before) budget rest
    | ['\\'] => none
    | char :: rest => readParts inside (some char) (.literal char :: before) budget rest

/-- Reads alternatives up to the closing brace. -/
def readChoices (previous : Option Char) : Nat → List Char → Option (List (List Part) × List Char)
  | 0, _ => none
  | budget + 1, text => do
    let (choice, rest) ← readParts true previous [] budget text
    match rest with
    | ',' :: rest =>
      let (choices, rest) ← readChoices (some ',') budget rest
      some (choice :: choices, rest)
    | '\x7d' :: rest => some ([choice], rest)
    | _ => none
end

def byteSet (byte : UInt8) : CharSet := .range byte.toNat byte.toNat

def charBytes (char : Char) : List UInt8 := Text.toBytes (String.singleton char)

/-- A character as its bytes in order. -/
def charExpression (char : Char) : Expression :=
  .sequence ((charBytes char).map fun byte => .set (byteSet byte))

/-- The bytes of a range in a bracket: each byte of both ends, and what lies between the last of
the first and the first of the last. -/
def rangeSet (range : Char × Char) : CharSet :=
  let low := charBytes range.1
  let high := charBytes range.2
  if range.1 == range.2 then .unionAll (low.map byteSet)
  else
    .unionAll (.range (low.getLastD 0).toNat (high.headD 0).toNat ::
      (low.dropLast ++ high.drop 1).map byteSet)

def anyRun (set : CharSet) : Expression := .many 0 none true (.set set)

def notSlash : CharSet := .complement (.single '/')

mutual
def Part.expression : Part → Expression
  | .literal char => charExpression char
  | .anyByte => .set notSlash
  | .anyBytes => anyRun notSlash
  | .leadingDirectories =>
    .choice [.many 0 (some 1) true (.set (.single '/')),
      .sequence [anyRun .all, .set (.single '/')]]
  | .innerDirectories =>
    .choice [.set (.single '/'),
      .sequence [.set (.single '/'), anyRun .all, .set (.single '/')]]
  | .everythingBelow => .sequence [.set (.single '/'), anyRun .all]
  | .bracket negated ranges =>
    let set := CharSet.unionAll (ranges.map rangeSet)
    .set (if negated then .complement set else set)
  | .options choices =>
    match choiceExpressions choices with
    | [] => .empty
    | expressions => .choice expressions

def partExpressions : List Part → List Expression
  | [] => []
  | part :: rest => part.expression :: partExpressions rest

/-- The expressions of alternatives; empty ones are left out. -/
def choiceExpressions : List (List Part) → List Expression
  | [] => []
  | [] :: rest => choiceExpressions rest
  | choice :: rest => .sequence (partExpressions choice) :: choiceExpressions rest
end

/-- The expression of a whole glob; one that consists of a double star alone matches everything. -/
def wholeExpression (parts : List Part) : Expression :=
  let inner := match parts with
    | [.leadingDirectories] => [anyRun .all]
    | parts => partExpressions parts
  .sequence (.look .textStart :: inner ++ [.look .textEnd])

end Terradoc.Glob

namespace Terradoc

/-- A glob that is ready for matching. -/
structure Glob where
  regex : Regex

namespace Glob

def parse? (text : String) : Option Glob := do
  let chars := text.toList
  let (parts, _) ← readParts false none [] (4 * (chars.length + 2)) chars
  let (start, program) := (wholeExpression parts).compile 0 #[.accept]
  some ⟨⟨program, start, 0, []⟩⟩

def isMatch (glob : Glob) (path : String) : Bool :=
  (glob.regex.findFrom? ((Text.toBytes path).map fun byte => Char.ofNat byte.toNat) 0).isSome

end Glob

end Terradoc
