import Terradoc.Text.Case
import Terradoc.Text.Category
import Terradoc.Text.Letter
import Terradoc.Text.Script

namespace Terradoc.Pattern

/-- A named property of characters. -/
inductive Property where
  | word
  | digit
  | blank
  | alphabetic
  | uppercase
  | lowercase
  | categories (names : List String)
  | script (name : String)
deriving DecidableEq, Repr

/-- Whether a character has a case mapping to one other character, in the direction of a table. -/
def isCased (inDirection : Char → List Char) (char : Char) : Bool := inDirection char != [char]

namespace Property

def holds : Property → Char → Bool
  | word, char => Text.isWordPart char
  | digit, char => Text.isDecimalDigit char
  | blank, char => Text.isBlank char
  | alphabetic, char => Text.isAlphabetic char
  | uppercase, char =>
    Text.inCategory ["Lu"] char || (Text.inCategory ["Nl", "So"] char && isCased Text.lowerChar char)
  | lowercase, char =>
    Text.inCategory ["Ll"] char || (Text.inCategory ["Nl", "So"] char && isCased Text.upperChar char)
  | categories names, char => Text.inCategory names char
  | script name, char =>
    match Text.scriptRuns.lookup name with
    | some runs => Text.inRuns runs char
    | none => false

/-- How many runs of characters have a property, as a measure of its size. -/
def runCount : Property → Nat
  | word | alphabetic => 750
  | digit => 64
  | blank => 10
  | uppercase | lowercase => 650
  | categories names => (Text.categoryRuns.filter fun run =>
      names.any fun name => run.category == name ||
        (name.length == 1 && run.category.startsWith name)).length
  | script name => ((Text.scriptRuns.lookup name).map List.length).getD 0

end Property

inductive CharSet where
  /-- Code points between two, both included. -/
  | range (low high : Nat)
  | property (named : Property)
  | union (left right : CharSet)
  | meet (left right : CharSet)
  | complement (set : CharSet)
  /-- All characters that differ from a member in case only; of ASCII letters alone unless
  `wide`. -/
  | folded (wide : Bool) (set : CharSet)
deriving DecidableEq, Repr

/-- One character that stands for all that differ from it in case only. -/
def caseFold (char : Char) : Char :=
  let upper := match Text.upperChar char with
    | [image] => image
    | _ => char
  match Text.lowerChar upper with
  | [image] => image
  | _ => upper

/-- Characters that differ from a character in case only, the character included. -/
def caseVariants (char : Char) : List Char :=
  let fold := caseFold char
  let same (entry : Text.CaseEntry) : Option Char :=
    let other := Char.ofNat entry.code
    if caseFold other == fold then some other else none
  char :: fold :: fold.toUpper :: Text.upperEntries.filterMap same ++ Text.lowerEntries.filterMap same

/-- An ASCII letter in both cases; of another character itself. -/
def asciiVariants (char : Char) : List Char := [char, char.toLower, char.toUpper]

namespace CharSet

def single (char : Char) : CharSet := range char.toNat char.toNat

def none : CharSet := range 1 0

def all : CharSet := range 0 0x10FFFF

def unionAll (sets : List CharSet) : CharSet :=
  match sets with
  | [] => none
  | first :: rest => rest.foldl union first

def holds : CharSet → Char → Bool
  | range low high, char => low ≤ char.toNat && char.toNat ≤ high
  | property named, char => named.holds char
  | union left right, char => holds left char || holds right char
  | meet left right, char => holds left char && holds right char
  | complement set, char => !holds set char
  | folded wide set, char =>
    (if wide then caseVariants char else asciiVariants char).any fun other => holds set other

/-- How many runs a set has at most, as a measure of its size. -/
def runCount : CharSet → Nat
  | range _ _ => 1
  | property named => named.runCount
  | union left right => runCount left + runCount right
  | meet left right => max (runCount left) (runCount right)
  | complement set => runCount set + 1
  | folded _ set => 2 * runCount set

/-- Whether a set holds ASCII characters alone, as far as its form tells. -/
def isAscii : CharSet → Bool
  | range _ high => high < 128
  | property _ => false
  | union left right => isAscii left && isAscii right
  | meet left right => isAscii left || isAscii right
  | complement _ => false
  | folded wide set => !wide && isAscii set

end CharSet

end Terradoc.Pattern
