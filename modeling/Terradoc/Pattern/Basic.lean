import Terradoc.Pattern.CharSet

namespace Terradoc.Pattern

/-- A condition on a place in a text. -/
inductive Look where
  | textStart
  | textEnd
  | lineStart
  | lineEnd
  /-- Start of a line that may end with carriage return, newline or both. -/
  | anyLineStart
  | anyLineEnd
  | wordBoundary (wide : Bool)
  | noWordBoundary (wide : Bool)
  | wordStart (wide : Bool)
  | wordEnd (wide : Bool)
  | wordStartHalf (wide : Bool)
  | wordEndHalf (wide : Bool)
deriving DecidableEq, Repr

/-- Whether a character is part of a word; of ASCII words alone unless `wide`. -/
def inWord (wide : Bool) : Option Char → Bool
  | some char => if wide then Text.isWordPart char else char.isAlphanum || char == '_'
  | none => false

/-- Whether a condition holds between two characters; none stands for the ends of the text. -/
def Look.holds (look : Look) (before after : Option Char) : Bool :=
  match look with
  | textStart => before.isNone
  | textEnd => after.isNone
  | lineStart => before.isNone || before == some '\n'
  | lineEnd => after.isNone || after == some '\n'
  | anyLineStart =>
    before.isNone || before == some '\n' || (before == some '\r' && after != some '\n')
  | anyLineEnd =>
    after.isNone || after == some '\r' || (after == some '\n' && before != some '\r')
  | wordBoundary wide => inWord wide before != inWord wide after
  | noWordBoundary wide => inWord wide before == inWord wide after
  | wordStart wide => !inWord wide before && inWord wide after
  | wordEnd wide => inWord wide before && !inWord wide after
  | wordStartHalf wide => !inWord wide before
  | wordEndHalf wide => !inWord wide after

inductive Expression where
  | empty
  | set (chars : CharSet)
  | look (condition : Look)
  /-- A group whose place in the text is kept under a number. -/
  | group (index : Nat) (inner : Expression)
  | sequence (parts : List Expression)
  | choice (options : List Expression)
  /-- Repetition; a greedy one goes on as long as it can. -/
  | many (least : Nat) (most : Option Nat) (greedy : Bool) (inner : Expression)

namespace Expression

mutual
/-- Whether an expression can match the empty text, as far as its form tells. -/
def mayBeEmpty : Expression → Bool
  | empty => true
  | set _ => false
  | look _ => true
  | group _ inner => mayBeEmpty inner
  | sequence parts => allMayBeEmpty parts
  | choice options => someMayBeEmpty options
  | many least _ _ inner => least == 0 || mayBeEmpty inner

/-- Whether all of several expressions can match the empty text. -/
def allMayBeEmpty : List Expression → Bool
  | [] => true
  | part :: rest => mayBeEmpty part && allMayBeEmpty rest

/-- Whether one of several expressions can match the empty text. -/
def someMayBeEmpty : List Expression → Bool
  | [] => false
  | option :: rest => mayBeEmpty option || someMayBeEmpty rest
end

mutual
/-- How much room an expression takes up when its repetitions are written out. -/
def weight : Expression → Nat
  | empty => 1
  | set chars => chars.runCount
  | look _ => 1
  | group _ inner => weight inner + 2
  | sequence parts => weightOfAll parts
  | choice options => weightOfAll options + options.length
  | many least most _ inner => (max least (most.getD 1) + 1) * (weight inner + 1)

/-- The room of several expressions. -/
def weightOfAll : List Expression → Nat
  | [] => 0
  | part :: rest => weight part + weightOfAll rest
end

end Expression

/-- A read pattern: its expression, how many groups it has beside the whole match, and the names of
the groups that have one. -/
structure Parsed where
  expression : Expression
  groups : Nat
  names : List (String × Nat)

end Terradoc.Pattern
