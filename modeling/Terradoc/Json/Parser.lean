import Terradoc.Json.Basic

namespace Terradoc.Json

/-- Nesting deeper than this is refused. -/
def depthLimit : Nat := 127

def skipBlanks (text : List Char) : List Char :=
  text.dropWhile fun char => char == ' ' || char == '\n' || char == '\t' || char == '\r'

def hexDigit? (digit : Char) : Option Nat := Number.digitIn? 16 digit

/-- Value of the next four hexadecimal digits. -/
def readQuad : List Char → Option (Nat × List Char)
  | a :: b :: c :: d :: rest => do
    let a ← hexDigit? a
    let b ← hexDigit? b
    let c ← hexDigit? c
    let d ← hexDigit? d
    some (((a * 16 + b) * 16 + c) * 16 + d, rest)
  | _ => none

/-- The character written by an escape, after its backslash. Surrogates must come in pairs. -/
def readEscape : List Char → Option (Char × List Char)
  | '"' :: rest => some ('"', rest)
  | '\\' :: rest => some ('\\', rest)
  | '/' :: rest => some ('/', rest)
  | 'b' :: rest => some ('\x08', rest)
  | 'f' :: rest => some ('\x0c', rest)
  | 'n' :: rest => some ('\n', rest)
  | 'r' :: rest => some ('\r', rest)
  | 't' :: rest => some ('\t', rest)
  | 'u' :: rest => do
    let (code, rest) ← readQuad rest
    if 0xDC00 ≤ code && code < 0xE000 then none
    else if 0xD800 ≤ code && code < 0xDC00 then
      match rest with
      | '\\' :: 'u' :: rest =>
        let (low, rest) ← readQuad rest
        if 0xDC00 ≤ low && low < 0xE000 then
          some (Char.ofNat (0x10000 + (code - 0xD800) * 0x400 + (low - 0xDC00)), rest)
        else none
      | _ => none
    else some (Char.ofNat code, rest)
  | _ => none

/-- The rest of a quoted text after its opening quote; `fuel` bounds the characters read. -/
def readQuoted : Nat → List Char → List Char → Option (String × List Char)
  | 0, _, _ => none
  | _ + 1, _, [] => none
  | _ + 1, seen, '"' :: rest => some (String.ofList seen.reverse, rest)
  | fuel + 1, seen, '\\' :: rest => do
    let (char, rest) ← readEscape rest
    readQuoted fuel (char :: seen) rest
  | fuel + 1, seen, char :: rest =>
    if char.toNat < 32 then none else readQuoted fuel (char :: seen) rest

/-- Scales a rounded significand by a power of ten, dividing in steps when the power is too small
for a double. Overflow is refused. -/
def scale : Nat → Float → Int → Option Float
  | 0, value, _ => some value
  | fuel + 1, value, exponent =>
    if exponent.natAbs ≤ 308 then
      let power := Float.ofScientific 1 false exponent.natAbs
      let scaled := if 0 ≤ exponent then value * power else value / power
      if scaled.isInf then none else some scaled
    else if value == 0.0 then some value
    else if 0 ≤ exponent then none
    else scale fuel (value / 1e308) (exponent + 308)

/-- Digits of a significand as far as they fit an unsigned 64-bit word, with the count of digits
that were dropped. -/
def significand : Nat → List Char → Nat × Nat
  | value, [] => (value, 0)
  | value, digit :: rest =>
    let next := value * 10 + (digit.toNat - '0'.toNat)
    if next < Nat.pow 2 64 then significand next rest else (value, rest.length + 1)

/-- The double a decimal numeral stands for: its leading digits as one word, then scaled. -/
def readFloat (negative : Bool) (whole fraction : List Char) (exponent : Int) : Option Float := do
  let (value, dropped) := significand 0 whole
  let (value, used) :=
    if dropped = 0 then
      let (value, rest) := significand value fraction
      (value, fraction.length - rest)
    else (value, 0)
  let fitted : Int := exponent + dropped - used
  let size ← scale (fitted.natAbs / 308 + 2) (Float.ofNat value) fitted
  some (if negative then -size else size)

def readFraction : List Char → Option (Option (List Char) × List Char)
  | '.' :: rest =>
    let digits := rest.takeWhile Char.isDigit
    if digits.isEmpty then none else some (some digits, rest.dropWhile Char.isDigit)
  | rest => some (none, rest)

/-- Whether a minus stands at the start of the text, and what follows the sign. -/
def readSign : List Char → Bool × List Char
  | '-' :: rest => (true, rest)
  | '+' :: rest => (false, rest)
  | rest => (false, rest)

def readExponent : List Char → Option (Option Int × List Char)
  | 'e' :: rest | 'E' :: rest =>
    let (minus, rest) := readSign rest
    let digits := rest.takeWhile Char.isDigit
    if digits.isEmpty then none
    else
      let size : Int := min (Number.digitsValue digits) (Int.pow 2 31)
      some (some (if minus then -size else size), rest.dropWhile Char.isDigit)
  | rest => some (none, rest)

/-- The number of a numeral: an integer where a 64-bit word holds it, else a double. -/
def numeralNumber (negative : Bool) (whole : List Char) (fraction : Option (List Char))
    (exponent : Option Int) : Option Number :=
  let size := Number.digitsValue whole
  if fraction.isNone && exponent.isNone && size < Nat.pow 2 64 && !negative then some (.int size)
  else if fraction.isNone && exponent.isNone && size ≤ Nat.pow 2 63 && size != 0 then
    some (.int (-(size : Int)))
  else
    let bounded := max (-100000) (min 100000 (exponent.getD 0))
    (readFloat negative whole (fraction.getD []) bounded).map Number.float

/-- Whether digits can start a numeral: a single one, or some that do not start with a zero. -/
def leading (digits : List Char) : Bool :=
  !digits.isEmpty && (digits.length == 1 || digits.head? != some '0')

/-- A numeral without its sign at the start of the text. -/
def readNumeral (negative : Bool) (text : List Char) : Option (Number × List Char) := do
  let whole := text.takeWhile Char.isDigit
  guard (leading whole)
  let (fraction, rest) ← readFraction (text.dropWhile Char.isDigit)
  let (exponent, rest) ← readExponent rest
  let value ← numeralNumber negative whole fraction exponent
  some (value, rest)

def readNumber : List Char → Option (Number × List Char)
  | '-' :: rest => readNumeral true rest
  | text => readNumeral false text

mutual
/-- A value at the start of the text; `fuel` bounds the steps and `depth` the nesting. -/
def readValue : Nat → Nat → List Char → Option (Json × List Char)
  | 0, _, _ => none
  | fuel + 1, depth, text =>
    match skipBlanks text with
    | 'n' :: 'u' :: 'l' :: 'l' :: rest => some (null, rest)
    | 't' :: 'r' :: 'u' :: 'e' :: rest => some (bool true, rest)
    | 'f' :: 'a' :: 'l' :: 's' :: 'e' :: rest => some (bool false, rest)
    | '"' :: rest => do
      let (value, rest) ← readQuoted (rest.length + 1) [] rest
      some (string value, rest)
    | '[' :: rest =>
      match depth with
      | 0 => none
      | depth + 1 =>
        match skipBlanks rest with
        | ']' :: rest => some (array [], rest)
        | rest => readItems fuel depth [] rest
    | '\x7b' :: rest =>
      match depth with
      | 0 => none
      | depth + 1 =>
        match skipBlanks rest with
        | '\x7d' :: rest => some (object [], rest)
        | rest => readEntries fuel depth [] rest
    | text => do
      let (value, rest) ← readNumber text
      some (number value, rest)

/-- The items of an array up to its closing bracket. -/
def readItems : Nat → Nat → List Json → List Char → Option (Json × List Char)
  | 0, _, _, _ => none
  | fuel + 1, depth, seen, text => do
    let (item, rest) ← readValue fuel depth text
    match skipBlanks rest with
    | ',' :: rest => readItems fuel depth (item :: seen) rest
    | ']' :: rest => some (array (item :: seen).reverse, rest)
    | _ => none

/-- The entries of an object up to its closing brace. -/
def readEntries : Nat → Nat → List (String × Json) → List Char → Option (Json × List Char)
  | 0, _, _, _ => none
  | fuel + 1, depth, seen, text =>
    match skipBlanks text with
    | '"' :: rest => do
      let (key, rest) ← readQuoted (rest.length + 1) [] rest
      match skipBlanks rest with
      | ':' :: rest =>
        let (value, rest) ← readValue fuel depth rest
        let seen := (key, value) :: seen
        match skipBlanks rest with
        | ',' :: rest => readEntries fuel depth seen rest
        | '\x7d' :: rest => some (object (Entries.ofList seen.reverse), rest)
        | _ => none
      | _ => none
    | _ => none
end

def parse? (text : String) : Option Json := do
  let chars := text.toList
  let (value, rest) ← readValue (2 * chars.length + 2) depthLimit chars
  if (skipBlanks rest).isEmpty then some value else none

end Terradoc.Json
