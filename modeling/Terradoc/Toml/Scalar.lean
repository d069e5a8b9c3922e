import Terradoc.Calendar.Timestamp
import Terradoc.Number.Reading
import Terradoc.Text.Pieces
import Terradoc.Toml.Basic

namespace Terradoc.Toml

/-- The value of hexadecimal digits, so many of them. -/
def readHex : Nat → Nat → List Char → Option (Nat × List Char)
  | 0, value, rest => some (value, rest)
  | count + 1, value, digit :: rest => do
    let size ← Number.digitIn? 16 digit
    readHex count (value * 16 + size) rest
  | _ + 1, _, [] => none

/-- The character of a code point that is written so many digits long. -/
def readCode (count : Nat) (text : List Char) : Option (Char × List Char) := do
  let (code, rest) ← readHex count 0 text
  if code < 0xD800 || (0xE000 ≤ code && code < 0x110000) then some (Char.ofNat code, rest) else none

/-- The character of an escape, after its backslash. -/
def readEscape : List Char → Option (Char × List Char)
  | 'b' :: rest => some ('\x08', rest)
  | 't' :: rest => some ('\t', rest)
  | 'n' :: rest => some ('\n', rest)
  | 'f' :: rest => some ('\x0c', rest)
  | 'r' :: rest => some ('\r', rest)
  | 'e' :: rest => some ('\x1b', rest)
  | '"' :: rest => some ('"', rest)
  | '\\' :: rest => some ('\\', rest)
  | 'x' :: rest => readCode 2 rest
  | 'u' :: rest => readCode 4 rest
  | 'U' :: rest => readCode 8 rest
  | _ => none

/-- Whether a character is a blank inside a line. -/
def isBlank (char : Char) : Bool := char == ' ' || char == '\t'

/-- What follows a backslash at the end of a line: blanks and line ends count for nothing. -/
def afterLineEscape? (text : List Char) : Option (List Char) :=
  match text.dropWhile isBlank with
  | '\n' :: rest => some (rest.dropWhile fun char => isBlank char || char == '\n')
  | _ => none

/-- The rest of a quoted string after its quote. -/
def readBasic : Nat → List Char → List Char → Option (String × List Char)
  | 0, _, _ => none
  | budget + 1, seen, text =>
    match text with
    | '"' :: rest => some (String.ofList seen.reverse, rest)
    | '\\' :: rest => do
      let (char, rest) ← readEscape rest
      readBasic budget (char :: seen) rest
    | '\n' :: _ | [] => none
    | char :: rest => readBasic budget (char :: seen) rest

/-- Quotes that end a string over several lines: up to two of them belong to the string. -/
def closing? (quote : Char) (text : List Char) : Option (List Char × List Char) :=
  let run := (text.takeWhile (· == quote)).length
  if run < 3 then none
  else
    let inner := min (run - 3) 2
    some (List.replicate inner quote, text.drop (inner + 3))

/-- The rest of a quoted string over several lines. -/
def readLongBasic : Nat → List Char → List Char → Option (String × List Char)
  | 0, _, _ => none
  | budget + 1, seen, text =>
    match closing? '"' text with
    | some (last, rest) => some (String.ofList (seen.reverse ++ last), rest)
    | none =>
      match text with
      | '\\' :: rest =>
        match afterLineEscape? rest with
        | some rest => readLongBasic budget seen rest
        | none => do
          let (char, rest) ← readEscape rest
          readLongBasic budget (char :: seen) rest
      | char :: rest => readLongBasic budget (char :: seen) rest
      | [] => none

/-- The rest of a literal string after its quote. -/
def readLiteral (text : List Char) : Option (String × List Char) :=
  let inner := text.takeWhile fun char => char != '\'' && char != '\n'
  match text.drop inner.length with
  | '\'' :: rest => some (String.ofList inner, rest)
  | _ => none

/-- The rest of a literal string over several lines. -/
def readLongLiteral : List Char → List Char → Option (String × List Char)
  | _, [] => none
  | seen, char :: rest =>
    match closing? '\'' (char :: rest) with
    | some (last, rest) => some (String.ofList (seen.reverse ++ last), rest)
    | none => readLongLiteral (char :: seen) rest

/-- A text without a line end at its start. -/
def dropLineEnd : List Char → List Char
  | '\n' :: rest => rest
  | text => text

def readString (text : List Char) : Option (String × List Char) :=
  match text with
  | '"' :: '"' :: '"' :: rest => readLongBasic (rest.length + 1) [] (dropLineEnd rest)
  | '\'' :: '\'' :: '\'' :: rest => readLongLiteral [] (dropLineEnd rest)
  | '"' :: rest => readBasic (rest.length + 1) [] rest
  | '\'' :: rest => readLiteral rest
  | _ => none

/-- Digits of a base without the underscores between them. -/
def digitsOf? (base : Nat) (text : List Char) : Option (List Char) :=
  let pieces := Text.splitAt '_' [] text
  if pieces.all fun piece => !piece.isEmpty && piece.all fun digit =>
      (Number.digitIn? base digit).isSome then some pieces.flatten
  else none

def valueOf (base : Nat) (digits : List Char) : Nat :=
  digits.foldl (fun value digit => value * base + (Number.digitIn? base digit).getD 0) 0

/-- Decimal digits without a zero in front of others. -/
def wholeDigits? (text : List Char) : Option (List Char) :=
  match digitsOf? 10 text with
  | some ('0' :: _ :: _) => none
  | digits => digits

def splitSign : List Char → Bool × List Char
  | '-' :: rest => (true, rest)
  | '+' :: rest => (false, rest)
  | text => (false, text)

/-- An integer, in the signed or the unsigned 64-bit range. -/
def integer? (text : List Char) : Option Toml :=
  let value : Option Int := match text with
    | '0' :: 'x' :: digits => (digitsOf? 16 digits).map fun digits => (valueOf 16 digits : Nat)
    | '0' :: 'o' :: digits => (digitsOf? 8 digits).map fun digits => (valueOf 8 digits : Nat)
    | '0' :: 'b' :: digits => (digitsOf? 2 digits).map fun digits => (valueOf 2 digits : Nat)
    | text =>
      let (negative, digits) := splitSign text
      (wholeDigits? digits).map fun digits =>
        let size : Int := valueOf 10 digits
        if negative then -size else size
  value.bind fun value =>
    if Number.minWord ≤ value && value < Int.pow 2 64 then some (.integer value) else none

/-- A text cut at a character: what is before it, and what follows it when it is there. -/
def cutAt (mark : Char → Bool) (text : List Char) : List Char × Option (List Char) :=
  match text.dropWhile (!mark ·) with
  | _ :: rest => (text.takeWhile (!mark ·), some rest)
  | [] => (text, none)

def exponent? : Option (List Char) → Option Int
  | none => some 0
  | some text =>
    let (negative, digits) := splitSign text
    (digitsOf? 10 digits).map fun digits =>
      let size : Int := valueOf 10 digits
      if negative then -size else size

/-- The size of a double that is written with a point or an exponent. -/
def magnitude? (text : List Char) : Option Float := do
  let (mantissa, exponentText) := cutAt (fun char => char == 'e' || char == 'E') text
  let (wholeText, fractionText) := cutAt (· == '.') mantissa
  let whole ← wholeDigits? wholeText
  let fraction ← match fractionText with
    | none => some []
    | some text => digitsOf? 10 text
  let exponent ← exponent? exponentText
  if fractionText.isNone && exponentText.isNone then none
  else
    let value := (Number.Numeral.mk whole fraction exponent).toFloat
    if value.isFinite then some value else none

def float? (text : List Char) : Option Toml :=
  let (negative, rest) := splitSign text
  let magnitude :=
    if rest == "inf".toList then some (1.0 / 0.0)
    else if rest == "nan".toList then some (0.0 / 0.0)
    else magnitude? rest
  magnitude.map fun value => .float (if negative then -value else value)

/-- The number that two digits write. -/
def pair? (first second : Char) : Option Nat :=
  if first.isDigit && second.isDigit then some (valueOf 10 [first, second]) else none

def readDate : List Char → Option (Calendar.Date × List Char)
  | y1 :: y2 :: y3 :: y4 :: '-' :: m1 :: m2 :: '-' :: d1 :: d2 :: rest => do
    let century ← pair? y1 y2
    let year ← pair? y3 y4
    let month ← pair? m1 m2
    let day ← pair? d1 d2
    let date : Calendar.Date := ⟨(century * 100 + year : Nat), month, day⟩
    if date.isValid then some (date, rest) else none
  | _ => none

def dateText (date : Calendar.Date) : String :=
  Text.joinWith "-" [Calendar.zeroFilled 4 date.year.toNat, Calendar.zeroFilled 2 date.month,
    Calendar.zeroFilled 2 date.day]

def readClock : List Char → Option (Nat × Nat × List Char)
  | h1 :: h2 :: ':' :: m1 :: m2 :: rest => do
    let hour ← pair? h1 h2
    let minute ← pair? m1 m2
    if hour < 24 && minute < 60 then some (hour, minute, rest) else none
  | _ => none

/-- Digits of a part of a second, up to the ninth, without the zeros at their end. -/
def fractionText (digits : List Char) : String :=
  match ((digits.take 9).reverse.dropWhile (· == '0')).reverse with
  | [] => ""
  | digits => "." ++ String.ofList digits

/-- Reads seconds as the text that a moment shows; they may be left out. -/
def readSeconds : List Char → Option (String × List Char)
  | ':' :: s1 :: s2 :: rest => do
    let second ← pair? s1 s2
    if 60 < second then none
    else
      let text := ":" ++ Calendar.zeroFilled 2 second
      match rest with
      | '.' :: rest =>
        let digits := rest.takeWhile Char.isDigit
        if digits.isEmpty then none
        else some (text ++ fractionText digits, rest.drop digits.length)
      | rest => some (text, rest)
  | ':' :: _ => none
  | rest => some (":00", rest)

/-- Reads a time of day as the text that a moment shows. -/
def readTime (text : List Char) : Option (String × List Char) := do
  let (hour, minute, rest) ← readClock text
  let (seconds, rest) ← readSeconds rest
  some (Calendar.zeroFilled 2 hour ++ ":" ++ Calendar.zeroFilled 2 minute ++ seconds, rest)

/-- The text of a distance from universal time, which may be left out. -/
def offsetText? : List Char → Option String
  | [] => some ""
  | ['Z'] | ['z'] => some "Z"
  | sign :: rest =>
    if sign != '+' && sign != '-' then none
    else
      match readClock rest with
      | some (hour, minute, []) =>
        let shown := if sign == '-' && hour + minute != 0 then "-" else "+"
        some (shown ++ Calendar.zeroFilled 2 hour ++ ":" ++ Calendar.zeroFilled 2 minute)
      | _ => none

/-- A moment: a day, a time of day, or a day with a time of day and its distance from universal
time. -/
def moment? (text : List Char) : Option Toml :=
  match readDate text with
  | some (date, []) => some (.moment (dateText date))
  | some (date, mark :: rest) =>
    if mark != 'T' && mark != 't' && mark != ' ' then none
    else do
      let (time, rest) ← readTime rest
      let offset ← offsetText? rest
      some (.moment (dateText date ++ "T" ++ time ++ offset))
  | none =>
    match readTime text with
    | some (time, []) => some (.moment time)
    | _ => none

/-- Whether a character is part of a word, a number or a moment. -/
def isScalarPart (char : Char) : Bool :=
  char.isAlphanum || char == '_' || char == '+' || char == '-' || char == '.' || char == ':'

/-- The characters of a scalar; a blank may stand between a day and a time. -/
def readScalarText (text : List Char) : List Char × List Char :=
  let first := text.takeWhile isScalarPart
  let rest := text.drop first.length
  match readDate first, rest with
  | some (_, []), ' ' :: digit :: others =>
    if digit.isDigit then
      let more := (digit :: others).takeWhile isScalarPart
      (first ++ ' ' :: more, (digit :: others).drop more.length)
    else (first, rest)
  | _, _ => (first, rest)

/-- Reads a word, a number or a moment. -/
def readScalar (text : List Char) : Option (Toml × List Char) :=
  let (scalar, rest) := readScalarText text
  let value :=
    if scalar == "true".toList then some (.boolean true)
    else if scalar == "false".toList then some (.boolean false)
    else ((integer? scalar).or (float? scalar)).or (moment? scalar)
  value.map fun value => (value, rest)

end Terradoc.Toml
