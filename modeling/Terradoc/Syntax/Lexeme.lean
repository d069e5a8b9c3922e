import Terradoc.Number.Reading
import Terradoc.Syntax.Expr
import Terradoc.Text.Letter
import Terradoc.Text.Pieces

/-! The smallest parts of a source text: blanks, comments, names, numbers and quoted characters.
A reader takes the characters that are left and gives what it read with the characters after it. -/

namespace Terradoc.Lexeme

/-- What follows a block comment whose start is already read. -/
def afterComment? : List Char → Option (List Char)
  | '*' :: '/' :: rest => some rest
  | _ :: rest => afterComment? rest
  | [] => none

/-- The line end, or the end of the text, after a line comment whose start is already read. A
carriage return stands in it only as part of the line end. -/
def afterLineComment? (text : List Char) : Option (List Char) :=
  match text.dropWhile fun char => char != '\n' && char != '\r' with
  | '\r' :: '\n' :: rest => some ('\r' :: '\n' :: rest)
  | '\r' :: _ => none
  | rest => some rest

/-- Skips blanks and comments. With `lines` it goes on over line ends and line comments. The first
argument bounds the number of skipped pieces. -/
def skipWithin (lines : Bool) : Nat → List Char → List Char
  | 0, text => text
  | budget + 1, text =>
    match text with
    | ' ' :: rest | '\t' :: rest => skipWithin lines budget rest
    | '/' :: '*' :: rest =>
      match afterComment? rest with
      | some rest => skipWithin lines budget rest
      | none => text
    | '\n' :: rest | '\r' :: rest => if lines then skipWithin lines budget rest else text
    | '#' :: rest | '/' :: '/' :: rest =>
      if lines then
        match afterLineComment? rest with
        | some rest => skipWithin lines budget rest
        | none => text
      else text
    | _ => text

/-- Skips blanks, comments and, with `lines`, line ends. -/
def skip (lines : Bool) (text : List Char) : List Char := skipWithin lines text.length text

def skipInline (text : List Char) : List Char := skip false text

/-- Skips blanks, comments and line ends. -/
def skipLines (text : List Char) : List Char := skip true text

/-- What follows the end of a line; the end of the text ends a line too. -/
def endLine? : List Char → Option (List Char)
  | [] => some []
  | '\n' :: rest | '\r' :: '\n' :: rest => some rest
  | _ => none

/-- What follows the rest of a line that holds only blanks and comments. -/
def afterLine? (text : List Char) : Option (List Char) :=
  match skipInline text with
  | '#' :: rest | '/' :: '/' :: rest => (afterLineComment? rest).bind endLine?
  | rest => endLine? rest

def expect (sign : Char) : List Char → Option (List Char)
  | char :: rest => if char == sign then some rest else none
  | [] => none

def readName (text : List Char) : Option (String × List Char) :=
  match text with
  | [] => none
  | first :: rest =>
    if Text.startsIdentifier first then
      some (String.ofList (first :: rest.takeWhile Text.continuesIdentifier),
        rest.dropWhile Text.continuesIdentifier)
    else none

/-- What follows a word that stands as a whole name. -/
def afterWord? (word : String) (text : List Char) : Option (List Char) :=
  (readName text).bind fun (name, rest) => if name == word then some rest else none

def readFraction : List Char → Option (List Char × List Char)
  | '.' :: digit :: rest =>
    if digit.isDigit then
      some (digit :: rest.takeWhile Char.isDigit, rest.dropWhile Char.isDigit)
    else none
  | _ => none

def readExponent : List Char → Option (List Char × List Char)
  | mark :: rest =>
    if mark == 'e' || mark == 'E' then
      let (sign, digits) := match rest with
        | '+' :: digits => (['+'], digits)
        | '-' :: digits => (['-'], digits)
        | digits => ([], digits)
      let size := digits.takeWhile Char.isDigit
      if size.isEmpty then none
      else some (mark :: sign ++ size, digits.dropWhile Char.isDigit)
    else none
  | [] => none

/-- Reads a number: an integer below `2 ^ 64`, or a finite decimal with a fraction or an
exponent. -/
def readNumber (text : List Char) : Option (Number × List Char) :=
  let whole := text.takeWhile Char.isDigit
  let rest := text.dropWhile Char.isDigit
  let (fraction, afterFraction) := (readFraction rest).getD ([], rest)
  let (exponent, after) := (readExponent afterFraction).getD ([], afterFraction)
  if fraction.isEmpty && exponent.isEmpty then
    let value := Number.digitsValue whole
    if value < Nat.pow 2 64 then some (.int value, rest) else none
  else do
    let exponent ← Number.exponent? exponent
    let value ← Number.ofFloat? (Number.Numeral.toFloat ⟨whole, fraction, exponent⟩)
    some (value, after)

/-- The character of a hexadecimal code. -/
def charOfHex? (digits : List Char) : Option Char := do
  let values ← digits.mapM (Number.digitIn? 16)
  let code := values.foldl (fun code digit => code * 16 + digit) 0
  if code.isValidChar then some (Char.ofNat code) else none

/-- The character that a letter after a backslash stands for. -/
def escaped? : Char → Option Char
  | 'n' => some '\n'
  | 'r' => some '\r'
  | 't' => some '\t'
  | 'b' => some '\x08'
  | 'f' => some '\x0c'
  | '/' => some '/'
  | '"' => some '"'
  | '\\' => some '\\'
  | _ => none

/-- Reads the plain characters of a template up to the next marker, in a quoted text up to the
closing quote. Backslashes count only in a quoted text; a doubled marker stands for itself. -/
def readPlain (inQuotes : Bool) : List Char → Option (List Char × List Char)
  | [] => some ([], [])
  | '$' :: '$' :: '\x7b' :: rest =>
    (readPlain inQuotes rest).map fun (plain, rest) => ('$' :: '\x7b' :: plain, rest)
  | '%' :: '%' :: '\x7b' :: rest =>
    (readPlain inQuotes rest).map fun (plain, rest) => ('%' :: '\x7b' :: plain, rest)
  | '$' :: '\x7b' :: rest => some ([], '$' :: '\x7b' :: rest)
  | '%' :: '\x7b' :: rest => some ([], '%' :: '\x7b' :: rest)
  | '\\' :: rest =>
    if inQuotes then
      match rest with
      | 'u' :: a :: b :: c :: d :: rest => do
        let char ← charOfHex? [a, b, c, d]
        (readPlain inQuotes rest).map fun (plain, rest) => (char :: plain, rest)
      | 'U' :: a :: b :: c :: d :: e :: f :: g :: h :: rest => do
        let char ← charOfHex? [a, b, c, d, e, f, g, h]
        (readPlain inQuotes rest).map fun (plain, rest) => (char :: plain, rest)
      | letter :: rest => do
        let char ← escaped? letter
        (readPlain inQuotes rest).map fun (plain, rest) => (char :: plain, rest)
      | [] => none
    else (readPlain inQuotes rest).map fun (plain, rest) => ('\\' :: plain, rest)
  | char :: rest =>
    if inQuotes && char == '"' then some ([], char :: rest)
    else (readPlain inQuotes rest).map fun (plain, rest) => (char :: plain, rest)

/-- Reads a quoted text that holds neither interpolation nor directive. -/
def readQuoted : List Char → Option (String × List Char)
  | '"' :: rest => do
    let (plain, rest) ← readPlain true rest
    let rest ← expect '"' rest
    some (String.ofList plain, rest)
  | _ => none

/-- Reads an operator between operands. A slash that starts a comment is none. -/
def readOperator : List Char → Option (BinaryOperator × List Char)
  | '=' :: '=' :: rest => some (.equal, rest)
  | '!' :: '=' :: rest => some (.notEqual, rest)
  | '<' :: '=' :: rest => some (.lessOrEqual, rest)
  | '>' :: '=' :: rest => some (.greaterOrEqual, rest)
  | '<' :: rest => some (.less, rest)
  | '>' :: rest => some (.greater, rest)
  | '&' :: '&' :: rest => some (.and, rest)
  | '|' :: '|' :: rest => some (.or, rest)
  | '+' :: rest => some (.plus, rest)
  | '-' :: rest => some (.minus, rest)
  | '*' :: rest => some (.times, rest)
  | '/' :: '/' :: _ => none
  | '/' :: rest => some (.divide, rest)
  | '%' :: rest => some (.modulo, rest)
  | _ => none

/-- What follows the delimiter of a heredoc at the start of a line, after blanks. In the first line
the delimiter ends the heredoc only as a whole word. -/
def afterDelimiter? (delimiter : List Char) (first : Bool) (line : List Char) :
    Option (List Char) :=
  let start := line.dropWhile fun char => char == ' ' || char == '\t'
  (Text.after? delimiter start).filter fun rest =>
    match rest with
    | char :: _ => !(first && Text.continuesIdentifier char)
    | [] => true

/-- What precedes and follows the delimiter in the line that ends a heredoc. -/
def splitHeredoc (delimiter : List Char) (first : Bool) :
    Nat → List Char → Option (List Char × List Char)
  | 0, _ => none
  | budget + 1, text =>
    match afterDelimiter? delimiter first text with
    | some rest => some ([], rest)
    | none =>
      let line := text.takeWhile (· != '\n')
      match text.dropWhile (· != '\n') with
      | [] => none
      | newline :: rest =>
        (splitHeredoc delimiter false budget rest).map fun (content, rest) =>
          (line ++ newline :: content, rest)

end Terradoc.Lexeme
