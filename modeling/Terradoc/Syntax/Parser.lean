import Terradoc.Syntax.Lexeme
import Terradoc.Syntax.Printer

/-! Reading expressions and templates.

Between the signs of an expression stand blanks and comments; inside brackets, calls and
interpolations, where `lines` is set, line ends may stand there too. Every reader takes a budget
that bounds the depth of its calls; one that suffices is computed from the length of the text. -/

namespace Terradoc.Syntax

open Lexeme

/-- Enough budget for a text: every call of a reader either consumes a character or is one of a
bounded number of calls between two that do. -/
def budgetFor (text : List Char) : Nat := 16 * (text.length + 4)

/-- Gives an attribute splat the attribute names that follow it. -/
def gatherSplats : List Step → List Step
  | [] => []
  | .eachAttribute names :: rest =>
    let later := gatherSplats rest
    let more := later.takeWhile fun
      | .attribute _ => true
      | _ => false
    .eachAttribute (names ++ more.filterMap fun
      | .attribute name => some name
      | _ => none) :: later.drop more.length
  | step :: rest => step :: gatherSplats rest

/-- The opposite of an operand; of a number written out it is again a number. -/
def negated : Expr → Expr
  | .number value => .number value.negate
  | operand => .unary .negate operand

/-- A traversal, or the value itself when no step follows it. -/
def traversed (root : Expr) : List Step → Expr
  | [] => root
  | steps => .traversal root steps

/-- An object key: a bare name stands for itself. -/
def keyOf : Expr → ObjectKey
  | .variable name => .name name
  | key => .expr key

/-- Fewest blanks at the start of the lines of a literal that are not empty. The first line is left
out when it goes on after another element. -/
def leadingBlanks? (skipFirst : Bool) (text : List Char) : Option Nat :=
  let lines := Text.splitAt '\n' [] text
  let lines := (if skipFirst then lines.drop 1 else lines).filter (!·.isEmpty)
  (lines.map fun line => (line.takeWhile Text.isBlank).length).min?

/-- Takes up to a number of blanks off the start of every line. -/
def dedentBy (width : Nat) (skipFirst : Bool) (text : List Char) : List Char :=
  let cut (line : List Char) : List Char :=
    line.drop (min width (line.takeWhile Text.isBlank).length)
  let lines := Text.splitAt '\n' [] text
  Text.join ['\n'] (match lines, skipFirst with
    | first :: rest, true => first :: rest.map cut
    | lines, _ => lines.map cut)

abbrev SourcedElement := TemplateElement × List Char

/-- The literals of a template with the mark whether they go on after another element. -/
def literalsOf (elements : List SourcedElement) : List (Bool × List Char) :=
  elements.zipIdx.filterMap fun
    | ((.literal text, _), place) => some (place != 0, text.toList)
    | _ => none

/-- Takes the indentation that all lines share off a template. -/
def dedent (elements : List SourcedElement) : List SourcedElement :=
  match ((literalsOf elements).filterMap fun (later, text) => leadingBlanks? later text).min? with
  | none => elements
  | some width => elements.zipIdx.map fun
    | ((.literal text, source), place) =>
      (.literal (String.ofList (dedentBy width (place != 0) text.toList)),
        dedentBy width (place != 0) source)
    | (element, _) => element

def directiveWord? : List Char → Option (String × List Char)
  | '%' :: '\x7b' :: rest =>
    let rest := match rest with
      | '~' :: rest => rest
      | rest => rest
    readName (skipLines rest)
  | _ => none

/-- What follows the brace that closes an interpolation or a directive. -/
def closeMarker? (text : List Char) : Option (List Char) :=
  match skipLines text with
  | '~' :: rest => expect '\x7d' rest
  | rest => expect '\x7d' rest

/-- What follows a directive that is a word alone. -/
def afterDirective? (word : String) (text : List Char) : Option (List Char) :=
  (directiveWord? text).bind fun (found, rest) => if found == word then closeMarker? rest else none

/-- The part of a text before what is left of it. -/
def consumed (text rest : List Char) : List Char := text.take (text.length - rest.length)

/-- Reads the variables of a loop up to its word `in`. -/
def readLoopNames (text : List Char) : Option ((Option String × String) × List Char) := do
  let (first, rest) ← readName (skipLines text)
  match skipLines rest with
  | ',' :: rest =>
    let (second, rest) ← readName (skipLines rest)
    let rest ← afterWord? "in" (skipLines rest)
    some ((some first, second), rest)
  | rest =>
    let rest ← afterWord? "in" rest
    some ((none, first), rest)

/-- Reads a function name: names joined by double colons. -/
def readQualified : Nat → List Char → Option (String × List Char)
  | 0, _ => none
  | budget + 1, text => do
    let (name, rest) ← readName text
    match rest with
    | ':' :: ':' :: rest =>
      let (more, rest) ← readQualified budget rest
      some (name ++ "::" ++ more, rest)
    | rest => some (name, rest)

mutual
def readExpr (lines : Bool) : Nat → List Char → Option (Expr × List Char)
  | 0, _ => none
  | budget + 1, text => do
    let (condition, rest) ← readBinary lines 1 budget text
    match skip lines rest with
    | '?' :: rest =>
      let (yes, rest) ← readExpr lines budget (skip lines rest)
      let rest ← expect ':' (skip lines rest)
      let (no, rest) ← readExpr lines budget (skip lines rest)
      some (.conditional condition yes no, rest)
    | _ => some (condition, rest)

/-- Reads operators that bind at least as tightly as a given level, with their operands. -/
def readBinary (lines : Bool) (level : Nat) : Nat → List Char → Option (Expr × List Char)
  | 0, _ => none
  | budget + 1, text => do
    let (left, rest) ← readUnary lines budget text
    readOperands lines level left budget rest

def readOperands (lines : Bool) (level : Nat) (left : Expr) : Nat → List Char → Option (Expr × List Char)
  | 0, _ => none
  | budget + 1, text =>
    match readOperator (skip lines text) with
    | none => some (left, text)
    | some (operator, rest) =>
      if operator.precedence < level then some (left, text)
      else do
        let (right, rest) ← readBinary lines (operator.precedence + 1) budget (skip lines rest)
        readOperands lines level (.binary operator left right) budget rest

/-- Reads an operand with the operators before it. -/
def readUnary (lines : Bool) : Nat → List Char → Option (Expr × List Char)
  | 0, _ => none
  | budget + 1, text =>
    match text with
    | '!' :: rest => do
      let (operand, rest) ← readUnary lines budget (skip lines rest)
      some (.unary .not operand, rest)
    | '-' :: rest => do
      let (operand, rest) ← readUnary lines budget (skip lines rest)
      some (negated operand, rest)
    | text => do
      let (root, rest) ← readTerm lines budget text
      let (steps, rest) ← readSteps lines budget rest
      some (traversed root (gatherSplats steps), rest)

/-- Reads the steps after a value. Two dots are no step. -/
def readSteps (lines : Bool) : Nat → List Char → Option (List Step × List Char)
  | 0, _ => none
  | budget + 1, text =>
    match skip lines text with
    | '.' :: '.' :: _ => some ([], text)
    | '.' :: rest => do
      let (step, rest) ← match skipLines rest with
        | '*' :: rest => some (Step.eachAttribute [], rest)
        | rest =>
          let digits := rest.takeWhile Char.isDigit
          if digits.isEmpty then (readName rest).map fun (name, rest) => (.attribute name, rest)
          else
            let position := Number.digitsValue digits
            if position < Nat.pow 2 64 then some (.position position, rest.drop digits.length) else none
      let (steps, rest) ← readSteps lines budget rest
      some (step :: steps, rest)
    | '[' :: rest => do
      let (step, rest) ← match skipLines rest with
        | '*' :: rest => some (Step.each, rest)
        | rest => (readExpr true budget rest).map fun (key, rest) => (.index key, rest)
      let rest ← expect ']' (skipLines rest)
      let (steps, rest) ← readSteps lines budget rest
      some (step :: steps, rest)
    | _ => some ([], text)

/-- Reads a value without operators and steps. -/
def readTerm (lines : Bool) : Nat → List Char → Option (Expr × List Char)
  | 0, _ => none
  | budget + 1, text =>
    match text with
    | [] => none
    | '"' :: rest => do
      let (elements, after) ← readElements true budget rest
      let source := String.ofList (consumed rest after)
      let after ← expect '"' after
      match elements with
      | [] => some (.string "", after)
      | [(.literal plain, _)] => some (.string plain, after)
      | elements => some (.template .quoted source (elements.map (·.1)), after)
    | '[' :: rest =>
      match afterWord? "for" (skipLines rest) with
      | some rest => readListFor budget rest
      | none => do
        let (items, rest) ← readItems ']' budget (skipLines rest)
        some (.array items, rest)
    | '\x7b' :: rest =>
      match afterWord? "for" (skipLines rest) with
      | some rest => readMapFor budget rest
      | none => do
        let (items, rest) ← readObject [] budget (skipLines rest)
        some (.object items, rest)
    | '(' :: rest => do
      let (inner, rest) ← readExpr true budget (skipLines rest)
      let rest ← expect ')' (skipLines rest)
      some (.parens inner, rest)
    | '<' :: '<' :: '-' :: rest => readHeredoc true budget rest
    | '<' :: '<' :: rest => readHeredoc false budget rest
    | first :: _ =>
      if first.isDigit then (readNumber text).map fun (value, rest) => (.number value, rest)
      else do
        let (name, rest) ← readQualified budget text
        match skip lines rest with
        | '(' :: rest =>
          let ((arguments, expand), rest) ← readArguments budget (skipLines rest)
          some (.call name arguments expand, rest)
        | _ =>
          if name == "true" then some (.bool true, rest)
          else if name == "false" then some (.bool false, rest)
          else if name == "null" then some (.null, rest)
          else if name.toList.contains ':' then none
          else some (.variable name, rest)

def readHeredoc (indented : Bool) : Nat → List Char → Option (Expr × List Char)
  | 0, _ => none
  | budget + 1, text => do
    let (delimiter, rest) ← readName text
    let rest ← match rest with
      | '\n' :: rest | '\r' :: '\n' :: rest => some rest
      | _ => none
    let (content, rest) ← splitHeredoc delimiter.toList true (rest.length + 1) rest
    let (elements, left) ← readElements false budget content
    if !left.isEmpty then none
    else
      let elements := if indented then dedent elements else elements
      let source := String.ofList (elements.flatMap (·.2))
      some (.template (.heredoc delimiter indented) source (elements.map (·.1)), rest)

/-- Reads items up to a closing bracket; a comma may stand before it. -/
def readItems (close : Char) : Nat → List Char → Option (List Expr × List Char)
  | 0, _ => none
  | budget + 1, text =>
    match expect close text with
    | some rest => some ([], rest)
    | none => do
      let (item, rest) ← readExpr true budget text
      match skipLines rest with
      | ',' :: rest =>
        let (items, rest) ← readItems close budget (skipLines rest)
        some (item :: items, rest)
      | rest =>
        let rest ← expect close rest
        some ([item], rest)

/-- Reads the arguments of a call; three dots may end them. -/
def readArguments : Nat → List Char → Option ((List Expr × Bool) × List Char)
  | 0, _ => none
  | budget + 1, text =>
    match expect ')' text with
    | some rest => some (([], false), rest)
    | none => do
      let (argument, rest) ← readExpr true budget text
      match skipLines rest with
      | ',' :: rest =>
        let ((arguments, expand), rest) ← readArguments budget (skipLines rest)
        some ((argument :: arguments, expand), rest)
      | '.' :: '.' :: '.' :: rest =>
        let rest ← expect ')' (skipLines rest)
        some (([argument], true), rest)
      | rest =>
        let rest ← expect ')' rest
        some (([argument], false), rest)

/-- Reads the items of an object, given those before. Two keys written alike are refused. -/
def readObject (before : List (ObjectKey × Expr)) : Nat → List Char →
    Option (List (ObjectKey × Expr) × List Char)
  | 0, _ => none
  | budget + 1, text =>
    match expect '\x7d' text with
    | some rest => some (before.reverse, rest)
    | none => do
      let (key, rest) ← readExpr true budget text
      let key := keyOf key
      if before.any (·.1.alike key) then none
      else
        let rest ← match skipLines rest with
          | '=' :: '=' :: _ => none
          | '=' :: rest | ':' :: rest => some rest
          | _ => none
        let (value, rest) ← readExpr false budget (skipLines rest)
        let items := (key, value) :: before
        match skipInline rest with
        | ',' :: rest => readObject items budget (skipLines rest)
        | '\x7d' :: rest => some (items.reverse, rest)
        | rest =>
          let rest ← afterLine? rest
          readObject items budget (skipLines rest)

def readLoopCondition : Nat → List Char → Option (Option Expr × List Char)
  | 0, _ => none
  | budget + 1, text =>
    match afterWord? "if" (skipLines text) with
    | none => some (none, text)
    | some rest =>
      (readExpr true budget (skipLines rest)).map fun (condition, rest) => (some condition, rest)

/-- Reads a loop that builds a list, from its variables on. -/
def readListFor : Nat → List Char → Option (Expr × List Char)
  | 0, _ => none
  | budget + 1, text => do
    let ((key, value), rest) ← readLoopNames text
    let (collection, rest) ← readExpr true budget (skipLines rest)
    let rest ← expect ':' (skipLines rest)
    let (item, rest) ← readExpr true budget (skipLines rest)
    let (condition, rest) ← readLoopCondition budget rest
    let rest ← expect ']' (skipLines rest)
    some (.listFor key value collection item condition, rest)

/-- Reads a loop that builds a map, from its variables on. -/
def readMapFor : Nat → List Char → Option (Expr × List Char)
  | 0, _ => none
  | budget + 1, text => do
    let ((key, value), rest) ← readLoopNames text
    let (collection, rest) ← readExpr true budget (skipLines rest)
    let rest ← expect ':' (skipLines rest)
    let (entryKey, rest) ← readExpr true budget (skipLines rest)
    let rest ← Text.after? ['=', '>'] (skipLines rest)
    let (entryValue, rest) ← readExpr true budget (skipLines rest)
    let (grouping, rest) := match Text.after? ['.', '.', '.'] (skipLines rest) with
      | some rest => (true, rest)
      | none => (false, rest)
    let (condition, rest) ← readLoopCondition budget rest
    let rest ← expect '\x7d' (skipLines rest)
    some (.mapFor key value collection entryKey entryValue grouping condition, rest)

/-- Reads template elements up to the closing quote, the end, or a directive that ends or divides
an enclosing one. -/
def readElements (inQuotes : Bool) : Nat → List Char → Option (List SourcedElement × List Char)
  | 0, _ => none
  | budget + 1, text =>
    match text with
    | [] => some ([], [])
    | '$' :: '\x7b' :: rest => do
      let rest := match rest with
        | '~' :: rest => rest
        | rest => rest
      let (value, rest) ← readExpr true budget (skipLines rest)
      let rest ← closeMarker? rest
      let (elements, after) ← readElements inQuotes budget rest
      some ((.interpolation value, consumed text rest) :: elements, after)
    | '%' :: '\x7b' :: _ => do
      let (word, rest) ← directiveWord? text
      if word == "if" then
        let (element, rest) ← readBranch budget rest
        let (elements, after) ← readElements inQuotes budget rest
        some ((element, consumed text rest) :: elements, after)
      else if word == "for" then
        let (element, rest) ← readLoop budget rest
        let (elements, after) ← readElements inQuotes budget rest
        some ((element, consumed text rest) :: elements, after)
      else if word == "else" || word == "endif" || word == "endfor" then some ([], text)
      else none
    | first :: _ =>
      if inQuotes && first == '"' then some ([], text)
      else do
        let (plain, rest) ← readPlain inQuotes text
        let (elements, after) ← readElements inQuotes budget rest
        some ((.literal (String.ofList plain), consumed text rest) :: elements, after)

/-- Reads a conditional directive from its condition on. What it encloses is a template of its own
and outside quotes, even when the directive stands in a quoted text. -/
def readBranch : Nat → List Char → Option (TemplateElement × List Char)
  | 0, _ => none
  | budget + 1, text => do
    let (condition, rest) ← readExpr true budget (skipLines text)
    let rest ← closeMarker? rest
    let (yes, rest) ← readElements false budget rest
    match afterDirective? "else" rest with
    | some rest =>
      let (no, rest) ← readElements false budget rest
      let rest ← afterDirective? "endif" rest
      some (.branch condition (yes.map (·.1)) (some (no.map (·.1))), rest)
    | none =>
      let rest ← afterDirective? "endif" rest
      some (.branch condition (yes.map (·.1)) none, rest)

/-- Reads a loop directive from its variables on. Its body is a template outside quotes. -/
def readLoop : Nat → List Char → Option (TemplateElement × List Char)
  | 0, _ => none
  | budget + 1, text => do
    let ((key, value), rest) ← readLoopNames text
    let (collection, rest) ← readExpr true budget (skipLines rest)
    let rest ← closeMarker? rest
    let (body, rest) ← readElements false budget rest
    let rest ← afterDirective? "endfor" rest
    some (.loop key value collection (body.map (·.1)), rest)
end

end Terradoc.Syntax

namespace Terradoc

/-- Reads a template outside quotes. -/
def Template.parse? (text : String) : Option Template := do
  let chars := text.toList
  let (elements, rest) ← Syntax.readElements false (Syntax.budgetFor chars) chars
  if rest.isEmpty then some ⟨text, elements.map (·.1)⟩ else none

end Terradoc
