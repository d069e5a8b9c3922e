import Terradoc.Number.Reading
import Terradoc.Pattern.Basic

namespace Terradoc.Pattern

/-- How the characters of a pattern are taken. -/
structure Flags where
  ignoreCase : Bool
  manyLines : Bool
  dotAll : Bool
  lazyFirst : Bool
  wide : Bool
  extended : Bool
  anyLineEnd : Bool

/-- The flags at the start of a pattern. -/
def Flags.initial : Flags := ⟨false, false, false, false, true, false, false⟩

def Flags.set? (flags : Flags) (letter : Char) (value : Bool) : Option Flags :=
  match letter with
  | 'i' => some { flags with ignoreCase := value }
  | 'm' => some { flags with manyLines := value }
  | 's' => some { flags with dotAll := value }
  | 'U' => some { flags with lazyFirst := value }
  | 'u' => some { flags with wide := value }
  | 'x' => some { flags with extended := value }
  | 'R' => some { flags with anyLineEnd := value }
  | _ => none

structure Groups where
  count : Nat
  names : List (String × Nat)

/-- Skips blanks and comments when the flags say so. -/
def skipExtended (flags : Flags) : Nat → List Char → List Char
  | 0, text => text
  | budget + 1, text =>
    if !flags.extended then text
    else match text with
      | '#' :: rest => skipExtended flags budget (rest.dropWhile (· != '\n'))
      | char :: rest => if Text.isBlank char then skipExtended flags budget rest else text
      | [] => []

/-- Skips blanks and comments before the next part. -/
def Flags.skip (flags : Flags) (text : List Char) : List Char :=
  skipExtended flags (text.length + 1) text

/-- Sets of the classes that are named in brackets and colons. -/
def namedClasses : List (String × CharSet) :=
  let lower := CharSet.range 0x61 0x7A
  let upper := CharSet.range 0x41 0x5A
  let digit := CharSet.range 0x30 0x39
  let letter := CharSet.union upper lower
  let alphanumeric := CharSet.union digit letter
  [("alnum", alphanumeric), ("alpha", letter), ("ascii", .range 0 0x7F),
    ("blank", .union (.single '\t') (.single ' ')),
    ("cntrl", .union (.range 0 0x1F) (.range 0x7F 0x7F)), ("digit", digit),
    ("graph", .range 0x21 0x7E), ("lower", lower), ("print", .range 0x20 0x7E),
    ("punct", .unionAll [.range 0x21 0x2F, .range 0x3A 0x40, .range 0x5B 0x60, .range 0x7B 0x7E]),
    ("space", .union (.range 9 13) (.single ' ')), ("upper", upper),
    ("word", .union alphanumeric (.single '_')),
    ("xdigit", .unionAll [digit, .range 0x61 0x66, .range 0x41 0x46])]

def letterClass? (wide : Bool) (letter : Char) : Option CharSet :=
  if letter == 'd' then
    if wide then some (.property .digit) else namedClasses.lookup "digit"
  else if letter == 's' then
    if wide then some (.property .blank) else namedClasses.lookup "space"
  else if letter == 'w' then
    if wide then some (.property .word) else namedClasses.lookup "word"
  else none

/-- Long names of the general categories. -/
def categoryNames : List (String × String) := [
  ("letter", "L"), ("casedletter", "LC"), ("uppercaseletter", "Lu"), ("lowercaseletter", "Ll"),
  ("titlecaseletter", "Lt"), ("modifierletter", "Lm"), ("otherletter", "Lo"), ("mark", "M"),
  ("combiningmark", "M"), ("nonspacingmark", "Mn"), ("spacingmark", "Mc"), ("enclosingmark", "Me"),
  ("number", "N"), ("decimalnumber", "Nd"), ("digit", "Nd"), ("letternumber", "Nl"),
  ("othernumber", "No"), ("punctuation", "P"), ("punct", "P"), ("connectorpunctuation", "Pc"),
  ("dashpunctuation", "Pd"), ("openpunctuation", "Ps"), ("closepunctuation", "Pe"),
  ("initialpunctuation", "Pi"), ("finalpunctuation", "Pf"), ("otherpunctuation", "Po"),
  ("symbol", "S"), ("mathsymbol", "Sm"), ("currencysymbol", "Sc"), ("modifiersymbol", "Sk"),
  ("othersymbol", "So"), ("separator", "Z"), ("spaceseparator", "Zs"), ("lineseparator", "Zl"),
  ("paragraphseparator", "Zp"), ("other", "C"), ("control", "Cc"), ("cntrl", "Cc"),
  ("format", "Cf"), ("privateuse", "Co"), ("unassigned", "Cn"),
  ("l", "L"), ("lc", "LC"), ("lu", "Lu"), ("ll", "Ll"), ("lt", "Lt"), ("lm", "Lm"), ("lo", "Lo"),
  ("m", "M"), ("mn", "Mn"), ("mc", "Mc"), ("me", "Me"), ("n", "N"), ("nd", "Nd"), ("nl", "Nl"),
  ("no", "No"), ("p", "P"), ("pc", "Pc"), ("pd", "Pd"), ("ps", "Ps"), ("pe", "Pe"), ("pi", "Pi"),
  ("pf", "Pf"), ("po", "Po"), ("s", "S"), ("sm", "Sm"), ("sc", "Sc"), ("sk", "Sk"), ("so", "So"),
  ("z", "Z"), ("zs", "Zs"), ("zl", "Zl"), ("zp", "Zp"), ("c", "C"), ("cc", "Cc"), ("cf", "Cf"),
  ("co", "Co"), ("cn", "Cn")]

def scriptNames : List (String × String) := [
  ("arab", "arabic"), ("armn", "armenian"), ("zyyy", "common"), ("cyrl", "cyrillic"),
  ("deva", "devanagari"), ("geor", "georgian"), ("grek", "greek"), ("hani", "han"),
  ("hang", "hangul"), ("hebr", "hebrew"), ("hira", "hiragana"), ("zinh", "inherited"),
  ("qaai", "inherited"), ("kana", "katakana"), ("latn", "latin")]

/-- A property name without case, blanks and joining signs. -/
def looseName (name : List Char) : String :=
  let letters := (name.filter fun char => char != ' ' && char != '_' && char != '-').map Char.toLower
  String.ofList (match letters with
    | 'i' :: 's' :: rest => if rest.isEmpty then letters else rest
    | letters => letters)

def categorySet? (name : String) : Option CharSet :=
  if name == "any" then some .all
  else if name == "ascii" then some (.range 0 0x7F)
  else if name == "assigned" then some (.complement (.property (.categories ["Cn"])))
  else (categoryNames.lookup name).map fun short =>
    .property (.categories (if short == "LC" then ["Lu", "Ll", "Lt"] else [short]))

def scriptSet? (name : String) : Option CharSet :=
  let long := (scriptNames.lookup name).getD name
  if (Text.scriptRuns.lookup long).isSome then some (.property (.script long)) else none

def propertySet? (name : String) : Option CharSet :=
  if name == "alphabetic" || name == "alpha" then some (.property .alphabetic)
  else if name == "whitespace" || name == "wspace" || name == "space" then some (.property .blank)
  else if name == "uppercase" || name == "upper" then some (.property .uppercase)
  else if name == "lowercase" || name == "lower" then some (.property .lowercase)
  else (categorySet? name).or (scriptSet? name)

def valueSet? (key value : String) : Option CharSet :=
  if key == "generalcategory" || key == "gc" then categorySet? value
  else if key == "script" || key == "sc" || key == "scriptextensions" || key == "scx" then
    scriptSet? value
  else none

/-- The set of what stands between the braces of a property. -/
def bracedSet? (text : List Char) : Option CharSet :=
  let (key, rest) := (text.takeWhile fun char => char != '=' && char != ':',
    text.dropWhile fun char => char != '=' && char != ':')
  match rest with
  | [] => propertySet? (looseName text)
  | _ :: value =>
    match key.getLast? with
    | some '!' => (valueSet? (looseName key.dropLast) (looseName value)).map .complement
    | _ => valueSet? (looseName key) (looseName value)

def readProperty (text : List Char) : Option (CharSet × List Char) :=
  match text with
  | '\x7b' :: rest =>
    match rest.dropWhile (· != '\x7d') with
    | _ :: after => (bracedSet? (rest.takeWhile (· != '\x7d'))).map fun set => (set, after)
    | [] => none
  | letter :: rest => (propertySet? (looseName [letter])).map fun set => (set, rest)
  | [] => none

def charOfCode? (code : Nat) : Option Char :=
  if code.isValidChar then some (Char.ofNat code) else none

/-- Reads a hexadecimal code: in braces, or of a fixed number of digits. -/
def readHex (width : Nat) (text : List Char) : Option (Char × List Char) := do
  let (digits, rest) ← match text with
    | '\x7b' :: rest =>
      match rest.dropWhile (· != '\x7d') with
      | _ :: after => some (rest.takeWhile (· != '\x7d'), after)
      | [] => none
    | text => if text.length < width then none else some (text.take width, text.drop width)
  if digits.isEmpty then none
  else
    let values ← digits.mapM (Number.digitIn? 16)
    let char ← charOfCode? (values.foldl (fun code digit => code * 16 + digit) 0)
    some (char, rest)

/-- What a backslash with the characters after it stands for. -/
inductive Escape where
  | literal (char : Char)
  | set (chars : CharSet)
  | look (condition : Look)

/-- Signs that a backslash turns into themselves: all of ASCII but letters, digits and angle
brackets. -/
def isEscapable (char : Char) : Bool :=
  char.toNat < 128 && !char.isAlphanum && char != '<' && char != '>'

/-- Words in braces after the boundary letter. -/
def boundaryWord? (wide : Bool) (text : List Char) : Option (Option Look × List Char) :=
  match text with
  | '\x7b' :: rest =>
    let word := String.ofList (rest.takeWhile (· != '\x7d'))
    let after := (rest.dropWhile (· != '\x7d')).drop 1
    if word == "start" then some (some (.wordStart wide), after)
    else if word == "end" then some (some (.wordEnd wide), after)
    else if word == "start-half" then some (some (.wordStartHalf wide), after)
    else if word == "end-half" then some (some (.wordEndHalf wide), after)
    else if (rest.head?.map fun char => char.isAlpha || char == '-').getD false then none
    else some (none, text)
  | text => some (none, text)

/-- Reads what follows a backslash. -/
def readEscape (flags : Flags) : List Char → Option (Escape × List Char)
  | [] => none
  | char :: rest =>
    match letterClass? flags.wide char with
    | some set => some (.set set, rest)
    | none =>
      match letterClass? flags.wide char.toLower with
      | some set =>
        if char.isUpper && flags.wide then some (.set (.complement set), rest) else none
      | none =>
        match char with
        | 'p' =>
          if flags.wide then (readProperty rest).map fun (set, rest) => (.set set, rest) else none
        | 'P' =>
          if flags.wide then
            (readProperty rest).map fun (set, rest) => (.set (.complement set), rest)
          else none
        | 'x' => (readHex 2 rest).map fun (char, rest) => (.literal char, rest)
        | 'u' => (readHex 4 rest).map fun (char, rest) => (.literal char, rest)
        | 'U' => (readHex 8 rest).map fun (char, rest) => (.literal char, rest)
        | 'a' => some (.literal '\x07', rest)
        | 'f' => some (.literal '\x0c', rest)
        | 't' => some (.literal '\t', rest)
        | 'n' => some (.literal '\n', rest)
        | 'r' => some (.literal '\r', rest)
        | 'v' => some (.literal '\x0b', rest)
        | 'A' => some (.look .textStart, rest)
        | 'z' => some (.look .textEnd, rest)
        | 'b' =>
          (boundaryWord? flags.wide rest).map fun (look, rest) =>
            (.look (look.getD (.wordBoundary flags.wide)), rest)
        | 'B' => some (.look (.noWordBoundary flags.wide), rest)
        | '<' => some (.look (.wordStart flags.wide), rest)
        | '>' => some (.look (.wordEnd flags.wide), rest)
        | char => if isEscapable char then some (.literal char, rest) else none

/-- The set of a class with the flags applied; without wide characters it has to be ASCII. -/
def Flags.finishClass (flags : Flags) (negated : Bool) (set : CharSet) : Option CharSet :=
  let set := if flags.ignoreCase then .folded flags.wide set else set
  let set := if negated then .complement set else set
  if flags.wide || set.isAscii then some set else none

/-- Reads a class that is named in brackets and colons. -/
def readNamedClass : List Char → Option (CharSet × List Char)
  | '[' :: ':' :: rest =>
    let (negated, rest) := match rest with
      | '^' :: rest => (true, rest)
      | rest => (false, rest)
    let name := rest.takeWhile (· != ':')
    match rest.dropWhile (· != ':') with
    | ':' :: ']' :: after =>
      (namedClasses.lookup (String.ofList name)).map fun set =>
        (if negated then .complement set else set, after)
    | _ => none
  | _ => none

/-- Reads one character or class inside brackets. -/
def readClassAtom (flags : Flags) : List Char → Option (Escape × List Char)
  | '\\' :: rest => do
    let (escape, rest) ← readEscape flags rest
    match escape with
    | .look _ => none
    | escape => some (escape, rest)
  | char :: rest => some (.literal char, rest)
  | [] => none

/-- Sets joined so far inside brackets: what a set operator applies to, and the items after it. -/
structure ClassParts where
  before : Option (CharSet → CharSet)
  items : List CharSet

/-- The set of what has been read inside brackets. -/
def ClassParts.close (parts : ClassParts) : CharSet :=
  let set := CharSet.unionAll parts.items
  match parts.before with
  | some join => join set
  | none => set

mutual
/-- Reads the items of a class up to the closing bracket. -/
def readClassItems (flags : Flags) (parts : ClassParts) :
    Nat → List Char → Option (CharSet × List Char)
  | 0, _ => none
  | budget + 1, text =>
    match flags.skip text with
    | [] => none
    | ']' :: rest => some (parts.close, rest)
    | '&' :: '&' :: rest =>
      readClassItems flags ⟨some (CharSet.meet parts.close), []⟩ budget rest
    | '-' :: '-' :: rest =>
      let left := parts.close
      readClassItems flags ⟨some fun right => .meet left (.complement right), []⟩ budget rest
    | '~' :: '~' :: rest =>
      let left := parts.close
      readClassItems flags
        ⟨some fun right => .union (.meet left (.complement right)) (.meet (.complement left) right),
          []⟩ budget rest
    | '[' :: rest =>
      match readNamedClass ('[' :: rest) with
      | some (set, rest) => readClassItems flags ⟨parts.before, set :: parts.items⟩ budget rest
      | none => do
        let (set, rest) ← readClass flags budget rest
        readClassItems flags ⟨parts.before, set :: parts.items⟩ budget rest
    | text => do
      let (set, rest) ← readClassRange flags budget text
      readClassItems flags ⟨parts.before, set :: parts.items⟩ budget rest

/-- Reads a character, a class letter or a range. -/
def readClassRange (flags : Flags) : Nat → List Char → Option (CharSet × List Char)
  | 0, _ => none
  | _ + 1, text => do
    let (first, rest) ← readClassAtom flags text
    match first with
    | .set set => some (set, rest)
    | .look _ => none
    | .literal low =>
      match flags.skip rest with
      | '-' :: after =>
        match flags.skip after with
        | ']' :: _ | '-' :: _ | [] => some (.single low, rest)
        | after =>
          let (last, rest) ← readClassAtom flags after
          match last with
          | .literal high =>
            if low.toNat ≤ high.toNat then some (.range low.toNat high.toNat, rest) else none
          | _ => none
      | _ => some (.single low, rest)

/-- Reads a class after its opening bracket. A closing bracket or dashes that come first stand for
themselves. -/
def readClass (flags : Flags) : Nat → List Char → Option (CharSet × List Char)
  | 0, _ => none
  | budget + 1, text => do
    let (negated, text) := match flags.skip text with
      | '^' :: rest => (true, flags.skip rest)
      | rest => (false, rest)
    let dashes := text.takeWhile (· == '-')
    let text := text.drop dashes.length
    let start : List CharSet := dashes.map CharSet.single
    let (start, text) := match text with
      | ']' :: rest => if dashes.isEmpty then ([CharSet.single ']'], rest) else (start, text)
      | text => (start, text)
    let (set, rest) ← readClassItems flags ⟨none, start⟩ budget text
    let set ← flags.finishClass negated set
    some (set, rest)
end

/-- Reads the flags of a group up to a colon or the closing bracket, which is left. -/
def readFlags (seen : List Char) (negated : Bool) (flags : Flags) :
    List Char → Option (Flags × List Char)
  | ')' :: rest =>
    if seen.isEmpty || seen.head? == some '-' then none else some (flags, ')' :: rest)
  | ':' :: rest => if seen.head? == some '-' then none else some (flags, ':' :: rest)
  | '-' :: rest => if negated then none else readFlags ('-' :: seen) true flags rest
  | letter :: rest => do
    if seen.contains letter then none
    else
      let flags ← flags.set? letter (!negated)
      readFlags (letter :: seen) negated flags rest
  | [] => none

/-- Whether a character may stand in a group name. -/
def isNamePart (first : Bool) (char : Char) : Bool :=
  char == '_' || Text.isAlphabetic char ||
    (!first && (char == '.' || char == '[' || char == ']' || Text.isLetterOrNumeral char))

/-- Reads a group name up to its closing angle bracket. -/
def readGroupName (text : List Char) : Option (String × List Char) :=
  let name := text.takeWhile (· != '>')
  match name, text.dropWhile (· != '>') with
  | first :: more, _ :: rest =>
    if isNamePart true first && more.all (isNamePart false) then some (String.ofList name, rest)
    else none
  | _, _ => none

/-- Reads a count, at most the largest 32-bit word. -/
def readCount (text : List Char) : Option (Nat × List Char) :=
  let digits := text.takeWhile Char.isDigit
  let value := Number.digitsValue digits
  if digits.isEmpty || Nat.pow 2 32 ≤ value then none else some (value, text.dropWhile Char.isDigit)

/-- Reads the bounds of a repetition after its opening brace. -/
def readBounds (flags : Flags) (text : List Char) : Option ((Nat × Option Nat) × List Char) := do
  let (least, rest) ← readCount (flags.skip text)
  match flags.skip rest with
  | '\x7d' :: rest => some ((least, some least), rest)
  | ',' :: rest =>
    match flags.skip rest with
    | '\x7d' :: rest => some ((least, none), rest)
    | rest =>
      let (most, rest) ← readCount rest
      match flags.skip rest with
      | '\x7d' :: rest => if least ≤ most then some ((least, some most), rest) else none
      | _ => none
  | _ => none

/-- Reads a repetition sign with its bounds. -/
def readRepetition (flags : Flags) : List Char → Option (Option ((Nat × Option Nat) × List Char))
  | '*' :: rest => some (some ((0, none), rest))
  | '+' :: rest => some (some ((1, none), rest))
  | '?' :: rest => some (some ((0, some 1), rest))
  | '\x7b' :: rest => (readBounds flags rest).map some
  | _ => some none

/-- Applies the repetition signs after an expression. -/
def readRepetitions (flags : Flags) (inner : Expression) :
    Nat → List Char → Option (Expression × List Char)
  | 0, _ => none
  | budget + 1, text => do
    match ← readRepetition flags (flags.skip text) with
    | none => some (inner, text)
    | some ((least, most), rest) =>
      let (isLazy, rest) := match rest with
        | '?' :: rest => (true, rest)
        | rest => (false, rest)
      readRepetitions flags (.many least most (isLazy == flags.lazyFirst) inner) budget rest

/-- A single character under flags. -/
def Flags.literal (flags : Flags) (char : Char) : Expression :=
  .set (if flags.ignoreCase then .folded flags.wide (.single char) else .single char)

/-- The set of the dot; without wide characters there is none. -/
def Flags.dot? (flags : Flags) : Option CharSet :=
  if !flags.wide then none
  else if flags.dotAll then some .all
  else if flags.anyLineEnd then some (.complement (.union (.single '\n') (.single '\r')))
  else some (.complement (.single '\n'))

/-- A sequence of parts, without a list around a single one. -/
def sequenceOf : List Expression → Expression
  | [] => .empty
  | [part] => part
  | parts => .sequence parts

/-- Options, without a list around a single one. -/
def choiceOf : List Expression → Expression
  | [] => .empty
  | [option] => option
  | options => .choice options

/-- Reads a single part that is no group: a sign, an escape, a class or a character. -/
def readAtom (flags : Flags) : List Char → Option (Expression × List Char)
  | [] => none
  | '.' :: rest => flags.dot?.map fun set => (.set set, rest)
  | '^' :: rest =>
    some (.look (if !flags.manyLines then .textStart
      else if flags.anyLineEnd then .anyLineStart else .lineStart), rest)
  | '$' :: rest =>
    some (.look (if !flags.manyLines then .textEnd
      else if flags.anyLineEnd then .anyLineEnd else .lineEnd), rest)
  | '[' :: rest => do
    let (set, rest) ← readClass flags (4 * rest.length + 4) rest
    some (.set set, rest)
  | '\\' :: rest => do
    let (escape, rest) ← readEscape flags rest
    match escape with
    | .literal char => some (flags.literal char, rest)
    | .set set => (flags.finishClass false set).map fun set => (.set set, rest)
    | .look condition => some (.look condition, rest)
  | char :: rest =>
    if char == '*' || char == '+' || char == '?' || char == '\x7b' then none
    else some (flags.literal char, rest)

def endsSequence : List Char → Bool
  | [] | ')' :: _ | '|' :: _ => true
  | _ => false

mutual
def readOptions (flags : Flags) (groups : Groups) (before : List Expression) :
    Nat → List Char → Option (Expression × Groups × List Char)
  | 0, _ => none
  | budget + 1, text => do
    let (part, flags, groups, rest) ← readSequence flags groups [] budget text
    match rest with
    | '|' :: rest => readOptions flags groups (part :: before) budget rest
    | rest => some (choiceOf (part :: before).reverse, groups, rest)

/-- Reads the parts of one option. Flags set in it hold for what follows in the group. -/
def readSequence (flags : Flags) (groups : Groups) (before : List Expression) :
    Nat → List Char → Option (Expression × Flags × Groups × List Char)
  | 0, _ => none
  | budget + 1, text =>
    let text := flags.skip text
    if endsSequence text then some (sequenceOf before.reverse, flags, groups, text)
    else match text with
      | '(' :: rest => do
        match ← readGroup flags groups budget rest with
        | (none, flags, groups, rest) => readSequence flags groups before budget rest
        | (some inner, flags, groups, rest) =>
          let (part, rest) ← readRepetitions flags inner (rest.length + 1) rest
          readSequence flags groups (part :: before) budget rest
      | text => do
        let (inner, rest) ← readAtom flags text
        let (part, rest) ← readRepetitions flags inner (rest.length + 1) rest
        readSequence flags groups (part :: before) budget rest

/-- Reads a group after its opening bracket; one that only sets flags is no expression. -/
def readGroup (flags : Flags) (groups : Groups) :
    Nat → List Char → Option (Option Expression × Flags × Groups × List Char)
  | 0, _ => none
  | budget + 1, text => do
    let named (text : List Char) := do
      let (name, rest) ← readGroupName text
      if (groups.names.lookup name).isSome then none
      else
        let index := groups.count + 1
        let (inner, after, rest) ←
          readOptions flags ⟨index, groups.names ++ [(name, index)]⟩ [] budget rest
        match rest with
        | ')' :: rest => some (some (.group index inner), flags, after, rest)
        | _ => none
    match flags.skip text with
    | '?' :: 'P' :: '<' :: rest => named rest
    | '?' :: '<' :: rest => named rest
    | '?' :: rest =>
      let (inside, rest) ← readFlags [] false flags rest
      match rest with
      | ':' :: rest =>
        let (inner, groups, rest) ← readOptions inside groups [] budget rest
        match rest with
        | ')' :: rest => some (some inner, flags, groups, rest)
        | _ => none
      | rest => some (none, inside, groups, rest.drop 1)
    | rest =>
      let index := groups.count + 1
      let (inner, groups, rest) ← readOptions flags ⟨index, groups.names⟩ [] budget rest
      match rest with
      | ')' :: rest => some (some (.group index inner), flags, groups, rest)
      | _ => none
end

def weightLimit : Nat := 160000

/-- Reads a pattern. One that takes too much room is refused. -/
def parse? (text : String) : Option Parsed := do
  let chars := text.toList
  let (expression, groups, rest) ←
    readOptions Flags.initial ⟨0, []⟩ [] (8 * (chars.length + 4)) chars
  if rest.isEmpty && expression.weight ≤ weightLimit then
    some ⟨expression, groups.count, groups.names⟩
  else none

end Terradoc.Pattern
