import Terradoc.Calendar.Format
import Terradoc.Files.Tree
import Terradoc.Number.Reading
import Terradoc.Syntax.Expr
import Terradoc.Text.Base64
import Terradoc.Text.Quoted
import Terradoc.Value.Basic

namespace Terradoc

/-- Types that a parameter of a function may ask for. -/
inductive Param where
  | any
  | text
  | number
  | bool
  | list
  | map
deriving DecidableEq, Repr

/-- A parameter type in messages. -/
def Param.name : Param → String
  | any => "any value"
  | text => "a string"
  | number => "a number"
  | bool => "a bool"
  | list => "a list"
  | map => "a map"

/-- Text that stands for the findings of a failed reading of source text. -/
def syntaxFaultText : String := "--> HCL parse error"

mutual
/-- Why an expression has no value. -/
inductive EvalError where
  /-- Templates that call each other go deeper than the limit. -/
  | tooDeep
  | conversion (cause : Value.ConversionError)
  | notKnown (address : String)
  | inAttribute (name : String) (cause : EvalError)
  | objectKey (cause : Value.ConversionError)
  | cannotIterate (typeName : String)
  | templateCondition (typeName : String)
  | unknownVariable (name : String)
  | missingAttribute (name : String)
  | noAttributes (name typeName : String)
  | listIndex (typeName : String)
  | outOfRange (index : Int)
  | missingKey (key : String)
  | cannotIndex (typeName : String)
  | expected (form : String)
  | noEach
  | eachAttribute (name : String)
  | countAttribute (name : String)
  | noCount
  | pathAttribute (name : String)
  | terraformAttribute (address : String)
  | tryArguments
  | tryFailed (last : EvalError)
  | canArguments
  | cannotExpand (typeName function : String)
  | nothingToExpand (function : String)
  | unknownFunction (name : String)
  | call (function : String) (cause : CallFault)
  | condition (typeName : String)
  | operandType (operator typeName : String)
  | operandText (operator text : String)
  | divisionByZero
  | moduloByZero
  | forCondition (typeName : String)
  | forKey (cause : Value.ConversionError)
  | duplicateKey (key : String)

/-- Why a function call fails. Argument positions count from zero. -/
inductive CallFault where
  | arity (expected got : Nat) (orMore : Bool)
  | nullArgument (index : Nat)
  | mismatch (index : Nat) (param : Param) (typeName : String)
  | argumentText (index : Nat) (text : String)
  | notFinite (index : Nat)
  | notWhole (index : Nat)
  | conversion (cause : Value.ConversionError)
  | textToNumber (text : String)
  | noConversion (typeName target : String)
  | toBool (display : String)
  | invalidJson
  | offsetOutOfRange
  | formatEnd
  | incompleteVerb
  | notEnoughArguments (verb : Char)
  | verbNeeds (verb : Char) (what : String)
  | unsupportedVerb (verb : Char)
  | indentTooWide (spaces : Int)
  | badPattern
  | noMatch
  | noLength (typeName : String)
  | sliceBounds (start stop : Int)
  | itemNotFound
  | elementOfEmpty
  | negativeIndex
  | keyNotFound (key : String)
  | mergeArgument (typeName : String)
  | zipmapLengths
  | rangeArguments (count : Nat)
  | zeroStep
  | rangeTooLong
  | nothingToCoalesce
  | onlyEmptyLists
  | negativeChunk
  | moreThanOne
  | sumOfNothing
  | sumOfOthers
  | baseOutOfRange (base : Int)
  | badInteger (text : String) (base : Int) (cause : Number.IntegerFault)
  | base64 (cause : Text.Base64.Fault)
  | utf8 (cause : Text.Utf8Fault)
  | badTimestamp (text : String)
  | format (cause : Calendar.FormatFault)
  | badSpan (text : String)
  | unreadable (path : String) (cause : FileFault)
  | notUtf8 (path : String)
  | isDirectory (path : String)
  | badGlob
  | badTemplate (path : String)
  | template (cause : EvalError)
end

instance : Inhabited EvalError := ⟨.tooDeep⟩

/-- Wording of a fault of a date pattern. -/
def Calendar.FormatFault.message : Calendar.FormatFault → String
  | unterminatedLiteral => "unterminated literal in format"
  | verb run => "invalid date format verb " ++ Text.quoted run

/-- The beginning of a message about an argument. -/
def argumentText (index : Nat) : String := "argument " ++ toString (index + 1)

mutual
/-- Wording of an evaluation error without the errors below it. -/
def EvalError.headline : EvalError → String
  | .tooDeep => "templates are nested too deeply"
  | .conversion cause => cause.message
  | .notKnown address => "value of " ++ address ++ " is not known"
  | .inAttribute name _ => "evaluating attribute '" ++ name ++ "'"
  | .objectKey cause => "invalid object key: " ++ cause.message
  | .cannotIterate typeName => "cannot iterate over " ++ typeName
  | .templateCondition typeName => "template condition must be bool, got " ++ typeName
  | .unknownVariable name => "unknown variable '" ++ name ++ "'"
  | .missingAttribute name => "unsupported attribute '" ++ name ++ "'"
  | .noAttributes name typeName => "cannot access attribute '" ++ name ++ "' on " ++ typeName
  | .listIndex typeName => "list index must be a number, got " ++ typeName
  | .outOfRange index => "index " ++ toString index ++ " out of range"
  | .missingKey key => "key " ++ Text.quoted key ++ " not found"
  | .cannotIndex typeName => "cannot index into " ++ typeName
  | .expected form => "expected " ++ form
  | .noEach => "'each' is only available inside for_each blocks"
  | .eachAttribute name => "unsupported each attribute '" ++ name ++ "': expected key or value"
  | .countAttribute name => "unsupported count attribute '" ++ name ++ "': expected index"
  | .noCount => "'count' is only available inside count iterations"
  | .pathAttribute name => "unsupported path attribute '" ++ name ++ "'"
  | .terraformAttribute address => "unsupported terraform attribute in '" ++ address ++ "'"
  | .tryArguments => "try requires at least one argument"
  | .tryFailed _ => "no expression passed to try succeeded"
  | .canArguments => "can expects exactly one argument"
  | .cannotExpand typeName function => "cannot expand " ++ typeName ++ " argument of " ++ function
  | .nothingToExpand function => function ++ ": nothing to expand"
  | .unknownFunction name => "call to unknown function '" ++ name ++ "'"
  | .call function cause => function ++ ": " ++ cause.message
  | .condition typeName => "conditional expression must evaluate to bool, got " ++ typeName
  | .operandType operator typeName =>
    "unsupported operand type for " ++ operator ++ ": " ++ typeName
  | .operandText operator text =>
    "unsupported operand for " ++ operator ++ ": " ++ Text.quoted text ++ " is not a number"
  | .divisionByZero => "division by zero"
  | .moduloByZero => "modulo by zero"
  | .forCondition typeName => "for expression condition must evaluate to bool, got " ++ typeName
  | .forKey cause => "for expression key: " ++ cause.message
  | .duplicateKey key => "duplicate key " ++ Text.quoted key ++ " in for expression"

def CallFault.message : CallFault → String
  | .arity expected got orMore =>
    "expected " ++ (if orMore then "at least " else "") ++ toString expected ++
      " argument(s), got " ++ toString got
  | .nullArgument index => argumentText index ++ " must not be null"
  | .mismatch index param typeName =>
    argumentText index ++ " must be " ++ param.name ++ ", got " ++ typeName
  | .argumentText index text =>
    argumentText index ++ ": cannot convert " ++ Text.quoted text ++ " to number"
  | .notFinite index => argumentText index ++ " must be a number"
  | .notWhole index => argumentText index ++ " must be a whole number"
  | .conversion cause => cause.message
  | .textToNumber text => "cannot convert " ++ Text.quoted text ++ " to number"
  | .noConversion typeName target => "cannot convert " ++ typeName ++ " to " ++ target
  | .toBool display => "cannot convert " ++ display ++ " to bool"
  | .invalidJson => "invalid JSON: malformed text"
  | .offsetOutOfRange => "offset out of range"
  | .formatEnd => "format string ends with %"
  | .incompleteVerb => "incomplete format verb"
  | .notEnoughArguments verb => "not enough arguments for %" ++ String.singleton verb
  | .verbNeeds verb what => "%" ++ String.singleton verb ++ " requires " ++ what
  | .unsupportedVerb verb => "unsupported format verb %" ++ String.singleton verb
  | .indentTooWide spaces => "indentation of " ++ toString spaces ++ " exceeds 1024 spaces"
  | .badPattern => "regex parse error: malformed pattern"
  | .noMatch => "pattern did not match"
  | .noLength typeName => "cannot take the length of " ++ typeName
  | .sliceBounds start stop => "invalid slice bounds " ++ toString start ++ ".." ++ toString stop
  | .itemNotFound => "item not found"
  | .elementOfEmpty => "cannot use element function with an empty list"
  | .negativeIndex => "negative index"
  | .keyNotFound key => "key " ++ Text.quoted key ++ " not found and no default given"
  | .mergeArgument typeName => "merge arguments must be maps, got " ++ typeName
  | .zipmapLengths => "number of keys and values must match"
  | .rangeArguments count => "range expects 1 to 3 arguments, got " ++ toString count
  | .zeroStep => "step must not be zero"
  | .rangeTooLong => "range would produce more than 1024 elements"
  | .nothingToCoalesce => "no non-null, non-empty arguments"
  | .onlyEmptyLists => "no non-empty list arguments"
  | .negativeChunk => "chunk size must not be negative"
  | .moreThanOne => "must be a list with zero or one elements"
  | .sumOfNothing => "cannot sum an empty list"
  | .sumOfOthers => "sum requires a list of numbers"
  | .baseOutOfRange base => "base must be between 2 and 36, got " ++ toString base
  | .badInteger text base cause =>
    "cannot parse " ++ Text.quoted text ++ " as base " ++ toString base ++ ": " ++ cause.message
  | .base64 cause => cause.message
  | .utf8 cause => cause.message
  | .badTimestamp text => "invalid timestamp " ++ Text.quoted text ++ ": malformed text"
  | .format cause => cause.message
  | .badSpan text => "invalid duration " ++ Text.quoted text
  | .unreadable path cause => "unable to read " ++ path ++ ": " ++ cause.message
  | .notUtf8 path => "contents of " ++ path ++ " are not valid UTF-8"
  | .isDirectory path => path ++ " is a directory"
  | .badGlob => "invalid pattern: malformed glob"
  | .badTemplate path => "invalid template " ++ path ++ ": " ++ syntaxFaultText
  | .template cause => cause.headline
end

/-- Wording of an evaluation error with the errors below it. -/
def EvalError.message : EvalError → String
  | .inAttribute name cause => (EvalError.inAttribute name cause).headline ++ ": " ++ cause.message
  | .tryFailed last => (EvalError.tryFailed last).headline ++ ": " ++ last.message
  | error => error.headline

mutual
/-- Whether evaluation stopped at the limit for nested templates. -/
def EvalError.isTooDeep : EvalError → Bool
  | .tooDeep => true
  | .inAttribute _ cause => cause.isTooDeep
  | .tryFailed last => last.isTooDeep
  | .call _ cause => cause.isTooDeep
  | _ => false

/-- Whether a call stopped at the limit for nested templates. -/
def CallFault.isTooDeep : CallFault → Bool
  | .template cause => cause.isTooDeep
  | _ => false
end

end Terradoc
