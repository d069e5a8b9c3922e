import Terradoc.Json.Parser
import Terradoc.Syntax.Body
import Terradoc.Variable.Declaration

namespace Terradoc

/-- Why a variable file has no values. -/
inductive VariableFileFault where
  | notJson
  | notObject
  | malformed
  | expression (name : String) (cause : EvalError)

def VariableFileFault.message (path : Path) : VariableFileFault → String
  | notJson => "invalid JSON in " ++ path.text ++ ": malformed text"
  | notObject => path.text ++ " must contain a JSON object"
  | malformed => "invalid syntax in " ++ path.text ++ ": " ++ syntaxFaultText
  | expression name cause => path.text ++ ": " ++ name ++ ": " ++ cause.headline

/-- Evaluates attributes up to the first that fails. -/
def evaluateInputs (env : Environment) :
    Inputs → List Attribute → Except VariableFileFault Inputs
  | inputs, [] => .ok inputs
  | inputs, attr :: rest =>
    match attr.value.eval env with
    | .ok value => evaluateInputs env (Entries.insert inputs attr.name value) rest
    | .error cause => .error (.expression attr.name cause)

/-- Reads the text of a variable file; the path tells the format. -/
def parseVariableFile (env : Environment) (path : Path) (text : String) :
    Except VariableFileFault Inputs :=
  if path.extension? == some "json" then
    match (Json.parse? text).map Value.ofJson with
    | some (.map entries) => .ok entries
    | some _ => .error .notObject
    | none => .error .notJson
  else
    match Body.parse? text with
    | some body => evaluateInputs env [] body.attributes
    | none => .error .malformed

end Terradoc
