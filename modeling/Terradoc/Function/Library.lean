import Terradoc.Eval.Expr
import Terradoc.Function.Collection
import Terradoc.Function.Conversion
import Terradoc.Function.FileAccess
import Terradoc.Function.Numeric
import Terradoc.Function.Time

/-! All functions of the language. A template in a file may call functions, and so render other
templates; how deep they may be nested is limited. -/

namespace Terradoc

/-- All functions by name, given how the templates of files are rendered. -/
def functionsWith (host : Host) (root : Path)
    (render : Template → Entries Value → Except EvalError Value) : Entries Function :=
  Functions.textFunctions ++ Functions.collectionFunctions ++ Functions.numericFunctions ++
    Functions.conversionFunctions ++ Functions.encodingFunctions ++ Functions.timeFunctions ++
    Functions.fileFunctions host root render

def callAmong (functions : Entries Function) (name : String) (values : List Value) :
    Except EvalError Value :=
  match Entries.get? functions name with
  | none => .error (.unknownFunction name)
  | some function =>
    match function.call values with
    | .ok value => .ok value
    | .error cause => .error (.call name cause)

def functionTable (host : Host) (root : Path) : Nat → FunctionTable
  | 0 => callAmong (functionsWith host root fun _ _ => .error .tooDeep)
  | depth + 1 => callAmong (functionsWith host root fun template values =>
      template.eval ⟨Scope.empty root root host.workingDirectory, functionTable host root depth,
        none, none, values⟩)

/-- How deep templates may be nested: deeper than the stack of any machine. -/
def templateDepth : Nat := 1000000000

/-- The functions of a run; relative paths start from the root directory. -/
def Host.functions (host : Host) (root : Path) : FunctionTable :=
  functionTable host root templateDepth

end Terradoc
