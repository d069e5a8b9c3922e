import Terradoc.Block.Fault
import Terradoc.Block.Source
import Terradoc.Module.Resolution
import Terradoc.Variable.File

namespace Terradoc

/-- Why a called module has no outputs and blocks. -/
inductive ModuleFault where
  | missingSource
  | source (cause : EvalError)
  | resolution (cause : ResolutionFault)
  /-- The directory is on the chain of calls already. -/
  | recursive (directory : Path)

def ModuleFault.message : ModuleFault → String
  | missingSource => "missing source"
  | source cause => (EvalError.inAttribute "source" cause).message
  | resolution cause => cause.message
  | recursive directory => directory.text ++ " is already being evaluated"

/-- Why a run ends without a document. -/
inductive LoadError where
  | unreadable (path : Path) (cause : FileFault)
  | malformed (file : String)
  | incompleteBlock (file : String) (problem : BlockProblem)
  | evaluation (fault : EvaluationFault)
  | module (path : String) (fault : ModuleFault)
  | variableFile (file : Path) (fault : VariableFileFault)
  /-- Calls of modules go deeper than there are directories. -/
  | tooDeep

def LoadError.message : LoadError → String
  | unreadable path cause => "unable to read " ++ path.text ++ ": " ++ cause.message
  | malformed file => "syntax error in " ++ file ++ ": " ++ syntaxFaultText
  | incompleteBlock file problem => "syntax error in " ++ file ++ ": " ++ problem.message
  | evaluation fault => "evaluation error at " ++ fault.address ++ ": " ++ fault.cause.message
  | module path fault => "module " ++ path ++ ": " ++ fault.message
  | variableFile file fault => fault.message file
  | tooDeep => "calls of modules are nested too deeply"

end Terradoc
