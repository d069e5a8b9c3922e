import Terradoc.Replication

/-! What goes wrong while a block is evaluated. Evaluation goes on after a fault, with something
unknown in the place of what failed; who asks for a stop gets the first fault instead. -/

namespace Terradoc

/-- Why a part of a block has no value. -/
inductive FaultCause where
  | expression (cause : EvalError)
  | replication (cause : ReplicationFault)
  /-- A dynamic block that does not say what it makes. -/
  | noLabel
  | incomplete (label : String)
  | source (label : String) (cause : EvalError)
  | labels (label : String) (cause : EvalError)

def FaultCause.message : FaultCause → String
  | expression cause => cause.message
  | replication cause => cause.message
  | noLabel => "dynamic block requires a label"
  | incomplete label => "dynamic \"" ++ label ++ "\" requires for_each and content"
  | source label cause => "dynamic \"" ++ label ++ "\": " ++ cause.message
  | labels label cause => "dynamic \"" ++ label ++ "\" labels: " ++ cause.message

structure EvaluationFault where
  address : String
  cause : FaultCause

/-- A result with the faults that were met on the way, in order. -/
structure Noted (α : Type) where
  value : α
  faults : List EvaluationFault

namespace Noted

variable {α β : Type}

def clean (value : α) : Noted α := ⟨value, []⟩

def instead (value : α) (fault : EvaluationFault) : Noted α := ⟨value, [fault]⟩

def map (change : α → β) (noted : Noted α) : Noted β := ⟨change noted.value, noted.faults⟩

def concat (parts : List (Noted (List α))) : Noted (List α) :=
  ⟨parts.flatMap (·.value), parts.flatMap (·.faults)⟩

def result (stop : Bool) (noted : Noted α) : Except EvaluationFault α :=
  match stop, noted.faults with
  | true, fault :: _ => .error fault
  | _, _ => .ok noted.value

end Noted

end Terradoc
