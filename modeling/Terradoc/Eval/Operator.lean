import Terradoc.Eval.Scope
import Terradoc.Text.Letter
import Terradoc.Value.Order

namespace Terradoc

def Value.operand (operator : String) : Value → Except EvalError Float
  | .number value => .ok value.toFloat
  | .string text =>
    match Number.parseFloat? (Text.trim text) with
    | some value => .ok value
    | none => .error (.operandText operator text)
  | other => .error (.operandType operator other.typeName)

def Value.truth (operator : String) : Value → Except EvalError Bool
  | .bool value => .ok value
  | .string text =>
    if text == "true" then .ok true
    else if text == "false" then .ok false
    else .error (.operandType operator "string")
  | other => .error (.operandType operator other.typeName)

/-- Applies a unary operator to a known value. -/
def UnaryOperator.apply (operator : UnaryOperator) (value : Value) : Except EvalError Value :=
  match operator with
  | .not => do return .bool (!(← value.truth operator.symbol))
  | .negate =>
    match value.int? with
    | some whole =>
      if whole = Number.minWord then do return .ofFloat (-(← value.operand operator.symbol))
      else .ok (.ofInt (-whole))
    | none => do return .ofFloat (-(← value.operand operator.symbol))

/-- A double as the result of an operation. -/
def arithmetic (operator : BinaryOperator) (left right : Float) : Except EvalError Value :=
  match operator with
  | .less => .ok (.bool (left < right))
  | .lessOrEqual => .ok (.bool (left ≤ right))
  | .greater => .ok (.bool (right < left))
  | .greaterOrEqual => .ok (.bool (right ≤ left))
  | .plus => .ok (.ofFloat (left + right))
  | .minus => .ok (.ofFloat (left - right))
  | .times => .ok (.ofFloat (left * right))
  | .divide => if right == 0.0 then .error .divisionByZero else .ok (.ofFloat (left / right))
  | _ =>
    if right == 0.0 then .error .moduloByZero else .ok (.ofFloat (Number.remainder left right))

/-- Applies a binary operator to known values. -/
def BinaryOperator.apply (operator : BinaryOperator) (left right : Value) :
    Except EvalError Value :=
  match operator with
  | .equal => .ok (.bool (Value.equal left right))
  | .notEqual => .ok (.bool (!Value.equal left right))
  | .and => do
    if ← left.truth operator.word then return .bool (← right.truth operator.word)
    else return .bool false
  | .or => do
    if ← left.truth operator.word then return .bool true
    else return .bool (← right.truth operator.word)
  | operator => do
    let left ← left.operand operator.word
    let right ← right.operand operator.word
    arithmetic operator left right

end Terradoc
