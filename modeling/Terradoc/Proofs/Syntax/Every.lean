import Terradoc.Syntax.Expr

namespace Terradoc

mutual
/-- Whether an expression and all expressions inside it pass a test. -/
def Expr.every (test : Expr → Bool) : Expr → Bool
  | .array items => test (.array items) && everyItem test items
  | .object items => test (.object items) && everyMember test items
  | .template form source elements =>
    test (.template form source elements) && everyElement test elements
  | .traversal root steps => test (.traversal root steps) && (root.every test && everyStep test steps)
  | .call name arguments expand =>
    test (.call name arguments expand) && everyItem test arguments
  | .parens inner => test (.parens inner) && inner.every test
  | .conditional condition yes no =>
    test (.conditional condition yes no) &&
      (condition.every test && (yes.every test && no.every test))
  | .unary operator operand => test (.unary operator operand) && operand.every test
  | .binary operator left right =>
    test (.binary operator left right) && (left.every test && right.every test)
  | .listFor key value collection item condition =>
    test (.listFor key value collection item condition) &&
      (collection.every test && (item.every test && everyCondition test condition))
  | .mapFor key value collection entryKey entryValue grouping condition =>
    test (.mapFor key value collection entryKey entryValue grouping condition) &&
      (collection.every test && (entryKey.every test &&
        (entryValue.every test && everyCondition test condition)))
  | .null => test .null
  | .bool value => test (.bool value)
  | .number value => test (.number value)
  | .string value => test (.string value)
  | .variable name => test (.variable name)

/-- The test on expressions in order. -/
def everyItem (test : Expr → Bool) : List Expr → Bool
  | [] => true
  | item :: rest => item.every test && everyItem test rest

def everyMember (test : Expr → Bool) : List (ObjectKey × Expr) → Bool
  | [] => true
  | (key, value) :: rest => everyKey test key && (value.every test && everyMember test rest)

def everyKey (test : Expr → Bool) : ObjectKey → Bool
  | .name _ => true
  | .expr key => key.every test

def everyCondition (test : Expr → Bool) : Option Expr → Bool
  | none => true
  | some condition => condition.every test

def everyStep (test : Expr → Bool) : List Step → Bool
  | [] => true
  | .index key :: rest => key.every test && everyStep test rest
  | _ :: rest => everyStep test rest

def everyElement (test : Expr → Bool) : List TemplateElement → Bool
  | [] => true
  | element :: rest => everyPart test element && everyElement test rest

def everyPart (test : Expr → Bool) : TemplateElement → Bool
  | .literal _ => true
  | .interpolation value => value.every test
  | .branch condition yes no =>
    condition.every test && (everyElement test yes && everyOtherwise test no)
  | .loop _ _ collection body => collection.every test && everyElement test body

/-- The test on the second branch of a directive. -/
def everyOtherwise (test : Expr → Bool) : Option (List TemplateElement) → Bool
  | none => true
  | some elements => everyElement test elements
end

theorem everyStep_cons (test : Expr → Bool) (step : Step) (rest : List Step) :
    everyStep test (step :: rest) = (everyStep test [step] && everyStep test rest) := by
  cases step <;> simp [everyStep]

end Terradoc
