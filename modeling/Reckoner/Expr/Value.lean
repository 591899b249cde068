import Reckoner.Function
import Reckoner.Operator
import Reckoner.Expr.Basic

namespace Reckoner.Expr

-- The value of an expression from the values of its operands. The first
-- operand that has none decides the failure.
mutual

def value : Expr → Except Failure Binary64
  | .number value => .ok value
  | .binary symbol left right =>
      match left.value with
      | .error failure => .error failure
      | .ok x =>
          match right.value with
          | .error failure => .error failure
          | .ok y => applyOperator symbol x y
  | .call name arguments =>
      match values arguments with
      | .error failure => .error failure
      | .ok xs => applyFunction name xs

def values : List Expr → Except Failure (List Binary64)
  | [] => .ok []
  | expr :: rest =>
      match expr.value with
      | .error failure => .error failure
      | .ok x => (values rest).map (x :: ·)

end

mutual

-- Every call is one of a known function, with as many arguments as it takes.
def WellCalled : Expr → Prop
  | .number _ => True
  | .binary _ left right => left.WellCalled ∧ right.WellCalled
  | .call name arguments =>
      (∃ function : Function, name = function.name ∧ arguments.length = function.arity) ∧
        AllWellCalled arguments

def AllWellCalled : List Expr → Prop
  | [] => True
  | expr :: rest => expr.WellCalled ∧ AllWellCalled rest

end

end Reckoner.Expr
