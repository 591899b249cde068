import Reckoner.Expr.Stacks
import Reckoner.Token.Lexer

namespace Reckoner

-- Work still to be done on an expression, and the applications that wait for
-- the values of their operands.
inductive Task
  | visit (expr : Expr)
  | combine (symbol : String)
  | call (name : String) (count : Nat)

namespace Task

def weight : Task → Nat
  | .visit expr => 2 * expr.size
  | .combine _ => 1
  | .call _ _ => 1

def weights : List Task → Nat
  | [] => 0
  | task :: rest => task.weight + weights rest

-- Visits all expressions, the first one first, before the other tasks.
def visits : List Expr → List Task → List Task
  | [], tasks => tasks
  | expr :: rest, tasks => .visit expr :: visits rest tasks

theorem weights_visits (exprs : List Expr) (tasks : List Task) :
    weights (visits exprs tasks) = 2 * Expr.sizes exprs + weights tasks := by
  induction exprs with
  | nil => simp [visits, Expr.sizes]
  | cons expr exprs ih =>
      simp only [visits, weights, weight, Expr.sizes, ih]
      omega

-- Operands are visited left to right before their operator or function is
-- applied. `values` has the newest value first.
def run : List Task → List Binary64 → Except Failure Binary64
  | [], [value] => .ok value
  | [], _ => .error (.broken .valueCount)
  | .visit (.number value) :: tasks, values => run tasks (value :: values)
  | .visit (.binary symbol left right) :: tasks, values =>
      run (.visit left :: .visit right :: .combine symbol :: tasks) values
  | .visit (.call name arguments) :: tasks, values =>
      run (visits arguments (.call name arguments.length :: tasks)) values
  | .combine symbol :: tasks, right :: left :: values =>
      match applyOperator symbol left right with
      | .error failure => .error failure
      | .ok value => run tasks (value :: values)
  | .combine _ :: _, _ => .error (.broken .operandMissing)
  | .call name count :: tasks, values =>
      if values.length < count then .error (.broken .operandMissing)
      else match applyFunction name (values.take count).reverse with
        | .error failure => .error failure
        | .ok value => run tasks (value :: values.drop count)
  termination_by tasks => weights tasks
  decreasing_by
    all_goals simp only [weights, weight, weights_visits, Expr.size]
    all_goals omega

end Task

def Expr.evaluate (expr : Expr) : Except Failure Binary64 := Task.run [.visit expr] []

-- The value of an expression given as text.
def valueOf (text : String) : Except Failure Binary64 :=
  match Token.ofText text with
  | .error error => .error (.rejected error)
  | .ok tokens =>
      match Expr.ofTokens tokens with
      | .error failure => .error failure
      | .ok expr => expr.evaluate

end Reckoner
