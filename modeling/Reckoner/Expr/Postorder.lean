import Reckoner.Expr.Basic

namespace Reckoner.Expr

-- A node of an expression without its operands.
inductive Node
  | number (value : Binary64)
  | binary (symbol : String)
  | call (name : String) (count : Nat)
  deriving DecidableEq

mutual

-- Operands come before the node that needs them, from left to right, and
-- `after` comes last.
def postorderBefore (after : List Node) : Expr → List Node
  | .number value => .number value :: after
  | .binary symbol left right =>
      postorderBefore (postorderBefore (.binary symbol :: after) right) left
  | .call name arguments =>
      postordersBefore (.call name arguments.length :: after) arguments

def postordersBefore (after : List Node) : List Expr → List Node
  | [] => after
  | expr :: rest => postorderBefore (postordersBefore after rest) expr

end

def postorder (expr : Expr) : List Node := postorderBefore [] expr

-- `operands` has the newest expression first.
def rebuild : List Node → List Expr → Option Expr
  | [], [expr] => some expr
  | [], _ => none
  | .number value :: nodes, operands => rebuild nodes (.number value :: operands)
  | .binary symbol :: nodes, right :: left :: operands =>
      rebuild nodes (.binary symbol left right :: operands)
  | .binary _ :: _, _ => none
  | .call name count :: nodes, operands =>
      if operands.length < count then none
      else rebuild nodes (.call name (operands.take count).reverse :: operands.drop count)

def ofPostorder? (nodes : List Node) : Option Expr := rebuild nodes []

end Reckoner.Expr
