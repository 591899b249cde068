import Reckoner.Binary64.Basic

namespace Reckoner

-- Symbols and names are kept as they were written. A unary minus is a
-- subtraction from zero.
inductive Expr
  | number (value : Binary64)
  | binary (symbol : String) (left right : Expr)
  | call (name : String) (arguments : List Expr)

namespace Expr

mutual

def size : Expr → Nat
  | .number _ => 1
  | .binary _ left right => left.size + right.size + 1
  | .call _ arguments => sizes arguments + 1

def sizes : List Expr → Nat
  | [] => 0
  | expr :: rest => expr.size + sizes rest

end

end Expr

end Reckoner
