import Reckoner.Expr.Basic

namespace Reckoner.Expr

mutual

-- The numbers of an expression from left to right.
def leaves : Expr → List Binary64
  | .number value => [value]
  | .binary _ left right => left.leaves ++ right.leaves
  | .call _ arguments => allLeaves arguments

def allLeaves : List Expr → List Binary64
  | [] => []
  | expr :: rest => expr.leaves ++ allLeaves rest

end

mutual

-- Puts an expression in the place of the leaf with so many leaves to its left.
-- Without such a leaf nothing changes.
def graft (scion : Expr) (place : Nat) : Expr → Expr
  | .number value => if place = 0 then scion else .number value
  | .binary symbol left right =>
      if place < left.leaves.length then .binary symbol (graft scion place left) right
      else .binary symbol left (graft scion (place - left.leaves.length) right)
  | .call name arguments => .call name (graftInto scion place arguments)

def graftInto (scion : Expr) (place : Nat) : List Expr → List Expr
  | [] => []
  | expr :: rest =>
      if place < expr.leaves.length then graft scion place expr :: rest
      else expr :: graftInto scion (place - expr.leaves.length) rest

end

mutual

-- The symbols of the operators, and below the names of the functions, in the
-- order in which they are applied.
def symbols : Expr → List String
  | .number _ => []
  | .binary symbol left right => left.symbols ++ right.symbols ++ [symbol]
  | .call _ arguments => allSymbols arguments

def allSymbols : List Expr → List String
  | [] => []
  | expr :: rest => expr.symbols ++ allSymbols rest

end

mutual

def callNames : Expr → List String
  | .number _ => []
  | .binary _ left right => left.callNames ++ right.callNames
  | .call name arguments => allCallNames arguments ++ [name]

def allCallNames : List Expr → List String
  | [] => []
  | expr :: rest => expr.callNames ++ allCallNames rest

end

end Reckoner.Expr
