import Reckoner.Token.CallRule
import Reckoner.Token.Matching

namespace Reckoner.Token.CallRule

def namedAt (tokens : List Token) (place : Nat) : Option Function := calledBy tokens[place]?

-- The function whose name stands directly before the place.
def calledAt (tokens : List Token) (place : Nat) : Option Function :=
  calledBy (tokens.take place).getLast?

-- The commas that have the bracket at `left` around them and no other bracket
-- closer to them.
def commasOf (tokens : List Token) (left : Nat) : Nat :=
  (List.range tokens.length).countP fun place =>
    kindAt tokens place = some .comma ∧ Innermost tokens left place

def argumentsOf (tokens : List Token) (left right : Nat) : Nat :=
  if right = left + 1 then 0 else commasOf tokens left + 1

-- Every function name has its bracket, the bracket has its mate, and between them
-- are as many arguments as the function takes.
structure Obeys (tokens : List Token) : Prop where
  opened : ∀ place function, namedAt tokens place = some function →
    kindAt tokens (place + 1) = some .bracketOpen
  closed : ∀ left function, kindAt tokens left = some .bracketOpen →
    calledAt tokens left = some function → ∃ right, Mates tokens left right
  counted : ∀ left right function, Mates tokens left right →
    calledAt tokens left = some function → argumentsOf tokens left right = function.arity

-- What is wrong at a place: a name without its bracket, or the end of a call with
-- the wrong number of arguments.
inductive FaultAt (tokens : List Token) : Nat → EvalError → Prop
  | bare {place : Nat} {function : Function} :
      namedAt tokens place = some function → kindAt tokens (place + 1) ≠ some .bracketOpen →
      FaultAt tokens place (.malformedFunctionCall function.name)
  | count {left right : Nat} {function : Function} :
      Mates tokens left right → calledAt tokens left = some function →
      argumentsOf tokens left right ≠ function.arity →
      FaultAt tokens right (.arity function.name function.arity)

-- The bracket of a call that nothing closes.
structure UnclosedAt (tokens : List Token) (left : Nat) (function : Function) : Prop where
  opening : kindAt tokens left = some .bracketOpen
  called : calledAt tokens left = some function
  unmated : ∀ right, ¬Mates tokens left right

-- The leftmost fault comes first, and a call that is not closed comes after all of
-- them. Of several such calls the one that opens first is at fault.
inductive FirstFault (tokens : List Token) : EvalError → Prop
  | fault {place : Nat} {error : EvalError} :
      FaultAt tokens place error → (∀ earlier < place, ∀ other, ¬FaultAt tokens earlier other) →
      FirstFault tokens error
  | unclosed {left : Nat} {function : Function} :
      (∀ place other, ¬FaultAt tokens place other) → UnclosedAt tokens left function →
      (∀ earlier < left, ∀ other, ¬UnclosedAt tokens earlier other) →
      FirstFault tokens (.malformedFunctionCall function.name)

end Reckoner.Token.CallRule
