import Reckoner.Function
import Reckoner.Token.Basic

namespace Reckoner.Token.CallRule

-- An open call, and the commas seen between its own brackets.
structure Span where
  function : Function
  commas : Nat
  deriving DecidableEq, Repr

def calledBy (previous : Option Token) : Option Function :=
  match previous with
  | some token => if token.kind = .identifier then Function.named? token.lexeme else none
  | none => none

def isOpening (token : Option Token) : Bool := token.any (·.kind == .bracketOpen)

-- A call whose brackets are adjacent has no arguments. Otherwise they are one
-- more than its commas.
def argumentCount (previous : Option Token) (span : Span) : Nat :=
  if isOpening previous then 0 else span.commas + 1

def close (previous : Option Token) : Option Span → Except EvalError Unit
  | none => .ok ()
  | some span =>
      if argumentCount previous span = span.function.arity then .ok ()
      else .error (.arity span.function.name span.function.arity)

def countComma : List (Option Span) → List (Option Span)
  | some span :: rest => some { span with commas := span.commas + 1 } :: rest
  | spans => spans

-- The call that was opened first among those still open.
def unclosed (spans : List (Option Span)) : Except EvalError Unit :=
  match (spans.filterMap id).getLast? with
  | some span => .error (.malformedFunctionCall span.function.name)
  | none => .ok ()

-- One entry for each open bracket, innermost first: the call that it opens, or
-- nothing for a plain bracket. A closing bracket without an open one is passed over.
def checkFrom (spans : List (Option Span)) (previous : Option Token) :
    List Token → Except EvalError Unit
  | [] => unclosed spans
  | token :: rest =>
      match token.kind with
      | .identifier =>
          if Function.isName token.lexeme && !isOpening rest.head? then
            .error (.malformedFunctionCall token.lexeme)
          else checkFrom spans (some token) rest
      | .bracketOpen =>
          checkFrom ((calledBy previous).map (⟨·, 0⟩) :: spans) (some token) rest
      | .comma => checkFrom (countComma spans) (some token) rest
      | .bracketClose =>
          match spans with
          | [] => checkFrom [] (some token) rest
          | span :: outer =>
              match close previous span with
              | .error error => .error error
              | .ok () => checkFrom outer (some token) rest
      | .number | .operator => checkFrom spans (some token) rest

-- Every function name opens a bracket, every such bracket is closed, and the
-- call between them has as many arguments as the function takes.
def check (tokens : List Token) : Except EvalError Unit := checkFrom [] none tokens

end Reckoner.Token.CallRule
