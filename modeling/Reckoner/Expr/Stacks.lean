import Reckoner.Decimal.Read
import Reckoner.Expr.Basic
import Reckoner.Operator
import Reckoner.Token.CallRule

namespace Reckoner

-- A call whose arguments are still being read: how many operands stood before
-- it, and how many of its arguments are complete.
structure Frame where
  name : String
  base : Nat
  finished : Nat
  deriving DecidableEq, Repr

-- Operands below the floor belong to what encloses the argument being read.
def Frame.floor (frame : Frame) : Nat := frame.base + frame.finished

-- What stands between two operands until it can be applied or closed. A call that
-- waits and its frame among the calls are one and the same object, of which one copy is
-- kept: the entry that waits has no more than the name.
inductive Waiting
  | operator (symbol : String)
  | bracket
  | call (name : String)
  deriving DecidableEq, Repr

-- All three have their newest entry first. There is one frame for each call
-- among the waiting entries.
structure Stacks where
  operands : List Expr
  waiting : List Waiting
  calls : List Frame

namespace Stacks

def empty : Stacks := ⟨[], [], []⟩

def floor (calls : List Frame) : Nat :=
  match calls with
  | [] => 0
  | frame :: _ => frame.floor

-- The two newest operands become one. Both have to lie above the floor.
def join (floor : Nat) (symbol : String) (operands : List Expr) : Except Failure (List Expr) :=
  if operands.length < floor + 2 then .error (.rejected .invalidExpression)
  else match operands with
    | right :: left :: rest => .ok (.binary symbol left right :: rest)
    | _ => .error (.broken .operandMissing)

-- Applies the operators on top for as long as they are due.
def applyWhile (due : String → Except EvalError Bool) (floor : Nat) :
    List Waiting → List Expr → Except Failure (List Waiting × List Expr)
  | .operator symbol :: waiting, operands =>
      match due symbol with
      | .error error => .error (.rejected error)
      | .ok false => .ok (.operator symbol :: waiting, operands)
      | .ok true =>
          match join floor symbol operands with
          | .error failure => .error failure
          | .ok operands => applyWhile due floor waiting operands
  | waiting, operands => .ok (waiting, operands)

def applyAll (state : Stacks) : Except Failure (List Waiting × List Expr) :=
  applyWhile (fun _ => .ok true) (floor state.calls) state.waiting state.operands

-- An argument has to leave exactly one operand above the floor of its call.
def finishArgument (frame : Frame) (operands : List Expr) : Except Failure Frame :=
  if operands.length < frame.floor then .error (.broken .operandsBelowFloor)
  else match operands.length - frame.floor with
    | 0 => .error (.rejected (.numberFormat ""))
    | 1 => .ok { frame with finished := frame.finished + 1 }
    | _ => .error (.rejected .invalidExpression)

def number (lexeme : String) (state : Stacks) : Except Failure Stacks :=
  match Decimal.read? lexeme with
  | some value => .ok { state with operands := .number value :: state.operands }
  | none => .error (.rejected (.numberFormat lexeme))

-- A name that is no function's is rejected for its first letter.
def openCall (name : String) (state : Stacks) : Except Failure Stacks :=
  if Function.isName name then
    .ok { state with
      waiting := .call name :: state.waiting
      calls := ⟨name, state.operands.length, 0⟩ :: state.calls }
  else match name.toList with
    | [] => .error (.broken .emptyName)
    | c :: _ => .error (.rejected (.invalidCharacter (String.singleton c)))

-- A bracket that is not the usual one is nobody's mate and waits as a symbol
-- that no operator has.
def openBracket (lexeme : String) (state : Stacks) : Stacks :=
  { state with
    waiting := (if lexeme = "(" then .bracket else .operator lexeme) :: state.waiting }

def comma (lexeme : String) (state : Stacks) : Except Failure Stacks :=
  match applyAll state with
  | .error failure => .error failure
  | .ok (waiting, operands) =>
      match waiting, state.calls with
      | .call _ :: _, frame :: calls =>
          (finishArgument frame operands).map fun frame => ⟨operands, waiting, frame :: calls⟩
      | .call _ :: _, [] => .error (.broken .frameMissing)
      | _, _ => .error (.rejected (.invalidCharacter lexeme))

-- The operands of a call are those that came after it, oldest first.
def fold (frame : Frame) (operands : List Expr) : List Expr :=
  let count := operands.length - frame.base
  .call frame.name (operands.take count).reverse :: operands.drop count

def close (state : Stacks) : Except Failure Stacks :=
  match applyAll state with
  | .error failure => .error failure
  | .ok (waiting, operands) =>
      match waiting, state.calls with
      | [], _ => .error (.rejected .mismatchedParentheses)
      | .call _ :: waiting, frame :: calls =>
          (finishArgument frame operands).map fun frame => ⟨fold frame operands, waiting, calls⟩
      | .call _ :: _, [] => .error (.broken .frameMissing)
      | _ :: waiting, calls => .ok ⟨operands, waiting, calls⟩

-- Operators of one precedence group to the left, so those that bind at least
-- as tightly are applied first.
def operator (previous : Option Token) (symbol : String) (state : Stacks) :
    Except Failure Stacks :=
  let operands :=
    if symbol = "-" && Token.isUnaryPosition previous then .number Binary64.zero :: state.operands
    else state.operands
  match precedence symbol with
  | .error error => .error (.rejected error)
  | .ok binding =>
      (applyWhile (fun top => (precedence top).map (fun other => decide (binding ≤ other)))
          (floor state.calls) state.waiting operands).map
        fun (waiting, operands) => ⟨operands, .operator symbol :: waiting, state.calls⟩

def step (previous : Option Token) (token : Token) (state : Stacks) : Except Failure Stacks :=
  match token.kind with
  | .number => number token.lexeme state
  | .identifier => openCall token.lexeme state
  | .bracketOpen => .ok (openBracket token.lexeme state)
  | .comma => comma token.lexeme state
  | .bracketClose => close state
  | .operator => operator previous token.lexeme state

-- The bracket after a function's name belongs to the name and is passed over
-- with it: the call rule has made sure that it is there.
def readFrom (previous : Option Token) (state : Stacks) :
    List Token → Except Failure Stacks
  | [] => .ok state
  | token :: rest =>
      match step previous token state with
      | .error failure => .error failure
      | .ok state =>
          if token.kind = .identifier then
            match rest with
            | [] => .error (.broken .bracketMissing)
            | bracket :: rest => readFrom (some bracket) state rest
          else readFrom (some token) state rest

-- At the end of the tokens nothing may be open, and one operand is left.
def finish : List Waiting → List Expr → Except Failure Expr
  | [], [expr] => .ok expr
  | [], _ => .error (.rejected .invalidExpression)
  | .call name :: _, _ => .error (.rejected (.malformedFunctionCall name))
  | .bracket :: _, _ => .error (.rejected .mismatchedParentheses)
  | .operator symbol :: waiting, operands =>
      match join 0 symbol operands with
      | .error failure => .error failure
      | .ok operands => finish waiting operands

end Stacks

def Expr.ofTokens (tokens : List Token) : Except Failure Expr :=
  if tokens.isEmpty then .error (.rejected .emptyExpression)
  else match Token.CallRule.check tokens with
    | .error error => .error (.rejected error)
    | .ok () =>
        match Stacks.readFrom none Stacks.empty tokens with
        | .error failure => .error failure
        | .ok state => Stacks.finish state.waiting state.operands

end Reckoner
