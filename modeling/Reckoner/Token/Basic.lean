namespace Reckoner

inductive TokenKind
  | number
  | operator
  | bracketOpen
  | bracketClose
  | comma
  | identifier
  deriving DecidableEq, Repr

structure Token where
  kind : TokenKind
  lexeme : String
  deriving DecidableEq, Repr

def TokenKind.all : List TokenKind :=
  [.number, .operator, .bracketOpen, .bracketClose, .comma, .identifier]

-- At the start and after an opening bracket, a comma or another operator there
-- is no left operand.
def Token.isUnaryPosition : Option Token → Bool
  | none => true
  | some token =>
      match token.kind with
      | .bracketOpen | .comma | .operator => true
      | .number | .bracketClose | .identifier => false

end Reckoner
