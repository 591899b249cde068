import Reckoner.Token.Basic

namespace Reckoner.Token

def zero : Token := ⟨.number, "0"⟩

def isUnaryMinus (previous : Option Token) (token : Token) : Bool :=
  token.kind == .operator && token.lexeme == "-" && isUnaryPosition previous

-- Every minus without a left operand gets a zero for one.
def withZerosFrom (previous : Option Token) : List Token → List Token
  | [] => []
  | token :: rest =>
      if isUnaryMinus previous token then zero :: token :: withZerosFrom (some token) rest
      else token :: withZerosFrom (some token) rest

def withZeros (tokens : List Token) : List Token := withZerosFrom none tokens

end Reckoner.Token
