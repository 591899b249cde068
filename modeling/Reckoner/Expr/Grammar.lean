import Reckoner.Decimal.Read
import Reckoner.Expr.Basic
import Reckoner.Function
import Reckoner.Token.Zeros

namespace Reckoner.Expr.Grammar

def opening : Token := ⟨.bracketOpen, "("⟩

def closing : Token := ⟨.bracketClose, ")"⟩

def separator : Token := ⟨.comma, ","⟩

-- The usual infix grammar, with the expression that each derivation stands for.
-- A sum is a chain of products and a product a chain of atoms, both grouped to
-- the left. A bracket leaves no trace in the expression.
mutual

inductive IsSum : List Token → Expr → Prop
  | product {tokens : List Token} {expr : Expr} : IsProduct tokens expr → IsSum tokens expr
  | chain {tokens more : List Token} {left right : Expr} {symbol : String} :
      IsSum tokens left → symbol ∈ ["+", "-"] → IsProduct more right →
      IsSum (tokens ++ ⟨.operator, symbol⟩ :: more) (.binary symbol left right)

inductive IsProduct : List Token → Expr → Prop
  | atom {tokens : List Token} {expr : Expr} : IsAtom tokens expr → IsProduct tokens expr
  | chain {tokens more : List Token} {left right : Expr} {symbol : String} :
      IsProduct tokens left → symbol ∈ ["*", "/", "%"] → IsAtom more right →
      IsProduct (tokens ++ ⟨.operator, symbol⟩ :: more) (.binary symbol left right)

inductive IsAtom : List Token → Expr → Prop
  | number {lexeme : String} {value : Binary64} :
      Decimal.read? lexeme = some value → IsAtom [⟨.number, lexeme⟩] (.number value)
  | group {tokens : List Token} {expr : Expr} :
      IsSum tokens expr → IsAtom (opening :: tokens ++ [closing]) expr
  | call {function : Function} {tokens : List Token} {arguments : List Expr} :
      AreArguments tokens arguments → arguments.length = function.arity →
      IsAtom (⟨.identifier, function.name⟩ :: opening :: tokens ++ [closing])
        (.call function.name arguments)

inductive AreArguments : List Token → List Expr → Prop
  | last {tokens : List Token} {expr : Expr} : IsSum tokens expr → AreArguments tokens [expr]
  | more {tokens rest : List Token} {expr : Expr} {exprs : List Expr} :
      IsSum tokens expr → AreArguments rest exprs →
      AreArguments (tokens ++ separator :: rest) (expr :: exprs)

end

-- A sentence may leave out the zero before a minus.
def IsSentence (tokens : List Token) (expr : Expr) : Prop := IsSum (Token.withZeros tokens) expr

end Reckoner.Expr.Grammar
