import Reckoner.Expr.Grammar
import Reckoner.Proofs.Token.Places

namespace Reckoner

open Token (after clash clashFree clashFreeUpTo endsOperand beginsOperand)

namespace Expr.Grammar

-- The tokens have no clash inside and begin and end an operand.
structure Fits (previous : Option Token) (tokens : List Token) : Prop where
  inside : clashFreeUpTo previous tokens
  ends : endsOperand (after previous tokens)

theorem Fits.clashFree {tokens : List Token} (h : Fits none tokens) : clashFree none tokens := by
  have hend := Token.clash_of_ends h.ends (show beginsOperand none = false from rfl)
  simp [Token.clashFree_eq, h.inside, hend]

theorem Fits.append {previous : Option Token} {front more : List Token} {token : Token}
    (hfront : Fits previous front) (hbegins : beginsOperand (some token) = false)
    (hmore : Fits (some token) more) : Fits previous (front ++ token :: more) where
  inside := by
    simp [Token.clashFreeUpTo_append, hfront.inside, clashFreeUpTo,
      Token.clash_of_ends hfront.ends hbegins, hmore.inside]
  ends := by simpa using hmore.ends

theorem Fits.append_closing {previous : Option Token} {front : List Token}
    (h : Fits previous front) : Fits previous (front ++ [closing]) where
  inside := by
    have hclose := Token.clash_of_ends h.ends (show beginsOperand (some closing) = false from rfl)
    simp [Token.clashFreeUpTo_append, h.inside, clashFreeUpTo, hclose]
  ends := by simp [closing, endsOperand]

theorem Fits.cons {previous : Option Token} {token : Token} {rest : List Token}
    (hclash : clash previous (some token) = false) (h : Fits (some token) rest) :
    Fits previous (token :: rest) where
  inside := by simp [clashFreeUpTo, hclash, h.inside]
  ends := h.ends

mutual

theorem IsSum.fits {tokens : List Token} {expr : Expr} (h : IsSum tokens expr)
    (previous : Option Token) (hp : endsOperand previous = false) : Fits previous tokens :=
  match h with
  | .product hproduct => hproduct.fits previous hp
  | @IsSum.chain _ _ _ _ symbol hleft _ hright =>
      (hleft.fits previous hp).append rfl (hright.fits (some ⟨.operator, symbol⟩) rfl)

theorem IsProduct.fits {tokens : List Token} {expr : Expr} (h : IsProduct tokens expr)
    (previous : Option Token) (hp : endsOperand previous = false) : Fits previous tokens :=
  match h with
  | .atom hatom => hatom.fits previous hp
  | @IsProduct.chain _ _ _ _ symbol hleft _ hright =>
      (hleft.fits previous hp).append rfl (hright.fits (some ⟨.operator, symbol⟩) rfl)

theorem IsAtom.fits {tokens : List Token} {expr : Expr} (h : IsAtom tokens expr)
    (previous : Option Token) (hp : endsOperand previous = false) : Fits previous tokens :=
  match h with
  | .number _ => .cons (Token.clash_of_begins hp (.inl rfl)) ⟨rfl, rfl⟩
  | .group hsum =>
      .cons (Token.clash_of_begins hp (.inr (.inr rfl)))
        (hsum.fits (some opening) rfl).append_closing
  | .call harguments _ =>
      .cons (Token.clash_of_begins hp (.inr (.inl rfl)))
        (.cons rfl (harguments.fits (some opening) rfl).append_closing)

theorem AreArguments.fits {tokens : List Token} {exprs : List Expr} (h : AreArguments tokens exprs)
    (previous : Option Token) (hp : endsOperand previous = false) : Fits previous tokens :=
  match h with
  | .last hsum => hsum.fits previous hp
  | .more hsum hmore => (hsum.fits previous hp).append rfl (hmore.fits (some separator) rfl)

end

theorem IsSentence.clashFree {tokens : List Token} {expr : Expr} (h : IsSentence tokens expr) :
    Token.clashFree none (Token.withZeros tokens) :=
  (IsSum.fits h none rfl).clashFree

end Expr.Grammar

end Reckoner
