import Reckoner.Proofs.Token.Scan

namespace Reckoner.Token

def beginsOperand : Option Token → Bool
  | none => false
  | some token =>
      match token.kind with
      | .number | .identifier | .bracketOpen => true
      | .operator | .bracketClose | .comma => false

def endsOperand : Option Token → Bool
  | none => false
  | some token =>
      match token.kind with
      | .number | .bracketClose => true
      | .identifier | .bracketOpen | .operator | .comma => false

theorem exists_of_endsOperand {previous : Option Token} (h : endsOperand previous) :
    ∃ token, previous = some token ∧ (token.kind = .number ∨ token.kind = .bracketClose) := by
  cases previous with
  | none => cases h
  | some token =>
      refine ⟨token, rfl, ?_⟩
      unfold endsOperand at h
      cases hk : token.kind <;> simp_all

theorem calledBy_of_endsOperand {previous : Option Token} (h : endsOperand previous) :
    CallRule.calledBy previous = none := by
  obtain ⟨token, rfl, hk⟩ := exists_of_endsOperand h
  apply CallRule.calledBy_of_kind_ne
  rcases hk with hk | hk <;> simp [hk]

theorem isUnaryPosition_of_endsOperand {previous : Option Token} (h : endsOperand previous) :
    isUnaryPosition previous = false := by
  obtain ⟨token, rfl, hk⟩ := exists_of_endsOperand h
  rcases hk with hk | hk <;> simp [isUnaryPosition, hk]

theorem isOpening_of_endsOperand {previous : Option Token} (h : endsOperand previous) :
    CallRule.isOpening previous = false := by
  obtain ⟨token, rfl, hk⟩ := exists_of_endsOperand h
  rcases hk with hk | hk <;> simp [CallRule.isOpening, hk]

def isOperator (token : Option Token) : Bool := token.any (·.kind == .operator)

def isClosing (token : Option Token) : Bool := token.any (·.kind == .bracketClose)

-- What two neighbours can have wrong: an operator with no operand on one side,
-- two operands side by side, or a group with nothing in it.
def clash (left right : Option Token) : Bool :=
  (isOperator right && !endsOperand left) || (isOperator left && !beginsOperand right) ||
    (endsOperand left && beginsOperand right) || (CallRule.isOpening left && isClosing right)

-- No two neighbours clash, both ends of the tokens included.
def clashFree (previous : Option Token) : List Token → Bool
  | [] => !clash previous none
  | token :: rest => !clash previous (some token) && clashFree (some token) rest

-- The same without the end.
def clashFreeUpTo (previous : Option Token) : List Token → Bool
  | [] => true
  | token :: rest => !clash previous (some token) && clashFreeUpTo (some token) rest

theorem clashFree_eq (previous : Option Token) (tokens : List Token) :
    clashFree previous tokens =
      (clashFreeUpTo previous tokens && !clash (after previous tokens) none) := by
  induction tokens generalizing previous with
  | nil => simp [clashFree, clashFreeUpTo]
  | cons token rest ih => simp [clashFree, clashFreeUpTo, ih, Bool.and_assoc]

theorem clashFreeUpTo_append (previous : Option Token) (front back : List Token) :
    clashFreeUpTo previous (front ++ back) =
      (clashFreeUpTo previous front && clashFreeUpTo (after previous front) back) := by
  induction front generalizing previous with
  | nil => simp [clashFreeUpTo]
  | cons token front ih => simp [clashFreeUpTo, ih, Bool.and_assoc]

-- What begins an operand may follow whatever ends none.
theorem clash_of_begins {left : Option Token} {right : Token} (hl : endsOperand left = false)
    (hr : right.kind = .number ∨ right.kind = .identifier ∨ right.kind = .bracketOpen) :
    clash left (some right) = false := by
  rcases hr with hr | hr | hr <;> simp [clash, hl, isOperator, hr, isClosing, beginsOperand]

-- What begins no operand, the end included, may follow whatever ends one.
theorem clash_of_ends {left right : Option Token} (hl : endsOperand left)
    (hr : beginsOperand right = false) : clash left right = false := by
  obtain ⟨token, rfl, hk⟩ := exists_of_endsOperand hl
  rcases hk with hk | hk <;>
    simp [clash, hl, hr, isOperator, hk, CallRule.isOpening]

theorem endsOperand_of_operator {left : Option Token} {token : Token} (hk : token.kind = .operator)
    (h : clash left (some token) = false) : endsOperand left := by
  cases hl : endsOperand left with
  | true => rfl
  | false => simp [clash, hl, isOperator, hk] at h

theorem beginsOperand_of_endsOperand {left right : Option Token} (hl : endsOperand left)
    (h : clash left right = false) : beginsOperand right = false := by
  cases hr : beginsOperand right with
  | false => rfl
  | true => simp [clash, hl, hr] at h

-- Behind an operator only an operand can stand.
theorem isOperator_of_clash {left right : Option Token} (hr : beginsOperand right = false)
    (h : clash left right = false) : isOperator left = false := by
  cases hl : isOperator left with
  | false => rfl
  | true => simp [clash, hl, hr] at h

theorem isOpening_of_clash {left : Option Token} {token : Token} (hk : token.kind = .bracketClose)
    (h : clash left (some token) = false) : CallRule.isOpening left = false := by
  cases hl : CallRule.isOpening left with
  | false => rfl
  | true => simp [clash, hl, isClosing, hk] at h

end Reckoner.Token
