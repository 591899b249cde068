import Reckoner.Proofs.Expr.Graft
import Reckoner.Proofs.Reader
import Reckoner.Proofs.Stacks.Apply
import Reckoner.Proofs.Token.Zeros

namespace Reckoner

open Reckoner.Expr (allLeaves allLeaves_append allLeaves_singleton)

namespace Token

-- What the numbers among the tokens stand for.
def values (tokens : List Token) : List Binary64 :=
  tokens.filterMap fun token =>
    if token.kind = .number then Decimal.read? token.lexeme else none

theorem values_append (front back : List Token) :
    values (front ++ back) = values front ++ values back := List.filterMap_append

-- How many numbers there are once every minus has a left operand.
def numberCount (tokens : List Token) : Nat :=
  (withZeros tokens).countP (·.kind == .number)

theorem values_of_kind_ne {token : Token} (h : token.kind ≠ .number) : values [token] = [] := by
  simp [values, h]

theorem length_values {tokens : List Token}
    (h : ∀ token ∈ tokens, token.kind = .number → (Decimal.read? token.lexeme).isSome) :
    (values tokens).length = tokens.countP (·.kind == .number) := by
  induction tokens with
  | nil => rfl
  | cons token rest ih =>
      simp only [List.forall_mem_cons] at h
      have hrest := ih h.2
      unfold values at hrest ⊢
      by_cases hk : token.kind = .number
      · obtain ⟨value, hvalue⟩ := Option.isSome_iff_exists.mp (h.1 hk)
        simp [hk, hvalue, hrest]
      · simp [hk, hrest]

theorem values_unaryMinus {previous : Option Token} {token : Token}
    (h : isUnaryMinus previous token) : values (withZerosFrom previous [token]) =
      [Binary64.zero] := by
  have hk := (isUnaryMinus_iff.mp h).1
  simp [withZerosFrom, h, values, zero, hk, show Decimal.read? "0" = _ from Decimal.read?_zero]

theorem values_of_not_unaryMinus {previous : Option Token} {token : Token}
    (h : isUnaryMinus previous token = false) :
    values (withZerosFrom previous [token]) = values [token] := by
  simp [withZerosFrom, h]

end Token

namespace Stacks

-- The numbers on the stack, those of the oldest operand first.
def leaves (state : Stacks) : List Binary64 := allLeaves state.operands.reverse

theorem applyWhile_leaves {due : String → Except EvalError Bool} {floor : Nat}
    {waiting rest : List Waiting} {operands result : List Expr}
    (h : applyWhile due floor waiting operands = .ok (rest, result)) :
    allLeaves result.reverse = allLeaves operands.reverse := by
  fun_induction applyWhile due floor waiting operands with
  | case1 | case3 => cases h
  | case2 =>
      cases h
      rfl
  | case4 symbol waiting operands hdue next hjoin ih =>
      obtain ⟨right, left, older, rfl, -, rfl⟩ := join_eq_ok_iff.mp hjoin
      rw [ih h]
      simp [allLeaves_append, allLeaves, Expr.leaves]
  | case5 =>
      cases h
      rfl

theorem finish_leaves {waiting : List Waiting} {operands : List Expr} {expr : Expr}
    (h : finish waiting operands = .ok expr) : expr.leaves = allLeaves operands.reverse := by
  rw [← applyWhile_leaves (finish_eq_ok_iff.mp h)]
  exact (allLeaves_singleton expr).symm

theorem fold_leaves (frame : Frame) (operands : List Expr) :
    allLeaves (fold frame operands).reverse = allLeaves operands.reverse := by
  unfold fold
  generalize operands.length - frame.base = count
  calc allLeaves (.call frame.name (operands.take count).reverse :: operands.drop count).reverse
      = allLeaves ((operands.drop count).reverse ++ (operands.take count).reverse) := by
        simp [allLeaves_append, allLeaves_singleton, Expr.leaves]
    _ = allLeaves operands.reverse := by
        rw [← List.reverse_append, List.take_append_drop]

theorem withZero_leaves {previous : Option Token} {token : Token} (hk : token.kind = .operator)
    (operands : List Expr) :
    allLeaves (withZero previous token.lexeme operands).reverse =
      allLeaves operands.reverse ++ Token.values (Token.withZerosFrom previous [token]) := by
  have hminus : Token.isUnaryMinus previous token =
      (token.lexeme = "-" && Token.isUnaryPosition previous) := by
    simp only [Token.isUnaryMinus, hk, beq_self_eq_true, Bool.true_and]
    rfl
  unfold withZero
  rw [← hminus]
  cases hu : Token.isUnaryMinus previous token with
  | true => simp [Token.values_unaryMinus hu, allLeaves_append, allLeaves_singleton, Expr.leaves]
  | false =>
      have hnumber : token.kind ≠ .number := by simp [hk]
      simp [Token.values_of_not_unaryMinus hu, Token.values_of_kind_ne hnumber]

-- A token adds the numbers that it stands for, and no step loses one.
theorem receive_leaves {previous : Option Token} {token : Token} {state next : Stacks}
    (h : receive previous token state = .ok next) :
    next.leaves = state.leaves ++ Token.values (Token.withZerosFrom previous [token]) := by
  have hother (hk : token.kind ≠ .number) (hop : token.kind ≠ .operator) :
      Token.values (Token.withZerosFrom previous [token]) = [] := by
    have hminus : Token.isUnaryMinus previous token = false := by simp [Token.isUnaryMinus, hop]
    rw [Token.values_of_not_unaryMinus hminus, Token.values_of_kind_ne hk]
  cases hk : token.kind with
  | identifier =>
      rw [hother (by simp [hk]) (by simp [hk]), List.append_nil]
      simp only [receive, hk, map_eq_ok_iff] at h
      obtain ⟨-, -, rfl⟩ := h
      rfl
  | bracketOpen =>
      rw [hother (by simp [hk]) (by simp [hk]), List.append_nil]
      simp only [receive, hk] at h
      split at h
      · obtain ⟨_, -, rfl⟩ := openCall_cases h
        rfl
      · cases h
        rfl
  | comma =>
      rw [hother (by simp [hk]) (by simp [hk]), List.append_nil]
      simp only [receive, hk] at h
      obtain ⟨_, _, _, _, _, happly, -, -, rfl⟩ := comma_cases h
      exact applyWhile_leaves happly
  | bracketClose =>
      rw [hother (by simp [hk]) (by simp [hk]), List.append_nil]
      simp only [receive, hk] at h
      rcases close_cases h with ⟨_, _, happly, rfl⟩ | ⟨_, _, _, _, _, happly, -, -, rfl⟩
      · exact applyWhile_leaves happly
      · exact (fold_leaves _ _).trans (applyWhile_leaves happly)
  | number =>
      simp only [receive, hk] at h
      obtain ⟨value, hread, rfl⟩ := number_cases h
      have hminus : Token.isUnaryMinus previous token = false := by simp [Token.isUnaryMinus, hk]
      rw [Token.values_of_not_unaryMinus hminus]
      simp [leaves, allLeaves_append, allLeaves_singleton, Expr.leaves, Token.values, hk, hread]
  | operator =>
      simp only [receive, hk] at h
      obtain ⟨_, _, _, -, happly, rfl⟩ := operator_cases h
      exact (applyWhile_leaves happly).trans (withZero_leaves hk state.operands)

end Stacks

namespace Reader

theorem Reads.leaves {reader last : Reader} {tokens : List Token} (h : Reads reader tokens last) :
    last.state.leaves = reader.state.leaves ++
      Token.values (Token.withZerosFrom reader.previous tokens) := by
  induction h with
  | nil => simp [Token.withZerosFrom, Token.values]
  | @cons reader next last token rest hstep _ ih =>
      rw [ih, Stacks.receive_leaves hstep.state, hstep.previous,
        Token.withZerosFrom_cons reader.previous token rest, Token.values_append, List.append_assoc]

theorem Reads.readable {reader last : Reader} {tokens : List Token} (h : Reads reader tokens last) :
    ∀ token ∈ tokens, token.kind = .number → (Decimal.read? token.lexeme).isSome := by
  induction h with
  | nil => simp
  | cons hstep _ ih =>
      refine List.forall_mem_cons.mpr ⟨fun hk => ?_, ih⟩
      have hreceive := hstep.state
      simp only [Stacks.receive, hk] at hreceive
      obtain ⟨value, hread, -⟩ := Stacks.number_cases hreceive
      simp [hread]

theorem Reads.readable_withZeros {last : Reader} {tokens : List Token}
    (h : Reads start tokens last) : ∀ token ∈ Token.withZeros tokens, token.kind = .number →
      (Decimal.read? token.lexeme).isSome := by
  intro token hmem hk
  rcases Token.mem_withZerosFrom hmem with rfl | hmem
  · rw [Decimal.read?_zero]
    rfl
  · exact h.readable token hmem hk

-- As many numbers lie on the stack as have been read, the zeros included.
theorem Reads.length_leaves {last : Reader} {tokens : List Token} (h : Reads start tokens last) :
    last.state.leaves.length = Token.numberCount tokens := by
  have hleaves : last.state.leaves = Token.values (Token.withZeros tokens) := h.leaves
  rw [hleaves]
  exact Token.length_values h.readable_withZeros

end Reader

end Reckoner
