import Reckoner.Expr.Stacks
import Reckoner.Proofs.Token.Lexed
import Reckoner.Proofs.Token.Scan
import Reckoner.Token.Zeros

namespace Reckoner

namespace Token

theorem isUnaryMinus_iff {previous : Option Token} {token : Token} :
    isUnaryMinus previous token ↔
      token.kind = .operator ∧ token.lexeme = "-" ∧ isUnaryPosition previous := by
  simp [isUnaryMinus, and_assoc]

theorem isUnaryMinus_of_position {previous : Option Token} (h : isUnaryPosition previous = false)
    (token : Token) : isUnaryMinus previous token = false := by
  simp [isUnaryMinus, h]

@[simp] theorem isUnaryPosition_zero : isUnaryPosition (some zero) = false := rfl

-- No zero is put in after a name, so that the bracket stays beside it.
theorem withZerosFrom_cons_of_position {previous : Option Token}
    (h : isUnaryPosition previous = false) (token : Token) (rest : List Token) :
    withZerosFrom previous (token :: rest) = token :: withZerosFrom (some token) rest := by
  simp [withZerosFrom, isUnaryMinus_of_position h]

theorem head?_withZerosFrom {previous : Option Token} (h : isUnaryPosition previous = false)
    (tokens : List Token) : (withZerosFrom previous tokens).head? = tokens.head? := by
  cases tokens with
  | nil => rfl
  | cons token rest => rw [withZerosFrom_cons_of_position h]; rfl

theorem isUnaryPosition_of_kind {token : Token}
    (h : token.kind = .number ∨ token.kind = .bracketClose ∨ token.kind = .identifier) :
    isUnaryPosition (some token) = false := by
  rcases h with h | h | h <;> simp [isUnaryPosition, h]

theorem mem_withZerosFrom {previous : Option Token} {tokens : List Token} {token : Token}
    (h : token ∈ withZerosFrom previous tokens) : token = zero ∨ token ∈ tokens := by
  induction tokens generalizing previous with
  | nil => cases h
  | cons first rest ih =>
      rw [withZerosFrom] at h
      have hrest (h : token ∈ withZerosFrom (some first) rest) :
          token = zero ∨ token ∈ first :: rest := by
        rcases ih h with hzero | hmem
        · exact .inl hzero
        · exact .inr (List.mem_cons_of_mem _ hmem)
      split at h
      · rcases List.mem_cons.mp h with hzero | h
        · exact .inl hzero
        · rcases List.mem_cons.mp h with rfl | h
          · exact .inr List.mem_cons_self
          · exact hrest h
      · rcases List.mem_cons.mp h with rfl | h
        · exact .inr List.mem_cons_self
        · exact hrest h

theorem plain_of_mem_withZerosFrom {previous : Option Token} {tokens : List Token}
    (hplain : ∀ token ∈ tokens, token.Plain) :
    ∀ token ∈ withZerosFrom previous tokens, token.Plain := by
  intro token h
  rcases mem_withZerosFrom h with rfl | hmem
  · exact plain_of_kind (.inl rfl)
  · exact hplain token hmem

theorem withZerosFrom_cons (previous : Option Token) (token : Token) (rest : List Token) :
    withZerosFrom previous (token :: rest) =
      withZerosFrom previous [token] ++ withZerosFrom (some token) rest := by
  simp only [withZerosFrom]
  split <;> rfl

theorem mem_withZerosFrom_of_mem {tokens : List Token} {token : Token} (h : token ∈ tokens)
    (previous : Option Token) : token ∈ withZerosFrom previous tokens := by
  induction tokens generalizing previous with
  | nil => cases h
  | cons first rest ih =>
      rw [withZerosFrom_cons, List.mem_append]
      rcases List.mem_cons.mp h with rfl | hmem
      · left
        rw [withZerosFrom]
        split <;> simp
      · exact .inr (ih hmem (some first))

-- No minus is left without a left operand.
def NoUnaryMinus (previous : Option Token) : List Token → Prop
  | [] => True
  | token :: rest => isUnaryMinus previous token = false ∧ NoUnaryMinus (some token) rest

theorem noUnaryMinus_withZerosFrom (previous : Option Token) (tokens : List Token) :
    NoUnaryMinus previous (withZerosFrom previous tokens) := by
  induction tokens generalizing previous with
  | nil => trivial
  | cons token rest ih =>
      rw [withZerosFrom]
      split
      · exact ⟨rfl, isUnaryMinus_of_position rfl token, ih (some token)⟩
      · rename_i h
        exact ⟨by simpa using h, ih (some token)⟩

theorem NoUnaryMinus.of_append {previous : Option Token} {front back : List Token} {token : Token}
    (h : NoUnaryMinus previous (front ++ token :: back)) :
    isUnaryMinus (after previous front) token = false := by
  induction front generalizing previous with
  | nil => exact h.1
  | cons first front ih => exact ih h.2

end Token

-- The zero that is written reads as the one that an unwritten operand stands for.
theorem Decimal.read?_zero : Decimal.read? Token.zero.lexeme = some Binary64.zero := by
  decide +kernel

namespace Token.CallRule

theorem checkFrom_operator {token : Token} (h : token.kind = .operator)
    (spans : List (Option Span)) (previous : Option Token) (rest : List Token) :
    checkFrom spans previous (token :: rest) = checkFrom spans (some token) rest := by
  simp [checkFrom, h]

theorem checkFrom_withZerosFrom (spans : List (Option Span)) (previous : Option Token)
    (tokens : List Token) :
    checkFrom spans previous (withZerosFrom previous tokens) = checkFrom spans previous tokens := by
  induction tokens generalizing spans previous with
  | nil => rfl
  | cons token rest ih =>
      rw [withZerosFrom]
      split
      · rename_i h
        obtain ⟨hk, -, -⟩ := isUnaryMinus_iff.mp h
        rw [checkFrom_operator hk, ← ih, ← checkFrom_operator hk spans (some zero)]
        rfl
      · cases hk : token.kind with
        | identifier =>
            have hp : isUnaryPosition (some token) = false :=
              isUnaryPosition_of_kind (.inr (.inr hk))
            simp only [checkFrom, hk, head?_withZerosFrom hp, ih]
        | bracketClose =>
            simp only [checkFrom, hk]
            cases spans with
            | nil => exact ih _ _
            | cons span outer => simp only [ih]
        | number | operator | bracketOpen | comma => simp only [checkFrom, hk, ih]

end Token.CallRule

namespace Stacks

theorem step_unaryMinus {previous : Option Token} {token : Token}
    (h : Token.isUnaryMinus previous token) (state : Stacks) :
    step previous token state = step (some Token.zero) token
      { state with operands := .number Binary64.zero :: state.operands } := by
  obtain ⟨hk, hl, hp⟩ := Token.isUnaryMinus_iff.mp h
  simp [step, hk, operator, hl, hp]

theorem readFrom_zero_cons {previous : Option Token} {token : Token}
    (h : Token.isUnaryMinus previous token) (state : Stacks) (rest : List Token) :
    readFrom previous state (Token.zero :: token :: rest) =
      readFrom previous state (token :: rest) := by
  have hzero : step previous Token.zero state =
      .ok { state with operands := .number Binary64.zero :: state.operands } := by
    simp [step, Token.zero, number, show Decimal.read? "0" = _ from Decimal.read?_zero]
  have hk : Token.zero.kind ≠ .identifier := by decide
  rw [readFrom, hzero]
  simp only [hk, ite_false]
  rw [readFrom, ← step_unaryMinus h, readFrom]

-- The stacks cannot tell a zero that was written from one that was left out.
theorem readFrom_withZerosFrom (previous : Option Token) (state : Stacks) (tokens : List Token) :
    readFrom previous state (Token.withZerosFrom previous tokens) =
      readFrom previous state tokens := by
  have hcons (previous : Option Token) (state : Stacks) (token : Token) (rest : List Token) :
      readFrom previous state (Token.withZerosFrom previous (token :: rest)) =
        readFrom previous state (token :: Token.withZerosFrom (some token) rest) := by
    rw [Token.withZerosFrom]
    split
    · rename_i h
      exact readFrom_zero_cons h state _
    · rfl
  fun_induction readFrom previous state tokens with
  | case1 => rfl
  | case2 previous state token rest failure hstep => rw [hcons, readFrom, hstep]
  | case3 previous state token next hstep hk =>
      rw [hcons, readFrom, hstep]
      simp only [hk, ite_true]
      rfl
  | case4 previous state token next hstep hk bracket rest ih =>
      have hp := Token.isUnaryPosition_of_kind (.inr (.inr hk))
      rw [hcons, readFrom, hstep]
      simp only [hk, ite_true, Token.withZerosFrom_cons_of_position hp]
      exact ih
  | case5 previous state token rest next hstep hk ih =>
      rw [hcons, readFrom, hstep]
      simp only [hk, ite_false]
      exact ih

end Stacks

theorem Expr.ofTokens_withZeros (tokens : List Token) :
    Expr.ofTokens (Token.withZeros tokens) = Expr.ofTokens tokens := by
  have hempty : (Token.withZeros tokens).isEmpty = tokens.isEmpty := by
    cases tokens with
    | nil => rfl
    | cons token rest =>
        simp only [Token.withZeros, Token.withZerosFrom]
        split <;> rfl
  unfold Expr.ofTokens Token.CallRule.check
  rw [hempty, Token.withZeros, Token.CallRule.checkFrom_withZerosFrom,
    Stacks.readFrom_withZerosFrom]

-- A minus without a left operand is a subtraction from zero, whatever tokens it
-- stands among: the same expression comes of them, or the same failure.
theorem Expr.unaryMinus_is_subtraction (tokens : List Token) :
    ofTokens (Token.withZeros tokens) = ofTokens tokens ∧
      ∀ before token after, Token.withZeros tokens = before ++ token :: after →
        Token.isUnaryMinus before.getLast? token = false := by
  refine ⟨ofTokens_withZeros tokens, fun before token after hsplit => ?_⟩
  have hnone : Token.NoUnaryMinus none (before ++ token :: after) := by
    rw [← hsplit]
    exact Token.noUnaryMinus_withZerosFrom none tokens
  rw [← Token.after_none]
  exact hnone.of_append

end Reckoner
