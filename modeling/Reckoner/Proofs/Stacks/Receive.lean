import Reckoner.Proofs.Stacks.Cases

namespace Reckoner

open Token.CallRule (Span calledBy scan scanOne)

namespace Stacks

-- Reads every token by itself. The bracket after a function's name is what
-- opens the call, the name alone changes nothing.
def receive (previous : Option Token) (token : Token) (state : Stacks) : Except Failure Stacks :=
  match token.kind with
  | .identifier => (openCall token.lexeme state).map fun _ => state
  | .bracketOpen =>
      match calledBy previous with
      | some function => openCall function.name state
      | none => .ok (openBracket token.lexeme state)
  | .comma => comma token.lexeme state
  | .bracketClose => close state
  | .number => number token.lexeme state
  | .operator => operator previous token.lexeme state

def receiveAll (previous : Option Token) (state : Stacks) : List Token → Except Failure Stacks
  | [] => .ok state
  | token :: rest =>
      (receive previous token state).bind fun state => receiveAll (some token) state rest

theorem receive_eq_step (previous : Option Token) (token : Token) (state : Stacks)
    (hp : calledBy previous = none) (hk : token.kind ≠ .identifier) :
    receive previous token state = step previous token state := by
  unfold receive step
  cases hc : token.kind with
  | identifier => exact absurd hc hk
  | number | operator | bracketOpen | bracketClose | comma => simp [hp]

theorem openCall_name (function : Function) (state : Stacks) :
    openCall function.name state = .ok { state with
      waiting := .call function.name :: state.waiting
      calls := ⟨function.name, state.operands.length, 0⟩ :: state.calls } := by
  simp [openCall, Function.isName]

-- A name that is no function's ends the reading at once. After any other name
-- the call rule has seen the bracket.
theorem readFrom_eq_receiveAll (previous : Option Token) (state : Stacks) (tokens : List Token)
    (spans last : List (Option Span)) (hp : calledBy previous = none)
    (hs : scan previous spans tokens = .ok last)
    (he : calledBy (Token.after previous tokens) = none) :
    readFrom previous state tokens = receiveAll previous state tokens := by
  fun_induction readFrom previous state tokens generalizing spans with
  | case1 => rfl
  | case2 previous state token rest failure hstep =>
      by_cases hk : token.kind = .identifier
      · simp only [step, hk] at hstep
        simp [receiveAll, receive, hk, hstep, Except.map, Except.bind]
      · simp [receiveAll, receive_eq_step previous token state hp hk, hstep, Except.bind]
  | case3 previous state token next hstep hk =>
      simp only [step, hk] at hstep
      obtain ⟨function, hf, -⟩ := openCall_cases hstep
      simp [Token.CallRule.calledBy_identifier hk, ← hf] at he
  | case4 previous state token next hstep hk bracket rest ih =>
      simp only [step, hk] at hstep
      obtain ⟨function, hf, -⟩ := openCall_cases hstep
      have hc : calledBy (some token) = some function := by
        rw [Token.CallRule.calledBy_identifier hk, ← hf, Function.named?_name]
      obtain ⟨mid, hname, hs⟩ := Token.CallRule.scan_cons_eq_ok_iff.mp hs
      obtain ⟨inner, hone, hs⟩ := Token.CallRule.scan_cons_eq_ok_iff.mp hs
      have hb := (Token.CallRule.eq_of_scanOne_of_calledBy hc hone).1
      have hread := ih inner (by simp [Token.CallRule.calledBy_of_kind_ne, hb]) hs he
      rw [hread]
      simp [receiveAll, receive, hk, hb, hc, hf, hstep, Except.map, Except.bind]
  | case5 previous state token rest next hstep hk ih =>
      obtain ⟨mid, hone, hs⟩ := Token.CallRule.scan_cons_eq_ok_iff.mp hs
      rw [ih mid (by simp [Token.CallRule.calledBy_of_kind_ne, hk]) hs he, receiveAll,
        receive_eq_step previous token state hp hk, hstep]
      rfl

end Stacks

end Reckoner
