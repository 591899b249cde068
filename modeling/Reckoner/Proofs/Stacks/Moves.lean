import Mathlib.Data.List.Chain
import Reckoner.Proofs.Reader
import Reckoner.Proofs.Token.Lexed

namespace Reckoner

namespace Stacks

-- What one token does to the stacks. A name changes nothing until its bracket
-- has come.
inductive Moves (previous : Option Token) : Stacks → Stacks → Prop
  | stay {state : Stacks} : Moves previous state state
  | number {state : Stacks} {expr : Expr} :
      Moves previous state { state with operands := expr :: state.operands }
  | bracket {state : Stacks} :
      Moves previous state { state with waiting := .bracket :: state.waiting }
  | call {state : Stacks} {name : String} :
      Moves previous state { state with
        waiting := .call name :: state.waiting
        calls := ⟨name, state.operands.length, 0⟩ :: state.calls }
  | operator {state : Stacks} {symbol : String} {binding : Nat} {waiting : List Waiting}
      {operands : List Expr} :
      precedence symbol = .ok binding →
      applyWhile (bindsAtLeast binding) (floor state.calls) state.waiting
        (withZero previous symbol state.operands) = .ok (waiting, operands) →
      Moves previous state ⟨operands, .operator symbol :: waiting, state.calls⟩
  | comma {state : Stacks} {waiting : List Waiting} {frame : Frame} {calls : List Frame}
      {operands : List Expr} :
      applyAll state = .ok (waiting, operands) → state.calls = frame :: calls →
      Moves previous state
        ⟨operands, waiting, { frame with finished := frame.finished + 1 } :: calls⟩
  | closeBracket {state : Stacks} {entry : Waiting} {waiting : List Waiting}
      {operands : List Expr} :
      applyAll state = .ok (entry :: waiting, operands) →
      Moves previous state ⟨operands, waiting, state.calls⟩
  | closeCall {state : Stacks} {entry : Waiting} {waiting : List Waiting} {frame : Frame}
      {calls : List Frame} {operands : List Expr} :
      applyAll state = .ok (entry :: waiting, operands) → state.calls = frame :: calls →
      Moves previous state
        ⟨fold { frame with finished := frame.finished + 1 } operands, waiting, calls⟩

theorem moves_of_receive {previous : Option Token} {token : Token} {state next : Stacks}
    (hplain : token.Plain) (h : receive previous token state = .ok next) :
    Moves previous state next := by
  unfold receive at h
  cases hkind : token.kind with
  | identifier =>
      simp only [hkind] at h
      obtain ⟨_, -, rfl⟩ := map_eq_ok_iff.mp h
      exact .stay
  | bracketOpen =>
      simp only [hkind] at h
      cases hcalled : Token.CallRule.calledBy previous with
      | none =>
          simp only [hcalled, openBracket, hplain.opening hkind, ite_true, Except.ok.injEq] at h
          exact h ▸ .bracket
      | some function =>
          simp only [hcalled, openCall_name, Except.ok.injEq] at h
          exact h ▸ .call
  | number =>
      simp only [hkind] at h
      obtain ⟨value, -, rfl⟩ := number_cases h
      exact .number
  | operator =>
      simp only [hkind] at h
      obtain ⟨binding, waiting, operands, hbinding, happly, rfl⟩ := operator_cases h
      exact .operator hbinding happly
  | comma =>
      simp only [hkind] at h
      obtain ⟨name, waiting, frame, calls, operands, happly, hcalls, -, rfl⟩ := comma_cases h
      exact .comma happly hcalls
  | bracketClose =>
      simp only [hkind] at h
      rcases close_cases h with
        ⟨waiting, operands, happly, rfl⟩ |
        ⟨name, waiting, frame, calls, operands, happly, hcalls, -, rfl⟩
      · exact .closeBracket happly
      · exact .closeCall happly hcalls

section

variable {due : String → Except EvalError Bool} {floor : Nat} {waiting rest : List Waiting}
  {operands result bottom : List Expr} {previous : Option Token} {state next : Stacks}

theorem suffix_of_applyWhile (h : applyWhile due floor waiting operands = .ok (rest, result)) :
    rest <:+ waiting := by
  fun_induction applyWhile due floor waiting operands with
  | case1 => cases h
  | case2 =>
      cases h
      exact List.suffix_refl _
  | case3 => cases h
  | case4 symbol waiting operands _ next _ ih => exact (ih h).trans (List.suffix_cons _ waiting)
  | case5 =>
      cases h
      exact List.suffix_refl _

-- What lies below the floor is out of reach.
theorem applyWhile_keeps (h : applyWhile due floor waiting operands = .ok (rest, result))
    (hbottom : bottom <:+ operands) (hfloor : bottom.length ≤ floor) : bottom <:+ result := by
  fun_induction applyWhile due floor waiting operands with
  | case1 => cases h
  | case2 =>
      cases h
      exact hbottom
  | case3 => cases h
  | case4 symbol waiting operands _ next hjoin ih =>
      obtain ⟨right, left, below, rfl, hbelow, rfl⟩ := join_eq_ok_iff.mp hjoin
      have hsuffix : below <:+ right :: left :: below := List.suffix_append [right, left] below
      have hkept := List.suffix_of_suffix_length_le hbottom hsuffix (by omega)
      exact ih h (hkept.trans (List.suffix_cons _ below))
  | case5 =>
      cases h
      exact hbottom

-- The number of operands that the innermost open call has found.
def base : List Frame → Nat
  | [] => 0
  | frame :: _ => frame.base

theorem base_le_floor (calls : List Frame) : base calls ≤ Stacks.floor calls := by
  cases calls with
  | nil => exact Nat.le_refl 0
  | cons frame calls => exact Nat.le_add_right frame.base frame.finished

theorem fold_keeps {frame : Frame} (hbottom : bottom <:+ operands)
    (hbase : bottom.length ≤ frame.base) : bottom <:+ fold frame operands := by
  have hdrop : bottom <:+ operands.drop (operands.length - frame.base) := by
    apply List.suffix_of_suffix_length_le hbottom (List.drop_suffix _ operands)
    have hlength := hbottom.length_le
    rw [List.length_drop]
    omega
  exact hdrop.trans (List.suffix_cons _ _)

theorem suffix_withZero (previous : Option Token) (symbol : String) (operands : List Expr) :
    operands <:+ withZero previous symbol operands := by
  unfold withZero
  split
  · exact List.suffix_cons _ _
  · exact List.suffix_refl _

-- The operands from before the innermost open call stay whatever is read next.
theorem Moves.keeps (h : Moves previous state next) (hbottom : bottom <:+ state.operands)
    (hbase : bottom.length ≤ base state.calls) : bottom <:+ next.operands := by
  have hfloor := Nat.le_trans hbase (base_le_floor state.calls)
  cases h with
  | stay | bracket | call => exact hbottom
  | number => exact hbottom.trans (List.suffix_cons _ _)
  | operator hbinding happly =>
      exact applyWhile_keeps happly (hbottom.trans (suffix_withZero _ _ _)) hfloor
  | comma happly hcalls => exact applyWhile_keeps happly hbottom hfloor
  | closeBracket happly => exact applyWhile_keeps happly hbottom hfloor
  | closeCall happly hcalls =>
      rw [hcalls] at hbase
      exact fold_keeps (applyWhile_keeps happly hbottom hfloor) hbase

-- The first operator binds tighter than the second.
def Tighter (upper lower : String) : Prop :=
  ∃ tight loose, precedence upper = .ok tight ∧ precedence lower = .ok loose ∧ loose < tight

-- Of two neighbours the upper one binds tighter, if both are operators.
def Rises : Waiting → Waiting → Prop
  | .operator upper, .operator lower => Tighter upper lower
  | _, _ => True

-- An operator arrives when all those that bind as tightly are gone.
theorem rises_operator {symbol : String} {binding : Nat} (hbinding : precedence symbol = .ok binding)
    (hrises : waiting.IsChain Rises) (hsettled : Settled (bindsAtLeast binding) waiting) :
    (Waiting.operator symbol :: waiting).IsChain Rises := by
  match waiting with
  | [] => exact .singleton _
  | .bracket :: waiting => exact .cons_cons trivial hrises
  | .call name :: waiting => exact .cons_cons trivial hrises
  | .operator top :: waiting =>
      obtain ⟨loose, htop, hdue⟩ := exists_of_bindsAtLeast hsettled
      have hloose : ¬binding ≤ loose := of_decide_eq_false hdue.symm
      exact .cons_cons ⟨binding, loose, hbinding, htop, Nat.lt_of_not_le hloose⟩ hrises

theorem Moves.rises (h : Moves previous state next) (hrises : state.waiting.IsChain Rises) :
    next.waiting.IsChain Rises := by
  have happlied {due floor operands waiting result}
      (happly : applyWhile due floor state.waiting operands = .ok (waiting, result)) :
      waiting.IsChain Rises := hrises.suffix (suffix_of_applyWhile happly)
  cases h with
  | stay | number => exact hrises
  | bracket | call =>
      cases hwaiting : state.waiting with
      | nil => exact .singleton _
      | cons top waiting => exact .cons_cons trivial (hwaiting ▸ hrises)
  | operator hbinding happly =>
      exact rises_operator hbinding (happlied happly) (settled_of_applyWhile happly)
  | comma happly hcalls => exact happlied happly
  | closeBracket happly => exact (happlied happly).tail
  | closeCall happly hcalls => exact (happlied happly).tail

end

end Stacks

end Reckoner
