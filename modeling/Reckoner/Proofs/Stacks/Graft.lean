import Reckoner.Proofs.Stacks.Leaves

namespace Reckoner

open Reckoner.Expr (allLeaves graftStack length_graftStack graftStack_cons_of_lt)
open Token.CallRule (calledBy scanOne)

namespace Stacks

-- The stacks with an expression put in the place of one of their leaves.
def graft (scion : Expr) (place : Nat) (state : Stacks) : Stacks :=
  { state with operands := graftStack scion place state.operands }

section

variable (scion : Expr) (place : Nat)

theorem join_graft (floor : Nat) (symbol : String) (operands : List Expr) :
    join floor symbol (graftStack scion place operands) =
      (join floor symbol operands).map (graftStack scion place) := by
  unfold join
  rw [length_graftStack]
  by_cases hlen : operands.length < floor + 2
  · rw [if_pos hlen, if_pos hlen]
    rfl
  · rw [if_neg hlen, if_neg hlen]
    match operands with
    | [] | [_] => simp at hlen
    | right :: left :: rest =>
        obtain ⟨right', left', rest', hpair, hbinary⟩ :=
          Expr.exists_graftStack_pair scion place right left rest
        simp only [hpair, Except.map, hbinary]

theorem applyWhile_graft (due : String → Except EvalError Bool) (floor : Nat)
    (waiting : List Waiting) (operands : List Expr) :
    applyWhile due floor waiting (graftStack scion place operands) =
      (applyWhile due floor waiting operands).map fun result =>
        (result.1, graftStack scion place result.2) := by
  fun_induction applyWhile due floor waiting operands with
  | case1 symbol waiting operands error hdue => simp [applyWhile, hdue, Except.map]
  | case2 symbol waiting operands hdue => simp [applyWhile, hdue, Except.map]
  | case3 symbol waiting operands hdue failure hjoin =>
      simp [applyWhile, hdue, join_graft, hjoin, Except.map]
  | case4 symbol waiting operands hdue next hjoin ih =>
      simp only [applyWhile, hdue, join_graft, hjoin, Except.map]
      exact ih
  | case5 waiting operands hne =>
      cases waiting with
      | nil => rfl
      | cons top waiting =>
          cases top with
          | operator symbol => exact absurd rfl (hne symbol waiting)
          | bracket | call => rfl

theorem applyAll_graft (state : Stacks) :
    applyAll (state.graft scion place) = (applyAll state).map fun result =>
      (result.1, graftStack scion place result.2) :=
  applyWhile_graft scion place always (floor state.calls) state.waiting state.operands

theorem finish_graft (waiting : List Waiting) (operands : List Expr) :
    finish waiting (graftStack scion place operands) =
      (finish waiting operands).map (Expr.graft scion place) := by
  fun_induction finish waiting operands with
  | case1 expr =>
      rw [Expr.graftStack_singleton]
      rfl
  | case2 operands hne =>
      have hlen := length_graftStack scion place operands
      rcases hgraft : graftStack scion place operands with _ | ⟨first, _ | ⟨second, rest⟩⟩
      · rfl
      · rw [hgraft] at hlen
        obtain ⟨expr, rfl⟩ := List.length_eq_one_iff.mp hlen.symm
        exact absurd rfl (hne expr)
      · rfl
  | case3 | case4 => rfl
  | case5 symbol waiting operands failure hjoin =>
      simp [finish, join_graft, hjoin, Except.map]
  | case6 symbol waiting operands next hjoin ih =>
      simp only [finish, join_graft, hjoin, Except.map]
      exact ih

theorem finishArgument_graft (frame : Frame) (operands : List Expr) :
    finishArgument frame (graftStack scion place operands) = finishArgument frame operands := by
  unfold finishArgument
  rw [length_graftStack]

theorem fold_graft (frame : Frame) (operands : List Expr) :
    fold frame (graftStack scion place operands) =
      graftStack scion place (fold frame operands) := by
  have hcount : operands.length - frame.base ≤ operands.length := Nat.sub_le _ _
  simp only [fold, length_graftStack]
  generalize operands.length - frame.base = count at hcount
  obtain ⟨newer, older, rfl, rfl⟩ : ∃ newer older, operands = newer ++ older ∧
      newer.length = count :=
    ⟨operands.take count, operands.drop count, (List.take_append_drop count operands).symm,
      List.length_take_of_le hcount⟩
  rw [List.take_left, List.drop_left, Expr.graftStack_append]
  by_cases holder : place < (allLeaves older.reverse).length
  · rw [if_pos holder, List.take_left, List.drop_left, graftStack_cons_of_lt scion holder]
  · have hlen := length_graftStack scion (place - (allLeaves older.reverse).length) newer
    rw [if_neg holder, List.take_left' hlen, List.drop_left' hlen,
      Expr.graftStack_cons_of_le scion (by omega), Expr.graft, graftStack, List.reverse_reverse]

end

variable {scion : Expr} {place : Nat} {state : Stacks}

-- What stands later on the stack takes no part in the graft.
theorem number_graft (h : place < state.leaves.length) (lexeme : String) :
    number lexeme (state.graft scion place) = (number lexeme state).map (graft scion place) := by
  unfold number
  split
  · simp only [Except.map, graft, graftStack_cons_of_lt scion h]
  · rfl

theorem operator_graft (h : place < state.leaves.length) (previous : Option Token)
    (symbol : String) :
    operator previous symbol (state.graft scion place) =
      (operator previous symbol state).map (graft scion place) := by
  have hzero : withZero previous symbol (state.graft scion place).operands =
      graftStack scion place (withZero previous symbol state.operands) := by
    unfold withZero
    split
    · exact (graftStack_cons_of_lt scion h _).symm
    · rfl
  cases hp : precedence symbol with
  | error error => simp only [operator_eq_error hp, Except.map]
  | ok binding =>
      have happly := applyWhile_graft scion place (bindsAtLeast binding) (floor state.calls)
        state.waiting (withZero previous symbol state.operands)
      rw [operator_eq hp, operator_eq hp, hzero]
      simp only [graft] at happly ⊢
      rw [happly]
      cases applyWhile (bindsAtLeast binding) (floor state.calls) state.waiting
        (withZero previous symbol state.operands) <;> rfl

theorem comma_graft (lexeme : String) (state : Stacks) :
    comma lexeme (state.graft scion place) = (comma lexeme state).map (graft scion place) := by
  unfold comma
  rw [applyAll_graft]
  cases applyAll state with
  | error failure => rfl
  | ok result =>
      obtain ⟨waiting, operands⟩ := result
      simp only [Except.map, graft]
      split
      · rename_i frame calls _
        rw [finishArgument_graft]
        cases finishArgument frame operands <;> rfl
      · rfl
      · rfl

theorem close_graft (state : Stacks) :
    close (state.graft scion place) = (close state).map (graft scion place) := by
  unfold close
  rw [applyAll_graft]
  cases applyAll state with
  | error failure => rfl
  | ok result =>
      obtain ⟨waiting, operands⟩ := result
      simp only [Except.map, graft]
      split
      · rfl
      · rename_i frame calls _
        rw [finishArgument_graft]
        cases finishArgument frame operands with
        | error failure => rfl
        | ok frame => simp only [fold_graft]
      · rfl
      · rfl

-- No step looks into an operand, so that the graft can wait until the end.
theorem receive_graft (h : place < state.leaves.length) (previous : Option Token) (token : Token) :
    receive previous token (state.graft scion place) =
      (receive previous token state).map (graft scion place) := by
  have hopen (name : String) :
      openCall name (state.graft scion place) = (openCall name state).map (graft scion place) := by
    unfold openCall
    split
    · simp [Except.map, graft, length_graftStack]
    · split <;> rfl
  cases hk : token.kind with
  | identifier =>
      simp only [receive, hk, hopen]
      cases openCall token.lexeme state <;> rfl
  | bracketOpen =>
      simp only [receive, hk]
      cases calledBy previous with
      | some function => exact hopen function.name
      | none => rfl
  | comma =>
      simp only [receive, hk]
      exact comma_graft token.lexeme state
  | bracketClose =>
      simp only [receive, hk]
      exact close_graft state
  | number =>
      simp only [receive, hk]
      exact number_graft h token.lexeme
  | operator =>
      simp only [receive, hk]
      exact operator_graft h previous token.lexeme

end Stacks

namespace Reader

def graft (scion : Expr) (place : Nat) (reader : Reader) : Reader :=
  reader.map id (Stacks.graft scion place)

theorem reads_graft_iff {scion : Expr} {place : Nat} {reader last : Reader} {tokens : List Token}
    (h : place < reader.state.leaves.length) :
    Reads (reader.graft scion place) tokens last ↔
      ∃ inner, Reads reader tokens inner ∧ last = inner.graft scion place := by
  refine @reads_map_iff _ _ (fun reader _ => place < reader.state.leaves.length)
    ?_ ?_ ?_ _ _ _ h
  · intro reader token rest _
    rw [id_eq]
    cases scanOne reader.previous token reader.spans <;> rfl
  · intro reader token rest hplace
    exact Stacks.receive_graft hplace reader.previous token
  · intro reader token rest next hplace hstep
    have hleaves := congrArg List.length (Stacks.receive_leaves hstep.state)
    rw [List.length_append] at hleaves
    exact Nat.lt_of_lt_of_le hplace (hleaves ▸ Nat.le_add_right _ _)

end Reader

end Reckoner
