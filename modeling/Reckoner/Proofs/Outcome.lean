import Reckoner.Outcome
import Reckoner.Proofs.Expr.Evaluate

namespace Reckoner

-- The call rule goes first, so that what the stacks take for granted has been
-- seen to before they are used.
theorem Expr.ofTokens_yields {tokens : List Token} (hlexed : ∀ token ∈ tokens, token.Lexed) :
    Yields Failure.IsFault Expr.Sound (Expr.ofTokens tokens) := by
  unfold Expr.ofTokens
  split
  · simp [Failure.IsFault, EvalError.kind]
  · cases hcheck : Token.CallRule.check tokens with
    | error error =>
        rcases Token.CallRule.blames_of_check hcheck with hkind | hkind <;>
          simp [Failure.IsFault, hkind]
    | ok =>
        obtain ⟨spans, hscan, hfinal⟩ := (Token.CallRule.check_eq_ok_iff tokens).mp hcheck
        have hend := ((Token.CallRule.final_eq_ok_iff _ _).mp hfinal).1
        have hread := Stacks.receiveAll_yields Stacks.sound_empty hlexed hscan
        simp only [Stacks.readFrom_eq_receiveAll none Stacks.empty tokens [] spans rfl hscan hend]
        cases hr : Stacks.receiveAll none Stacks.empty tokens with
        | error failure => rwa [hr] at hread
        | ok state =>
            rw [hr] at hread
            exact Stacks.finish_yields hread.agrees hread.operands

theorem valueOf_yields (text : String) :
    Yields Failure.IsFault (fun _ => True) (valueOf text) := by
  unfold valueOf
  cases hlex : Token.ofText text with
  | error error => simp [Failure.IsFault, Token.kind_of_ofText hlex]
  | ok tokens =>
      have hparse := Expr.ofTokens_yields (Token.lexed_of_ofText hlex)
      simp only
      cases hexpr : Expr.ofTokens tokens with
      | error failure => rwa [hexpr] at hparse
      | ok expr =>
          rw [hexpr] at hparse
          simp only [Expr.evaluate_eq_value]
          exact Expr.value_yields expr hparse

-- Whatever the text, no promise between the stages is broken. It has a value,
-- or it is rejected for something that a text can be blamed for.
theorem attempt_eq_ok_evaluate (text : String) :
    attempt text = .ok (evaluate text) ∧
      ((∃ value, valueOf text = .ok value ∧ evaluate text = .result text value) ∨
        ∃ error, valueOf text = .error (.rejected error) ∧
          evaluate text = .rejected text error ∧ error.kind ≠ .unknownOperator) := by
  have hyields := valueOf_yields text
  unfold evaluate attempt
  cases hvalue : valueOf text with
  | ok value => exact ⟨rfl, .inl ⟨value, rfl, rfl⟩⟩
  | error failure =>
      rw [hvalue] at hyields
      cases failure with
      | rejected error => exact ⟨rfl, .inr ⟨error, rfl, rfl, hyields⟩⟩
      | broken breach => cases hyields

end Reckoner
