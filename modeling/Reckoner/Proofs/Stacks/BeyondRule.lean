import Reckoner.Proofs.Stacks.Agreement

namespace Reckoner

open Token.CallRule (Span calledBy scan scanOne Blames)

-- What can still go wrong once the call rule is met: anything but the calls, and
-- of our own promises only that a name has a letter.
def Failure.BeyondRule : Failure → Prop
  | .rejected error => ¬Blames error
  | .broken breach => breach = .emptyName

namespace Stacks

variable {state : Stacks} {operands : List Expr} {failure : Failure} {error : EvalError}

theorem not_blames_of_applyWhile {due : String → Except EvalError Bool} {floor : Nat}
    {waiting : List Waiting}
    (hdue : ∀ symbol error, due symbol = .error error → ¬Blames error)
    (h : applyWhile due floor waiting operands = .error (.rejected error)) : ¬Blames error := by
  fun_induction applyWhile due floor waiting operands with
  | case1 symbol _ _ _ hfailure =>
      cases h
      exact hdue symbol error hfailure
  | case2 => cases h
  | case3 _ _ _ _ _ hjoin =>
      rw [join_eq_error hjoin] at h
      cases h
      simp [Blames, EvalError.kind]
  | case4 _ _ _ _ _ _ ih => exact ih h
  | case5 => cases h

theorem not_blames_of_applyAll (h : applyAll state = .error (.rejected error)) : ¬Blames error :=
  not_blames_of_applyWhile (fun _ _ hdue => by cases hdue) h

theorem not_blames_of_finishArgument {frame : Frame}
    (h : finishArgument frame operands = .error (.rejected error)) : ¬Blames error := by
  unfold finishArgument at h
  split at h
  · cases h
  · split at h <;> cases h <;> simp [Blames, EvalError.kind]

theorem not_blames_of_comma {lexeme : String}
    (h : comma lexeme state = .error (.rejected error)) : ¬Blames error := by
  unfold comma at h
  split at h
  · rename_i happly
    cases h
    exact not_blames_of_applyAll happly
  · split at h
    · exact not_blames_of_finishArgument (map_eq_error_iff.mp h)
    · cases h
    · cases h
      simp [Blames, EvalError.kind]

theorem not_blames_of_close (h : close state = .error (.rejected error)) : ¬Blames error := by
  unfold close at h
  split at h
  · rename_i happly
    cases h
    exact not_blames_of_applyAll happly
  · split at h
    · cases h
      simp [Blames, EvalError.kind]
    · exact not_blames_of_finishArgument (map_eq_error_iff.mp h)
    · cases h
    · cases h

theorem not_blames_of_precedence {symbol : String} (h : precedence symbol = .error error) :
    ¬Blames error := by
  unfold precedence at h
  split at h
  · cases h
  · cases h
    simp [Blames, EvalError.kind]

theorem not_blames_of_operator {previous : Option Token} {symbol : String}
    (h : operator previous symbol state = .error (.rejected error)) : ¬Blames error := by
  cases hprecedence : precedence symbol with
  | error cause =>
      rw [operator_eq_error hprecedence] at h
      cases h
      exact not_blames_of_precedence hprecedence
  | ok binding =>
      rw [operator_eq hprecedence, map_eq_error_iff] at h
      refine not_blames_of_applyWhile (fun top cause hdue => ?_) h
      exact not_blames_of_precedence (map_eq_error_iff.mp hdue)

theorem not_blames_of_number {lexeme : String}
    (h : number lexeme state = .error (.rejected error)) : ¬Blames error := by
  unfold number at h
  split at h <;> cases h
  simp [Blames, EvalError.kind]

theorem openCall_beyondRule {name : String} (h : openCall name state = .error failure) :
    failure.BeyondRule := by
  unfold openCall at h
  split at h
  · cases h
  · split at h <;> cases h <;> simp [Failure.BeyondRule, Blames, EvalError.kind]

theorem not_blames_of_receive {previous : Option Token} {token : Token}
    (h : receive previous token state = .error (.rejected error)) : ¬Blames error := by
  unfold receive at h
  split at h
  · exact openCall_beyondRule (map_eq_error_iff.mp h)
  · split at h
    · exact openCall_beyondRule h
    · cases h
  · exact not_blames_of_comma h
  · exact not_blames_of_close h
  · exact not_blames_of_number h
  · exact not_blames_of_operator h

-- Where the two passes agree, only a name can break a promise.
theorem breach_of_receive {spans next : List (Option Span)} {previous : Option Token}
    {token : Token} {breach : Breach} (h : Sound spans state) (hplain : token.Plain)
    (hscan : scanOne previous token spans = .ok next)
    (hreceive : receive previous token state = .error (.broken breach)) : breach = .emptyName := by
  have hyields := receive_yields h hplain hscan
  rw [hreceive] at hyields
  by_cases hkind : token.kind = .identifier
  · simp only [receive, hkind] at hreceive
    exact openCall_beyondRule (map_eq_error_iff.mp hreceive)
  · by_cases hoperator : token.kind = .operator → (Operator.ofSymbol? token.lexeme).isSome
    · exact (hyields ⟨hplain, hoperator, fun h => absurd h hkind⟩).elim
    · obtain ⟨hoperator, hsymbol⟩ := Classical.not_imp.mp hoperator
      simp only [receive, hoperator] at hreceive
      cases hprecedence : precedence token.lexeme with
      | error cause => simp [operator_eq_error hprecedence] at hreceive
      | ok binding => exact absurd (isSome_of_precedence hprecedence) hsymbol

theorem receive_beyondRule {spans next : List (Option Span)} {previous : Option Token}
    {token : Token} (h : Sound spans state) (hplain : token.Plain)
    (hscan : scanOne previous token spans = .ok next) :
    Yields Failure.BeyondRule (Sound next) (receive previous token state) := by
  have hyields := receive_yields h hplain hscan
  cases hreceive : receive previous token state with
  | ok last => rwa [hreceive] at hyields
  | error failure =>
      cases failure with
      | rejected error => exact not_blames_of_receive hreceive
      | broken breach => exact breach_of_receive h hplain hscan hreceive

theorem receiveAll_beyondRule {spans last : List (Option Span)} {previous : Option Token}
    {tokens : List Token} (h : Sound spans state) (hplain : ∀ token ∈ tokens, token.Plain)
    (hscan : scan previous spans tokens = .ok last) :
    Yields Failure.BeyondRule (Sound last) (receiveAll previous state tokens) := by
  induction tokens generalizing previous spans state with
  | nil =>
      cases hscan
      exact h
  | cons token rest ih =>
      simp only [List.forall_mem_cons] at hplain
      obtain ⟨next, hone, hscan⟩ := Token.CallRule.scan_cons_eq_ok_iff.mp hscan
      rw [receiveAll]
      rcases (receive_beyondRule h hplain.1 hone).cases with
        ⟨failure, hreceive, hfailure⟩ | ⟨after, hreceive, hafter⟩
      · rw [hreceive]
        exact hfailure
      · rw [hreceive]
        exact ih hafter hplain.2 hscan

-- At the end only a call that still waits is to blame.
theorem not_blames_of_finish {waiting : List Waiting} (hcalls : ∀ name, .call name ∉ waiting)
    (h : finish waiting operands = .error (.rejected error)) : ¬Blames error := by
  fun_induction finish waiting operands with
  | case1 => cases h
  | case2 =>
      cases h
      simp [Blames, EvalError.kind]
  | case3 name => exact absurd List.mem_cons_self (hcalls name)
  | case4 =>
      cases h
      simp [Blames, EvalError.kind]
  | case5 _ _ _ _ hjoin =>
      rw [join_eq_error hjoin] at h
      cases h
      simp [Blames, EvalError.kind]
  | case6 _ _ _ _ _ ih => exact ih (fun name hname => hcalls name (List.mem_cons_of_mem _ hname)) h

end Stacks

end Reckoner
