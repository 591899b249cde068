import Reckoner.Proofs.Stacks.Apply
import Reckoner.Proofs.Token.Scan

namespace Reckoner.Stacks

variable {state next : Stacks}

-- What a comma, a closing bracket and an operator can do when they succeed.
theorem comma_cases {lexeme : String} (h : comma lexeme state = .ok next) :
    ∃ name waiting frame calls operands,
      applyAll state = .ok (.call name :: waiting, operands) ∧ state.calls = frame :: calls ∧
      operands.length = frame.floor + 1 ∧
      next = ⟨operands, .call name :: waiting,
        { frame with finished := frame.finished + 1 } :: calls⟩ := by
  unfold comma at h
  split at h
  · cases h
  · rename_i waiting operands happly
    split at h
    · rename_i name waiting frame calls hcalls
      obtain ⟨finished, hfinish, rfl⟩ := map_eq_ok_iff.mp h
      obtain ⟨hlen, rfl⟩ := finishArgument_eq_ok_iff.mp hfinish
      exact ⟨name, waiting, frame, calls, operands, happly, hcalls, hlen, rfl⟩
    · cases h
    · cases h

theorem close_cases (h : close state = .ok next) :
    (∃ waiting operands, applyAll state = .ok (.bracket :: waiting, operands) ∧
      next = ⟨operands, waiting, state.calls⟩) ∨
    ∃ name waiting frame calls operands,
      applyAll state = .ok (.call name :: waiting, operands) ∧ state.calls = frame :: calls ∧
      operands.length = frame.floor + 1 ∧
      next = ⟨fold { frame with finished := frame.finished + 1 } operands, waiting, calls⟩ := by
  unfold close at h
  split at h
  · cases h
  · rename_i waiting operands happly
    split at h
    · cases h
    · rename_i name waiting frame calls hcalls
      obtain ⟨finished, hfinish, rfl⟩ := map_eq_ok_iff.mp h
      obtain ⟨hlen, rfl⟩ := finishArgument_eq_ok_iff.mp hfinish
      exact .inr ⟨name, waiting, frame, calls, operands, happly, hcalls, hlen, rfl⟩
    · cases h
    · rename_i top waiting hcall hframe
      cases top with
      | operator symbol => cases settled_of_applyWhile happly
      | bracket => exact .inl ⟨waiting, operands, happly, (Except.ok.inj h).symm⟩
      | call name =>
          cases hcalls : state.calls with
          | nil => exact (hframe name hcalls rfl).elim
          | cons frame calls => exact (hcall name frame calls hcalls rfl).elim

theorem operator_cases {previous : Option Token} {symbol : String}
    (h : operator previous symbol state = .ok next) :
    ∃ binding waiting operands, precedence symbol = .ok binding ∧
      applyWhile (bindsAtLeast binding) (floor state.calls) state.waiting
        (withZero previous symbol state.operands) = .ok (waiting, operands) ∧
      next = ⟨operands, .operator symbol :: waiting, state.calls⟩ := by
  cases hp : precedence symbol with
  | error error => simp [operator_eq_error hp] at h
  | ok binding =>
      rw [operator_eq hp, map_eq_ok_iff] at h
      obtain ⟨result, happly, rfl⟩ := h
      exact ⟨binding, result.1, result.2, rfl, happly, rfl⟩

theorem openCall_cases {name : String} (h : openCall name state = .ok next) :
    ∃ function : Function, function.name = name ∧ next = { state with
      waiting := .call name :: state.waiting
      calls := ⟨name, state.operands.length, 0⟩ :: state.calls } := by
  unfold openCall Function.isName at h
  rcases Option.eq_none_or_eq_some (Function.named? name) with hf | ⟨function, hf⟩
  · simp only [hf, Option.isSome_none, Bool.false_eq_true, ite_false] at h
    split at h <;> cases h
  · simp only [hf, Option.isSome_some, ite_true, Except.ok.injEq] at h
    exact ⟨function, Function.name_of_named? hf, h.symm⟩

theorem number_cases {lexeme : String} (h : number lexeme state = .ok next) :
    ∃ value, Decimal.read? lexeme = some value ∧
      next = { state with operands := .number value :: state.operands } := by
  unfold number at h
  split at h
  · rename_i value hread
    exact ⟨value, hread, (Except.ok.inj h).symm⟩
  · cases h

end Reckoner.Stacks
