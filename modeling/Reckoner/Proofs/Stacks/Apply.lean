import Reckoner.Expr.Stacks
import Reckoner.Proofs.Token.Scan

namespace Reckoner

theorem precedence_eq_ok {symbol : String} (h : (Operator.ofSymbol? symbol).isSome) :
    ∃ binding, precedence symbol = .ok binding := by
  obtain ⟨operator, ho⟩ := Option.isSome_iff_exists.mp h
  exact ⟨operator.precedence, by simp [precedence, ho]⟩

theorem isSome_of_precedence {symbol : String} {binding : Nat}
    (h : precedence symbol = .ok binding) : (Operator.ofSymbol? symbol).isSome := by
  unfold precedence at h
  split at h
  · rename_i operator ho
    simp [ho]
  · cases h

theorem precedence_of_mem_sums {symbol : String} (h : symbol ∈ ["+", "-"]) :
    precedence symbol = .ok 1 := by
  simp only [List.mem_cons, List.not_mem_nil, or_false] at h
  rcases h with rfl | rfl <;> rfl

theorem precedence_of_mem_products {symbol : String} (h : symbol ∈ ["*", "/", "%"]) :
    precedence symbol = .ok 2 := by
  simp only [List.mem_cons, List.not_mem_nil, or_false] at h
  rcases h with rfl | rfl | rfl <;> rfl

theorem mem_of_precedence {symbol : String} {binding : Nat}
    (h : precedence symbol = .ok binding) :
    binding = 1 ∧ symbol ∈ ["+", "-"] ∨ binding = 2 ∧ symbol ∈ ["*", "/", "%"] := by
  unfold precedence at h
  split at h
  · rename_i operator hs
    have hsymbol : operator.symbol = symbol := by
      unfold Operator.ofSymbol? at hs
      simpa using List.find?_some hs
    cases h
    cases operator <;> simp [Operator.precedence, ← hsymbol, Operator.symbol]
  · cases h

namespace Stacks

theorem join_eq_ok_iff {floor : Nat} {symbol : String} {operands result : List Expr} :
    join floor symbol operands = .ok result ↔
      ∃ right left rest, operands = right :: left :: rest ∧ floor ≤ rest.length ∧
        result = .binary symbol left right :: rest := by
  unfold join
  split
  · rename_i h
    simp only [reduceCtorEq, false_iff]
    rintro ⟨right, left, rest, rfl, hf, -⟩
    simp only [List.length_cons] at h
    omega
  · rename_i h
    split
    · rename_i right left rest
      simp only [List.length_cons] at h
      simp only [Except.ok.injEq, List.cons.injEq]
      constructor
      · rintro rfl
        exact ⟨right, left, rest, ⟨rfl, rfl, rfl⟩, by omega, rfl⟩
      · rintro ⟨_, _, _, ⟨rfl, rfl, rfl⟩, -, rfl⟩
        rfl
    · rename_i hne
      simp only [reduceCtorEq, false_iff]
      rintro ⟨right, left, rest, rfl, -, -⟩
      exact hne right left rest rfl

-- With enough operands above the floor there are two to join.
theorem join_eq_error {floor : Nat} {symbol : String} {operands : List Expr} {failure : Failure}
    (h : join floor symbol operands = .error failure) : failure = .rejected .invalidExpression := by
  unfold join at h
  split at h
  · exact (Except.error.inj h).symm
  · rename_i hlen
    split at h
    · cases h
    · rename_i hne
      match operands with
      | [] | [_] => simp at hlen
      | right :: left :: rest => exact absurd rfl (hne right left rest)

theorem finishArgument_eq_ok_iff {frame next : Frame} {operands : List Expr} :
    finishArgument frame operands = .ok next ↔
      operands.length = frame.floor + 1 ∧ next = { frame with finished := frame.finished + 1 } := by
  unfold finishArgument
  split
  · rename_i h
    simp only [reduceCtorEq, false_iff, not_and]
    omega
  · rename_i h
    split
    · rename_i hd
      simp only [reduceCtorEq, false_iff, not_and]
      omega
    · rename_i hd
      have hlen : operands.length = frame.floor + 1 := by omega
      simp [hlen, eq_comm]
    · rename_i hzero hone
      simp only [reduceCtorEq, false_iff, not_and]
      intro hlen
      exact absurd (by omega) hone

-- The last argument is on top, the others lie below it in reverse.
theorem fold_concat (name : String) (finished : Nat) (arguments operands : List Expr)
    (expr : Expr) :
    fold ⟨name, operands.length, finished⟩ (expr :: (arguments.reverse ++ operands)) =
      .call name (arguments ++ [expr]) :: operands := by
  have hstack : expr :: (arguments.reverse ++ operands) =
      (arguments ++ [expr]).reverse ++ operands := by simp
  have hcount : ((arguments ++ [expr]).reverse ++ operands).length - operands.length =
      (arguments ++ [expr]).reverse.length := by
    rw [List.length_append, Nat.add_sub_cancel]
  simp only [fold, hstack, hcount, List.take_left', List.drop_left', List.reverse_reverse]

theorem finishArgument_cons {frame : Frame} {operands : List Expr}
    (h : frame.floor = operands.length) (expr : Expr) :
    finishArgument frame (expr :: operands) =
      .ok { frame with finished := frame.finished + 1 } :=
  finishArgument_eq_ok_iff.mpr ⟨by rw [List.length_cons, h], rfl⟩

-- The operators that an arriving one of the given precedence applies.
def bindsAtLeast (binding : Nat) (symbol : String) : Except EvalError Bool :=
  (precedence symbol).map fun other => decide (binding ≤ other)

theorem bindsAtLeast_eq {symbol : String} {tightness : Nat} (h : precedence symbol = .ok tightness)
    (binding : Nat) : bindsAtLeast binding symbol = .ok (decide (binding ≤ tightness)) := by
  simp [bindsAtLeast, h, Except.map]

theorem exists_of_bindsAtLeast {binding : Nat} {symbol : String} {due : Bool}
    (h : bindsAtLeast binding symbol = .ok due) :
    ∃ tightness, precedence symbol = .ok tightness ∧ due = decide (binding ≤ tightness) := by
  obtain ⟨tightness, hp, hdue⟩ := map_eq_ok_iff.mp h
  exact ⟨tightness, hp, hdue⟩

theorem bindsAtLeast_of_le {looser tighter : Nat} (hle : looser ≤ tighter) {symbol : String}
    (h : bindsAtLeast tighter symbol = .ok true) : bindsAtLeast looser symbol = .ok true := by
  obtain ⟨tightness, hp, hd⟩ := exists_of_bindsAtLeast h
  have hbound : tighter ≤ tightness := of_decide_eq_true hd.symm
  rw [bindsAtLeast_eq hp, decide_eq_true (Nat.le_trans hle hbound)]

def always (_ : String) : Except EvalError Bool := .ok true

theorem applyAll_eq (state : Stacks) :
    applyAll state = applyWhile always (floor state.calls) state.waiting state.operands := rfl

-- No operator on top is due.
def Settled (due : String → Except EvalError Bool) : List Waiting → Prop
  | .operator symbol :: _ => due symbol = .ok false
  | _ => True

section

variable {due wider : String → Except EvalError Bool} {floor : Nat}
  {waiting rest : List Waiting} {operands result : List Expr}

theorem applyWhile_of_settled (h : Settled due waiting) :
    applyWhile due floor waiting operands = .ok (waiting, operands) := by
  cases waiting with
  | nil => rfl
  | cons top waiting =>
      cases top with
      | operator symbol => simp only [applyWhile, show due symbol = .ok false from h]
      | bracket | call => rfl

theorem settled_of_applyWhile (h : applyWhile due floor waiting operands = .ok (rest, result)) :
    Settled due rest := by
  fun_induction applyWhile due floor waiting operands with
  | case1 => cases h
  | case2 symbol waiting operands hdue =>
      cases h
      exact hdue
  | case3 => cases h
  | case4 symbol waiting operands hdue next hjoin ih => exact ih h
  | case5 waiting operands hne =>
      cases h
      unfold Settled
      split
      · rename_i symbol rest
        exact absurd rfl (hne symbol rest)
      · trivial

theorem settled_of_le {looser tighter : Nat} (hle : looser ≤ tighter) 
    (h : Settled (bindsAtLeast looser) waiting) : Settled (bindsAtLeast tighter) waiting := by
  unfold Settled at h ⊢
  split at h
  · rename_i symbol rest
    obtain ⟨tightness, hp, hd⟩ := exists_of_bindsAtLeast h
    have hbound : ¬looser ≤ tightness := of_decide_eq_false hd.symm
    simp only [bindsAtLeast_eq hp, Except.ok.injEq, decide_eq_false_iff_not]
    omega
  · trivial

-- Whoever applies more operators may let another one go first that applies
-- only some of them.
theorem applyWhile_after (h : applyWhile due floor waiting operands = .ok (rest, result))
    (himp : ∀ symbol, due symbol = .ok true → wider symbol = .ok true) :
    applyWhile wider floor waiting operands = applyWhile wider floor rest result := by
  fun_induction applyWhile due floor waiting operands with
  | case1 => cases h
  | case2 =>
      cases h
      rfl
  | case3 => cases h
  | case4 symbol waiting operands hdue next hjoin ih =>
      simp only [applyWhile, himp symbol hdue, hjoin]
      exact ih h
  | case5 =>
      cases h
      rfl

theorem finish_after (h : applyWhile due 0 waiting operands = .ok (rest, result)) :
    finish waiting operands = finish rest result := by
  generalize hf : 0 = floor at h
  fun_induction applyWhile due floor waiting operands with
  | case1 => cases h
  | case2 =>
      cases h
      rfl
  | case3 => cases h
  | case4 symbol waiting operands hdue next hjoin ih =>
      subst hf
      rw [finish, hjoin]
      exact ih h
  | case5 =>
      cases h
      rfl

end

-- The end applies whatever still waits.
theorem finish_eq_ok_iff {waiting : List Waiting} {operands : List Expr} {expr : Expr} :
    finish waiting operands = .ok expr ↔
      applyWhile always 0 waiting operands = .ok ([], [expr]) := by
  constructor
  · intro h
    fun_induction finish waiting operands with
    | case1 value =>
        cases h
        rfl
    | case2 | case3 | case4 | case5 => cases h
    | case6 symbol waiting operands next hjoin ih =>
        simp only [applyWhile, always, hjoin]
        exact ih h
  · exact fun h => finish_after h

-- A minus without a left operand gets a zero for one.
def withZero (previous : Option Token) (symbol : String) (operands : List Expr) : List Expr :=
  if symbol = "-" && Token.isUnaryPosition previous then .number Binary64.zero :: operands
  else operands

theorem length_le_withZero (previous : Option Token) (symbol : String) (operands : List Expr) :
    operands.length ≤ (withZero previous symbol operands).length := by
  unfold withZero
  split
  · exact Nat.le_succ _
  · exact Nat.le_refl _

theorem operator_eq {symbol : String} {binding : Nat} (h : precedence symbol = .ok binding)
    (previous : Option Token) (state : Stacks) :
    operator previous symbol state =
      (applyWhile (bindsAtLeast binding) (floor state.calls) state.waiting
        (withZero previous symbol state.operands)).map
        fun result => ⟨result.2, .operator symbol :: result.1, state.calls⟩ := by
  simp only [operator, h]
  rfl

theorem operator_eq_error {symbol : String} {error : EvalError}
    (h : precedence symbol = .error error) (previous : Option Token) (state : Stacks) :
    operator previous symbol state = .error (.rejected error) := by
  simp only [operator, h]

end Stacks

end Reckoner
