import Reckoner.Proofs.Stacks.Agreement
import Reckoner.Proofs.Token.Enclosed

namespace Reckoner

open Token.CallRule (Span calledBy)

def Frame.above (height : Nat) (frame : Frame) : Frame :=
  { frame with base := frame.base + height }

theorem Frame.floor_above (height : Nat) (frame : Frame) :
    (frame.above height).floor = frame.floor + height := by
  simp only [Frame.floor, Frame.above]
  omega

namespace Stacks

-- The stacks of a reading that goes on above other stacks.
def above (base state : Stacks) : Stacks :=
  ⟨state.operands ++ base.operands, state.waiting ++ base.waiting,
    state.calls.map (Frame.above base.operands.length) ++ base.calls⟩

-- Nothing below can be reached: no operator is on top and every operand lies
-- under the floor.
structure Closed (base : Stacks) : Prop where
  settled : Settled always base.waiting
  floor_eq : floor base.calls = base.operands.length

theorem floor_above {base : Stacks} (h : base.Closed) (state : Stacks) :
    floor (above base state).calls = floor state.calls + base.operands.length := by
  cases hcalls : state.calls with
  | nil => simpa [above, hcalls, floor] using h.floor_eq
  | cons frame calls => simp [above, hcalls, floor, Frame.floor_above]

theorem settled_of_always {waiting : List Waiting} (h : Settled always waiting)
    (due : String → Except EvalError Bool) : Settled due waiting := by
  unfold Settled at h ⊢
  split
  · cases h
  · trivial

theorem join_append (floor : Nat) (symbol : String) (operands below : List Expr) :
    join (floor + below.length) symbol (operands ++ below) =
      (join floor symbol operands).map (· ++ below) := by
  unfold join
  by_cases hlen : operands.length < floor + 2
  · rw [if_pos hlen, if_pos (by rw [List.length_append]; omega)]
    rfl
  · rw [if_neg hlen, if_neg (by rw [List.length_append]; omega)]
    match operands with
    | [] | [_] => simp at hlen
    | right :: left :: rest => rfl

theorem applyWhile_append {due : String → Except EvalError Bool} {around : List Waiting}
    (h : Settled due around) (floor : Nat) (waiting : List Waiting) (operands below : List Expr) :
    applyWhile due (floor + below.length) (waiting ++ around) (operands ++ below) =
      (applyWhile due floor waiting operands).map fun result =>
        (result.1 ++ around, result.2 ++ below) := by
  fun_induction applyWhile due floor waiting operands with
  | case1 symbol waiting operands error hdue =>
      simp [applyWhile, hdue, Except.map]
  | case2 symbol waiting operands hdue => simp [applyWhile, hdue, Except.map]
  | case3 symbol waiting operands hdue failure hjoin =>
      simp [applyWhile, hdue, join_append, hjoin, Except.map]
  | case4 symbol waiting operands hdue next hjoin ih =>
      simp only [List.cons_append, applyWhile, hdue, join_append, hjoin, Except.map]
      exact ih
  | case5 waiting operands hne =>
      cases waiting with
      | nil => exact applyWhile_of_settled h
      | cons top waiting =>
          cases top with
          | operator symbol => exact absurd rfl (hne symbol waiting)
          | bracket | call => rfl

theorem finishArgument_append (frame : Frame) (operands below : List Expr) :
    finishArgument (frame.above below.length) (operands ++ below) =
      (finishArgument frame operands).map (Frame.above below.length) := by
  unfold finishArgument
  rw [Frame.floor_above, List.length_append, Nat.add_sub_add_right]
  by_cases hlen : operands.length < frame.floor
  · rw [if_pos hlen, if_pos (by omega)]
    rfl
  · rw [if_neg hlen, if_neg (by omega)]
    split <;> rfl

theorem fold_append {frame : Frame} {operands : List Expr} (h : frame.base ≤ operands.length)
    (below : List Expr) :
    fold (frame.above below.length) (operands ++ below) = fold frame operands ++ below := by
  simp only [fold, Frame.above, List.length_append, Nat.add_sub_add_right]
  rw [List.take_append_of_le_length (by omega), List.drop_append_of_le_length (by omega)]
  rfl

variable {base state : Stacks} {spans : List (Option Span)}

theorem applyAll_above (h : base.Closed) (state : Stacks) :
    applyAll (above base state) = (applyAll state).map fun result =>
      (result.1 ++ base.waiting, result.2 ++ base.operands) := by
  rw [applyAll_eq, applyAll_eq, floor_above h]
  exact applyWhile_append h.settled _ _ _ _

theorem openCall_above (name : String) (base state : Stacks) :
    openCall name (above base state) = (openCall name state).map (above base) := by
  unfold openCall
  split
  · simp [Except.map, above, Frame.above]
  · split <;> rfl

theorem number_above (lexeme : String) (base state : Stacks) :
    number lexeme (above base state) = (number lexeme state).map (above base) := by
  unfold number
  split <;> rfl

theorem operator_above (h : base.Closed) (previous : Option Token) (symbol : String)
    (state : Stacks) :
    operator previous symbol (above base state) =
      (operator previous symbol state).map (above base) := by
  have hzero : withZero previous symbol (above base state).operands =
      withZero previous symbol state.operands ++ base.operands := by
    unfold withZero
    split <;> rfl
  cases hp : precedence symbol with
  | error error => simp only [operator_eq_error hp, Except.map]
  | ok binding =>
      have happly := applyWhile_append (settled_of_always h.settled (bindsAtLeast binding))
        (floor state.calls) state.waiting (withZero previous symbol state.operands) base.operands
      rw [operator_eq hp, operator_eq hp, hzero, floor_above h]
      simp only [above] at happly ⊢
      rw [happly]
      cases applyWhile (bindsAtLeast binding) (floor state.calls) state.waiting
        (withZero previous symbol state.operands) <;> rfl

-- The innermost bracket is one that the reading itself has opened.
theorem comma_above (h : base.Closed) (hsound : Sound spans state) (hspans : spans ≠ [])
    (lexeme : String) :
    comma lexeme (above base state) = (comma lexeme state).map (above base) := by
  unfold comma
  rw [applyAll_above h]
  rcases (applyAll_yields hsound).cases with
    ⟨failure, happly, -⟩ | ⟨⟨waiting, operands⟩, happly, hagree, -, -⟩
  · simp only [happly, Except.map]
  · have htop := settled_of_applyWhile happly
    obtain ⟨inner, other, calls⟩ := state
    simp only [happly, above] at hagree ⊢
    cases hagree with
    | nil => exact absurd rfl hspans
    | operator => cases htop
    | bracket => rfl
    | @call _ _ calls function bottom finished =>
        simp only [Except.map, List.cons_append, List.map_cons, finishArgument_append]
        cases finishArgument ⟨function.name, bottom, finished⟩ operands <;> rfl

theorem close_above (h : base.Closed) (hsound : Sound spans state) (hspans : spans ≠ []) :
    close (above base state) = (close state).map (above base) := by
  unfold close
  rw [applyAll_above h]
  rcases (applyAll_yields hsound).cases with
    ⟨failure, happly, -⟩ | ⟨⟨waiting, operands⟩, happly, hagree, hfloor, -⟩
  · simp only [happly, Except.map]
  · have htop := settled_of_applyWhile happly
    obtain ⟨inner, other, calls⟩ := state
    simp only [happly, above] at hagree hfloor ⊢
    cases hagree with
    | nil => exact absurd rfl hspans
    | operator => cases htop
    | bracket => rfl
    | @call _ _ calls function bottom finished =>
        simp only [Except.map, List.cons_append, List.map_cons, finishArgument_append]
        cases hfinish : finishArgument ⟨function.name, bottom, finished⟩ operands with
        | error failure => rfl
        | ok next =>
            obtain ⟨-, hnext⟩ := finishArgument_eq_ok_iff.mp hfinish
            have hbase : next.base ≤ operands.length := by
              simp only [floor, Frame.floor] at hfloor
              simp only [hnext]
              omega
            simp only [fold_append hbase]
            rfl

theorem receive_above (h : base.Closed) (hsound : Sound spans state) {token : Token}
    (hinside : token.Inside spans) (previous : Option Token) :
    receive previous token (above base state) =
      (receive previous token state).map (above base) := by
  cases hk : token.kind with
  | identifier =>
      simp only [receive, hk, openCall_above]
      cases openCall token.lexeme state <;> rfl
  | bracketOpen =>
      simp only [receive, hk]
      cases calledBy previous with
      | some function => exact openCall_above function.name base state
      | none => rfl
  | comma =>
      simp only [receive, hk]
      exact comma_above h hsound (hinside (.inl hk)) token.lexeme
  | bracketClose =>
      simp only [receive, hk]
      exact close_above h hsound (hinside (.inr hk))
  | number =>
      simp only [receive, hk]
      exact number_above token.lexeme base state
  | operator =>
      simp only [receive, hk]
      exact operator_above h previous token.lexeme state

theorem Agrees.eq_nil {waiting : List Waiting} {calls : List Frame} (h : Agrees [] waiting calls) :
    calls = [] := by
  generalize hspans : ([] : List (Option Span)) = spans at h
  induction h with
  | nil => rfl
  | operator _ _ ih => exact ih hspans
  | bracket | call => cases hspans

theorem Agrees.waiting_eq_nil {waiting : List Waiting} {calls : List Frame}
    (h : Agrees [] waiting calls) (hsettled : Settled always waiting) : waiting = [] := by
  cases h with
  | nil => rfl
  | operator => cases hsettled

-- A reading that is back at depth zero has nothing of its own waiting.
theorem applyAll_above_nil (h : base.Closed) (hsound : Sound [] state) {waiting : List Waiting}
    {operands : List Expr} (happly : applyAll (above base state) = .ok (waiting, operands)) :
    ∃ found, applyAll state = .ok ([], found) ∧ waiting = base.waiting ∧
      operands = found ++ base.operands := by
  rw [applyAll_above h, map_eq_ok_iff] at happly
  obtain ⟨⟨left, found⟩, hfound, hresult⟩ := happly
  have hyields := applyAll_yields hsound
  rw [hfound] at hyields
  obtain rfl : left = [] := hyields.1.waiting_eq_nil (settled_of_applyWhile hfound)
  cases hresult
  exact ⟨found, hfound, rfl, rfl⟩

-- It has left an argument when it could have ended there.
theorem applyAll_above_iff (h : base.Closed) (hsound : Sound [] state) {waiting : List Waiting}
    {operands : List Expr} :
    applyAll (above base state) = .ok (waiting, operands) ∧
        operands.length = base.operands.length + 1 ↔
      ∃ expr, finish state.waiting state.operands = .ok expr ∧ waiting = base.waiting ∧
        operands = expr :: base.operands := by
  have hall : applyAll state = applyWhile always 0 state.waiting state.operands := by
    rw [applyAll_eq, hsound.agrees.eq_nil]
    rfl
  simp only [finish_eq_ok_iff, ← hall]
  constructor
  · rintro ⟨happly, hlen⟩
    obtain ⟨found, hfound, rfl, rfl⟩ := applyAll_above_nil h hsound happly
    rw [List.length_append] at hlen
    obtain ⟨expr, rfl⟩ := List.length_eq_one_iff.mp (show found.length = 1 by omega)
    exact ⟨expr, hfound, rfl, rfl⟩
  · rintro ⟨expr, hfound, rfl, rfl⟩
    rw [applyAll_above h, hfound]
    exact ⟨rfl, rfl⟩

section

variable {below : List Expr} {name : String} {around : List Waiting} {frame : Frame}
  {calls : List Frame}

theorem closed_call (hfloor : frame.floor = below.length) :
    Closed ⟨below, .call name :: around, frame :: calls⟩ := ⟨trivial, hfloor⟩

theorem comma_above_iff (hfloor : frame.floor = below.length) (hsound : Sound [] state)
    {next : Stacks} (lexeme : String) :
    comma lexeme (above ⟨below, .call name :: around, frame :: calls⟩ state) = .ok next ↔
      ∃ expr, finish state.waiting state.operands = .ok expr ∧
        next = ⟨expr :: below, .call name :: around,
          { frame with finished := frame.finished + 1 } :: calls⟩ := by
  have hclosed : Closed ⟨below, .call name :: around, frame :: calls⟩ := closed_call hfloor
  have hempty := hsound.agrees.eq_nil
  constructor
  · intro hcomma
    obtain ⟨_, _, _, _, _, happly, hcalls, hlen, rfl⟩ := comma_cases hcomma
    simp only [above, hempty, List.map_nil, List.nil_append, List.cons.injEq] at hcalls
    obtain ⟨rfl, rfl⟩ := hcalls
    rw [hfloor] at hlen
    obtain ⟨expr, hfinish, hwaiting, rfl⟩ := (applyAll_above_iff hclosed hsound).mp ⟨happly, hlen⟩
    exact ⟨expr, hfinish, by rw [hwaiting]⟩
  · rintro ⟨expr, hfinish, rfl⟩
    have happly := (applyAll_above_iff hclosed hsound).mpr ⟨expr, hfinish, rfl, rfl⟩
    simp only [comma, happly.1]
    simp [above, hempty, finishArgument_cons hfloor, Except.map]

theorem close_above_iff (hfloor : frame.floor = below.length) (hsound : Sound [] state)
    {next : Stacks} :
    close (above ⟨below, .call name :: around, frame :: calls⟩ state) = .ok next ↔
      ∃ expr, finish state.waiting state.operands = .ok expr ∧
        next = ⟨fold { frame with finished := frame.finished + 1 } (expr :: below), around,
          calls⟩ := by
  have hclosed : Closed ⟨below, .call name :: around, frame :: calls⟩ := closed_call hfloor
  have hempty := hsound.agrees.eq_nil
  constructor
  · intro hclose
    rcases close_cases hclose with ⟨_, _, happly, -⟩ | ⟨_, _, _, _, _, happly, hcalls, hlen, rfl⟩
    · obtain ⟨_, -, hwaiting, -⟩ := applyAll_above_nil hclosed hsound happly
      cases hwaiting
    · simp only [above, hempty, List.map_nil, List.nil_append, List.cons.injEq] at hcalls
      obtain ⟨rfl, rfl⟩ := hcalls
      rw [hfloor] at hlen
      obtain ⟨expr, hfinish, hwaiting, rfl⟩ := (applyAll_above_iff hclosed hsound).mp ⟨happly, hlen⟩
      cases hwaiting
      exact ⟨expr, hfinish, rfl⟩
  · rintro ⟨expr, hfinish, rfl⟩
    have happly := (applyAll_above_iff hclosed hsound).mpr ⟨expr, hfinish, rfl, rfl⟩
    simp only [close, happly.1]
    simp [above, hempty, finishArgument_cons hfloor, Except.map]

end

end Stacks

end Reckoner
