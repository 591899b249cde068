import Reckoner.Proofs.Stacks.Above

namespace Reckoner

open Token.CallRule (calledBy)

namespace Stacks

-- A plain bracket is on top. It stops the operators, but it sets no floor of its
-- own, so that operands of the surroundings may be within reach.
structure Open (base : Stacks) : Prop where
  settled : Settled always base.waiting
  floor_le : floor base.calls ≤ base.operands.length

theorem floor_above_le {base : Stacks} (h : base.Open) (state : Stacks) :
    floor (above base state).calls ≤ floor state.calls + base.operands.length := by
  cases hcalls : state.calls with
  | nil => simpa [above, hcalls, floor] using h.floor_le
  | cons frame calls => simp [above, hcalls, floor, Frame.floor_above]

-- What could be applied by itself takes the newest operands, and takes the same
-- ones where there are more below them.
theorem applyWhile_append_of_ok {due : String → Except EvalError Bool} {floor lower : Nat}
    {waiting rest around : List Waiting} {operands result below : List Expr}
    (haround : Settled due around) (hlower : lower ≤ floor + below.length)
    (happly : applyWhile due floor waiting operands = .ok (rest, result)) :
    applyWhile due lower (waiting ++ around) (operands ++ below) =
      .ok (rest ++ around, result ++ below) := by
  fun_induction applyWhile due floor waiting operands with
  | case1 | case3 => cases happly
  | case2 symbol waiting operands hdue =>
      cases happly
      simp [applyWhile, hdue]
  | case4 symbol waiting operands hdue next hjoin ih =>
      obtain ⟨right, left, older, rfl, hfloor, rfl⟩ := join_eq_ok_iff.mp hjoin
      have hreach : lower ≤ (older ++ below).length := by
        rw [List.length_append]
        omega
      have habove : join lower symbol (right :: left :: (older ++ below)) =
          .ok (.binary symbol left right :: (older ++ below)) :=
        join_eq_ok_iff.mpr ⟨right, left, _, rfl, hreach, rfl⟩
      simp only [List.cons_append, applyWhile, hdue, habove]
      exact ih happly
  | case5 waiting operands hne =>
      cases happly
      cases rest with
      | nil => exact applyWhile_of_settled haround
      | cons top rest =>
          cases top with
          | operator symbol => exact absurd rfl (hne symbol rest)
          | bracket | call => rfl

variable {base state next : Stacks}

theorem applyAll_above_of_ok (h : base.Open) {waiting : List Waiting} {operands : List Expr}
    (happly : applyAll state = .ok (waiting, operands)) :
    applyAll (above base state) = .ok (waiting ++ base.waiting, operands ++ base.operands) := by
  rw [applyAll_eq] at happly ⊢
  exact applyWhile_append_of_ok h.settled (floor_above_le h state) happly

theorem finishArgument_above {frame : Frame} {operands : List Expr}
    (hlen : operands.length = frame.floor + 1) (below : List Expr) :
    finishArgument (frame.above below.length) (operands ++ below) =
      .ok (Frame.above below.length { frame with finished := frame.finished + 1 }) := by
  rw [finishArgument_append, finishArgument_eq_ok_iff.mpr ⟨hlen, rfl⟩]
  rfl

theorem comma_above_of_ok (h : base.Open) {lexeme : String}
    (hcomma : comma lexeme state = .ok next) :
    comma lexeme (above base state) = .ok (above base next) := by
  obtain ⟨name, waiting, frame, calls, operands, happly, hcalls, hlen, rfl⟩ := comma_cases hcomma
  simp only [comma, applyAll_above_of_ok h happly]
  simp only [above, hcalls, List.map_cons, List.cons_append, finishArgument_above hlen, Except.map]

theorem close_above_of_ok (h : base.Open) (hclose : close state = .ok next) :
    close (above base state) = .ok (above base next) := by
  rcases close_cases hclose with
    ⟨waiting, operands, happly, rfl⟩ |
    ⟨name, waiting, frame, calls, operands, happly, hcalls, hlen, rfl⟩
  · simp only [close, applyAll_above_of_ok h happly, List.cons_append]
    rfl
  · have hbase : frame.base ≤ operands.length := by
      simp only [Frame.floor] at hlen
      omega
    have hfold := @fold_append { frame with finished := frame.finished + 1 } operands hbase
      base.operands
    simp only [close, applyAll_above_of_ok h happly]
    simp only [above, hcalls, List.map_cons, List.cons_append, finishArgument_above hlen,
      Except.map, hfold]

theorem operator_above_of_ok (h : base.Open) {previous : Option Token} {symbol : String}
    (hoperator : operator previous symbol state = .ok next) :
    operator previous symbol (above base state) = .ok (above base next) := by
  obtain ⟨binding, waiting, operands, hbinding, happly, rfl⟩ := operator_cases hoperator
  have hzero : withZero previous symbol (above base state).operands =
      withZero previous symbol state.operands ++ base.operands := by
    unfold withZero
    split <;> rfl
  have habove := applyWhile_append_of_ok (settled_of_always h.settled (bindsAtLeast binding))
    (floor_above_le h state) happly
  rw [operator_eq hbinding, hzero]
  simp only [above] at habove ⊢
  rw [habove]
  rfl

-- A step that a text takes by itself it takes inside a bracket too.
theorem receive_above_of_ok (h : base.Open) {previous : Option Token} {token : Token}
    (hreceive : receive previous token state = .ok next) :
    receive previous token (above base state) = .ok (above base next) := by
  cases hk : token.kind with
  | identifier =>
      simp only [receive, hk, map_eq_ok_iff] at hreceive ⊢
      obtain ⟨opened, hopen, rfl⟩ := hreceive
      exact ⟨above base opened, by rw [openCall_above, hopen]; rfl, rfl⟩
  | bracketOpen =>
      simp only [receive, hk] at hreceive ⊢
      cases hcalled : calledBy previous with
      | some function =>
          simp only [hcalled] at hreceive ⊢
          rw [openCall_above, hreceive]
          rfl
      | none =>
          simp only [hcalled, Except.ok.injEq] at hreceive ⊢
          rw [← hreceive]
          rfl
  | comma =>
      simp only [receive, hk] at hreceive ⊢
      exact comma_above_of_ok h hreceive
  | bracketClose =>
      simp only [receive, hk] at hreceive ⊢
      exact close_above_of_ok h hreceive
  | number =>
      simp only [receive, hk] at hreceive ⊢
      rw [number_above, hreceive]
      rfl
  | operator =>
      simp only [receive, hk] at hreceive ⊢
      exact operator_above_of_ok h hreceive

end Stacks

end Reckoner
