import Reckoner.Expr.Leaves
import Reckoner.Expr.Value
import Reckoner.Proofs.Reader
import Reckoner.Proofs.Stacks.Apply
import Reckoner.Proofs.Token.Lexed

namespace Reckoner

open Token.CallRule (Span calledBy scan scanOne)

-- What an expression can be blamed for. The symbols of operators are settled
-- when the text is cut, so that an unknown one is nobody's fault but ours.
def Failure.IsFault : Failure → Prop
  | .rejected error => error.kind ≠ .unknownOperator
  | .broken _ => False

-- Every name has its arguments, and every symbol is an operator's.
structure Expr.Sound (expr : Expr) : Prop where
  calls : expr.WellCalled
  symbols : ∀ symbol ∈ expr.symbols, (Operator.ofSymbol? symbol).isSome

-- A result that meets the condition, or a failure of the allowed sort.
def Yields {α : Type} (allowed : Failure → Prop) (condition : α → Prop) :
    Except Failure α → Prop
  | .ok value => condition value
  | .error failure => allowed failure

@[simp] theorem yields_ok {α : Type} (allowed : Failure → Prop) (condition : α → Prop) (value : α) :
    Yields allowed condition (.ok value) ↔ condition value := Iff.rfl

@[simp] theorem yields_error {α : Type} (allowed : Failure → Prop) (condition : α → Prop)
    (failure : Failure) : Yields allowed condition (.error failure) ↔ allowed failure := Iff.rfl

theorem Yields.mono {α : Type} {allowed more : Failure → Prop} {condition : α → Prop}
    {result : Except Failure α} (h : Yields allowed condition result)
    (himp : ∀ failure, allowed failure → more failure) : Yields more condition result := by
  cases result with
  | ok value => exact h
  | error failure => exact himp failure h

theorem Yields.cases {α : Type} {allowed : Failure → Prop} {condition : α → Prop}
    {result : Except Failure α} (h : Yields allowed condition result) :
    (∃ failure, result = .error failure ∧ allowed failure) ∨
      ∃ value, result = .ok value ∧ condition value := by
  cases result with
  | ok value => exact .inr ⟨value, rfl, h⟩
  | error failure => exact .inl ⟨failure, rfl, h⟩

namespace Stacks

-- The brackets that the call rule holds open are the ones that wait, and a call
-- has as many finished arguments as it has commas. The frames rise with the calls.
inductive Agrees : List (Option Span) → List Waiting → List Frame → Prop
  | nil : Agrees [] [] []
  | operator {spans : List (Option Span)} {waiting : List Waiting} {calls : List Frame}
      {symbol : String} : (Operator.ofSymbol? symbol).isSome → Agrees spans waiting calls →
      Agrees spans (.operator symbol :: waiting) calls
  | bracket {spans : List (Option Span)} {waiting : List Waiting} {calls : List Frame} :
      Agrees spans waiting calls → Agrees (none :: spans) (.bracket :: waiting) calls
  | call {spans : List (Option Span)} {waiting : List Waiting} {calls : List Frame}
      {function : Function} {base finished : Nat} :
      Agrees spans waiting calls → floor calls ≤ base →
      Agrees (some ⟨function, finished⟩ :: spans) (.call function.name :: waiting)
        (⟨function.name, base, finished⟩ :: calls)

structure Sound (spans : List (Option Span)) (state : Stacks) : Prop where
  agrees : Agrees spans state.waiting state.calls
  floor_le : floor state.calls ≤ state.operands.length
  operands : ∀ expr ∈ state.operands, expr.Sound

theorem sound_empty : Sound [] empty := ⟨.nil, Nat.le_refl _, by simp [empty]⟩

theorem sound_binary {symbol : String} {left right : Expr}
    (hs : (Operator.ofSymbol? symbol).isSome) (hl : left.Sound) (hr : right.Sound) :
    (Expr.binary symbol left right).Sound := by
  refine ⟨⟨hl.calls, hr.calls⟩, ?_⟩
  intro other ho
  simp only [Expr.symbols, List.mem_append, List.mem_singleton] at ho
  rcases ho with (ho | ho) | rfl
  · exact hl.symbols other ho
  · exact hr.symbols other ho
  · exact hs

-- Applying operators is safe as long as the operands reach down to the floor.
theorem applyWhile_yields {due : String → Except EvalError Bool} {floor : Nat}
    {spans : List (Option Span)} {waiting : List Waiting} {calls : List Frame}
    {operands : List Expr} (hagree : Agrees spans waiting calls)
    (hfloor : floor ≤ operands.length) (hsound : ∀ expr ∈ operands, expr.Sound)
    (hdue : ∀ symbol, (Operator.ofSymbol? symbol).isSome → ∃ b, due symbol = .ok b) :
    Yields Failure.IsFault
      (fun result => Agrees spans result.1 calls ∧ floor ≤ result.2.length ∧
        ∀ expr ∈ result.2, expr.Sound)
      (applyWhile due floor waiting operands) := by
  fun_induction applyWhile due floor waiting operands with
  | case1 symbol waiting operands error herror =>
      cases hagree with
      | operator hs _ =>
          obtain ⟨b, hb⟩ := hdue symbol hs
          simp [hb] at herror
  | case2 => exact ⟨hagree, hfloor, hsound⟩
  | case3 symbol waiting operands hdue failure hjoin =>
      rw [join_eq_error hjoin]
      simp [Failure.IsFault, EvalError.kind]
  | case4 symbol waiting operands _ next hjoin ih =>
      cases hagree with
      | operator hs hagree =>
          obtain ⟨right, left, rest, rfl, hf, rfl⟩ := join_eq_ok_iff.mp hjoin
          simp only [List.forall_mem_cons] at hsound
          obtain ⟨hr, hl, hrest⟩ := hsound
          apply ih hagree
          · exact Nat.le_succ_of_le hf
          · exact List.forall_mem_cons.mpr ⟨sound_binary hs hl hr, hrest⟩
  | case5 => exact ⟨hagree, hfloor, hsound⟩

theorem allWellCalled_iff (exprs : List Expr) :
    Expr.AllWellCalled exprs ↔ ∀ expr ∈ exprs, expr.WellCalled := by
  induction exprs with
  | nil => simp [Expr.AllWellCalled]
  | cons expr exprs ih => simp [Expr.AllWellCalled, ih]

theorem mem_allSymbols_iff (symbol : String) (exprs : List Expr) :
    symbol ∈ Expr.allSymbols exprs ↔ ∃ expr ∈ exprs, symbol ∈ expr.symbols := by
  induction exprs with
  | nil => simp [Expr.allSymbols]
  | cons expr exprs ih => simp [Expr.allSymbols, ih]

theorem sound_call {function : Function} {arguments : List Expr}
    (hlen : arguments.length = function.arity) (h : ∀ expr ∈ arguments, expr.Sound) :
    (Expr.call function.name arguments).Sound := by
  refine ⟨⟨⟨function, rfl, hlen⟩, ?_⟩, ?_⟩
  · exact (allWellCalled_iff arguments).mpr fun expr he => (h expr he).calls
  · intro symbol hs
    obtain ⟨expr, he, hs⟩ := (mem_allSymbols_iff symbol arguments).mp hs
    exact (h expr he).symbols symbol hs

theorem finishArgument_yields {frame : Frame} {operands : List Expr}
    (h : frame.floor ≤ operands.length) :
    Yields Failure.IsFault
      (fun next => operands.length = frame.floor + 1 ∧
        next = { frame with finished := frame.finished + 1 })
      (finishArgument frame operands) := by
  cases hf : finishArgument frame operands with
  | ok next => exact finishArgument_eq_ok_iff.mp hf
  | error failure =>
      unfold finishArgument at hf
      rw [if_neg (by omega)] at hf
      split at hf <;> cases hf <;> simp [Failure.IsFault, EvalError.kind]

theorem applyAll_yields {spans : List (Option Span)} {state : Stacks} (h : Sound spans state) :
    Yields Failure.IsFault
      (fun result => Agrees spans result.1 state.calls ∧
        floor state.calls ≤ result.2.length ∧ ∀ expr ∈ result.2, expr.Sound)
      (applyAll state) :=
  applyWhile_yields h.agrees h.floor_le h.operands fun _ _ => ⟨true, rfl⟩

-- A comma ends an argument of the innermost bracket, if that bracket is a call's.
theorem comma_yields {spans : List (Option Span)} {state : Stacks} (lexeme : String)
    (h : Sound spans state) :
    Yields Failure.IsFault (Sound (Token.CallRule.countComma spans)) (comma lexeme state) := by
  rcases (applyAll_yields h).cases with
    ⟨failure, happly, hfault⟩ | ⟨⟨waiting, operands⟩, happly, hagree, hfloor, hsound⟩
  · simpa only [comma, happly, yields_error] using hfault
  · have htop := settled_of_applyWhile happly
    simp only [comma, happly]
    generalize state.calls = calls at hagree hfloor
    cases hagree with
    | nil => simp [Failure.IsFault, EvalError.kind]
    | operator _ _ => cases htop
    | bracket _ => simp [Failure.IsFault, EvalError.kind]
    | call hagree hbase =>
        rcases (finishArgument_yields hfloor).cases with
          ⟨failure, hfinish, hfault⟩ | ⟨_, hfinish, hlen, rfl⟩
        · simpa only [Except.map, hfinish, yields_error] using hfault
        · simp only [Except.map, hfinish]
          refine ⟨.call hagree hbase, ?_, hsound⟩
          simp only [Frame.floor, floor] at hlen ⊢
          omega

-- The operands above the base of a call are its arguments, as many as the call
-- rule has counted.
theorem fold_sound {function : Function} {base finished : Nat} {operands : List Expr}
    (hlen : operands.length = base + finished + 1) (harity : finished + 1 = function.arity)
    (hsound : ∀ expr ∈ operands, expr.Sound) :
    (∀ expr ∈ fold ⟨function.name, base, finished + 1⟩ operands, expr.Sound) ∧
      (fold ⟨function.name, base, finished + 1⟩ operands).length = base + 1 := by
  unfold fold
  dsimp only
  constructor
  · intro expr he
    rcases List.mem_cons.mp he with rfl | he
    · apply sound_call
      · rw [List.length_reverse, List.length_take]
        omega
      · intro argument ha
        exact hsound argument (List.mem_of_mem_take (List.mem_reverse.mp ha))
    · exact hsound expr (List.mem_of_mem_drop he)
  · rw [List.length_cons, List.length_drop]
    omega

theorem close_yields {span : Option Span} {outer : List (Option Span)} {state : Stacks}
    (previous : Option Token) (h : Sound (span :: outer) state)
    (hclose : Token.CallRule.close previous span = .ok ()) :
    Yields Failure.IsFault (Sound outer) (close state) := by
  rcases (applyAll_yields h).cases with
    ⟨failure, happly, hfault⟩ | ⟨⟨waiting, operands⟩, happly, hagree, hfloor, hsound⟩
  · simpa only [close, happly, yields_error] using hfault
  · have htop := settled_of_applyWhile happly
    simp only [close, happly]
    generalize state.calls = calls at hagree hfloor
    cases hagree with
    | operator _ _ => cases htop
    | bracket hagree => exact ⟨hagree, hfloor, hsound⟩
    | call hagree hbase =>
        have hcount := Token.CallRule.count_of_close hclose
        rcases (finishArgument_yields hfloor).cases with
          ⟨failure, hfinish, hfault⟩ | ⟨_, hfinish, hlen, rfl⟩
        · simpa only [Except.map, hfinish, yields_error] using hfault
        · obtain ⟨hfold, hfoldlen⟩ := fold_sound hlen hcount hsound
          simp only [Except.map, hfinish]
          refine ⟨hagree, ?_, hfold⟩
          simp only [hfoldlen]
          omega

-- A closing bracket that nothing waits for is left over.
theorem close_yields_of_nil {state : Stacks} {condition : Stacks → Prop} (h : Sound [] state) :
    Yields Failure.IsFault condition (close state) := by
  rcases (applyAll_yields h).cases with
    ⟨failure, happly, hfault⟩ | ⟨⟨waiting, operands⟩, happly, hagree, -, -⟩
  · simpa only [close, happly, yields_error] using hfault
  · have htop := settled_of_applyWhile happly
    simp only [close, happly]
    generalize state.calls = calls at hagree
    cases hagree with
    | nil => simp [Failure.IsFault, EvalError.kind]
    | operator _ _ => cases htop

theorem withZero_sound {previous : Option Token} {symbol : String} {operands : List Expr}
    (h : ∀ expr ∈ operands, expr.Sound) :
    ∀ expr ∈ withZero previous symbol operands, expr.Sound := by
  unfold withZero
  split
  · exact List.forall_mem_cons.mpr ⟨⟨trivial, by simp [Expr.symbols]⟩, h⟩
  · exact h

theorem operator_yields {spans : List (Option Span)} {state : Stacks} (previous : Option Token)
    (symbol : String) (h : Sound spans state) :
    Yields (fun failure => (Operator.ofSymbol? symbol).isSome → failure.IsFault) (Sound spans)
      (operator previous symbol state) := by
  cases hp : precedence symbol with
  | error error =>
      rw [operator_eq_error hp]
      intro hs
      obtain ⟨binding, hb⟩ := precedence_eq_ok hs
      simp [hb] at hp
  | ok binding =>
      have hdue (other : String) (ho : (Operator.ofSymbol? other).isSome) :
          ∃ b, bindsAtLeast binding other = .ok b := by
        obtain ⟨tightness, ht⟩ := precedence_eq_ok ho
        exact ⟨decide (binding ≤ tightness), by simp [bindsAtLeast, ht, Except.map]⟩
      have hyields := applyWhile_yields h.agrees
        (Nat.le_trans h.floor_le (length_le_withZero previous symbol state.operands))
        (withZero_sound h.operands) hdue
      rw [operator_eq hp]
      rcases hyields.cases with ⟨failure, happly, hfault⟩ | ⟨_, happly, hagree, hfloor, hsound⟩
      · rw [happly]
        exact fun _ => hfault
      · rw [happly]
        exact ⟨.operator (isSome_of_precedence hp) hagree, hfloor, hsound⟩

theorem number_yields {spans : List (Option Span)} {state : Stacks} (lexeme : String)
    (h : Sound spans state) : Yields Failure.IsFault (Sound spans) (number lexeme state) := by
  unfold number
  cases Decimal.read? lexeme with
  | none => simp [Failure.IsFault, EvalError.kind]
  | some value =>
      refine ⟨h.agrees, Nat.le_succ_of_le h.floor_le, ?_⟩
      exact List.forall_mem_cons.mpr ⟨⟨trivial, by simp [Expr.symbols]⟩, h.operands⟩

theorem openCall_yields {name : String} (state : Stacks) (h : name ≠ "") :
    Yields Failure.IsFault (fun _ => True) (openCall name state) := by
  unfold openCall
  split
  · trivial
  · cases hl : name.toList with
    | nil => exact absurd (String.toList_eq_nil_iff.mp hl) h
    | cons c rest => simp [Failure.IsFault, EvalError.kind]

-- One token keeps the two passes in agreement. A token that was cut from a
-- text breaks no promise either.
theorem receive_yields {spans next : List (Option Span)} {state : Stacks}
    {previous : Option Token} {token : Token} (h : Sound spans state) (hplain : token.Plain)
    (hscan : scanOne previous token spans = .ok next) :
    Yields (fun failure => token.Lexed → failure.IsFault) (Sound next)
      (receive previous token state) := by
  cases hk : token.kind with
  | bracketOpen =>
      simp only [receive, hk]
      cases hp : calledBy previous with
      | some function =>
          obtain ⟨-, rfl⟩ := Token.CallRule.eq_of_scanOne_of_calledBy hp hscan
          simp only [openCall_name]
          exact ⟨.call h.agrees h.floor_le, Nat.le_refl _, h.operands⟩
      | none =>
          simp only [scanOne, hp, hk, Except.ok.injEq] at hscan
          subst hscan
          simp only [openBracket, hplain.opening hk, ite_true]
          exact ⟨.bracket h.agrees, h.floor_le, h.operands⟩
  | identifier =>
      have hp := Token.CallRule.calledBy_of_scanOne hscan (by simp [hk])
      simp only [scanOne, hp, hk, Except.ok.injEq] at hscan
      subst hscan
      simp only [receive, hk]
      cases ho : openCall token.lexeme state with
      | ok opened => exact h
      | error failure =>
          intro hlexed
          have hopen := openCall_yields state (hlexed.identifier hk)
          rwa [ho] at hopen
  | comma =>
      have hp := Token.CallRule.calledBy_of_scanOne hscan (by simp [hk])
      simp only [scanOne, hp, hk, Except.ok.injEq] at hscan
      subst hscan
      simp only [receive, hk]
      exact (comma_yields token.lexeme h).mono fun _ hf _ => hf
  | bracketClose =>
      have hp := Token.CallRule.calledBy_of_scanOne hscan (by simp [hk])
      simp only [scanOne, hp, hk] at hscan
      simp only [receive, hk]
      cases spans with
      | nil => exact (close_yields_of_nil h).mono fun _ hf _ => hf
      | cons span outer =>
          obtain ⟨_, hclose, rfl⟩ := map_eq_ok_iff.mp hscan
          exact (close_yields previous h hclose).mono fun _ hf _ => hf
  | number =>
      have hp := Token.CallRule.calledBy_of_scanOne hscan (by simp [hk])
      simp only [scanOne, hp, hk, Except.ok.injEq] at hscan
      subst hscan
      simp only [receive, hk]
      exact (number_yields token.lexeme h).mono fun _ hf _ => hf
  | operator =>
      have hp := Token.CallRule.calledBy_of_scanOne hscan (by simp [hk])
      simp only [scanOne, hp, hk, Except.ok.injEq] at hscan
      subst hscan
      simp only [receive, hk]
      exact (operator_yields previous token.lexeme h).mono fun _ hf hlexed =>
        hf (hlexed.operator hk)

theorem finish_yields {calls : List Frame} {waiting : List Waiting} {spans : List (Option Span)}
    {operands : List Expr} (hagree : Agrees spans waiting calls)
    (hsound : ∀ expr ∈ operands, expr.Sound) :
    Yields Failure.IsFault Expr.Sound (finish waiting operands) := by
  induction hagree generalizing operands with
  | nil =>
      match operands with
      | [expr] => exact hsound expr (by simp)
      | [] | _ :: _ :: _ => simp [finish, Failure.IsFault, EvalError.kind]
  | bracket | call => simp [finish, Failure.IsFault, EvalError.kind]
  | @operator _ _ _ symbol hs hagree ih =>
      rw [finish]
      cases hjoin : join 0 symbol operands with
      | error failure =>
          rw [join_eq_error hjoin]
          simp [Failure.IsFault, EvalError.kind]
      | ok next =>
          obtain ⟨right, left, rest, rfl, -, rfl⟩ := join_eq_ok_iff.mp hjoin
          simp only [List.forall_mem_cons] at hsound
          exact ih (List.forall_mem_cons.mpr
            ⟨sound_binary hs hsound.2.1 hsound.1, hsound.2.2⟩)

-- The whole reading, from the step at one token.
theorem receiveAll_yields {spans last : List (Option Span)} {state : Stacks}
    {previous : Option Token} {tokens : List Token} (h : Sound spans state)
    (hlexed : ∀ token ∈ tokens, token.Lexed) (hscan : scan previous spans tokens = .ok last) :
    Yields Failure.IsFault (Sound last) (receiveAll previous state tokens) := by
  induction tokens generalizing previous spans state with
  | nil =>
      cases hscan
      exact h
  | cons token rest ih =>
      obtain ⟨next, hone, hscan⟩ := Token.CallRule.scan_cons_eq_ok_iff.mp hscan
      have htoken := hlexed token (by simp)
      rw [receiveAll]
      rcases (receive_yields h htoken.toPlain hone).cases with
        ⟨failure, hreceive, hfault⟩ | ⟨after, hreceive, hafter⟩
      · rw [hreceive]
        exact hfault htoken
      · rw [hreceive]
        exact ih hafter (fun token ht => hlexed token (by simp [ht])) hscan

end Stacks

namespace Reader

theorem Steps.sound {reader next : Reader} {token : Token} (hstep : Steps reader token next)
    (hplain : token.Plain) (h : Stacks.Sound reader.spans reader.state) :
    Stacks.Sound next.spans next.state := by
  have hyields := Stacks.receive_yields h hplain hstep.spans
  rwa [hstep.state] at hyields

theorem Reads.sound {reader last : Reader} {tokens : List Token} (hreads : Reads reader tokens last)
    (hplain : ∀ token ∈ tokens, token.Plain) (h : Stacks.Sound reader.spans reader.state) :
    Stacks.Sound last.spans last.state := by
  induction hreads with
  | nil => exact h
  | cons hstep hrest ih =>
      simp only [List.forall_mem_cons] at hplain
      exact ih hplain.2 (hstep.sound hplain.1 h)

end Reader

end Reckoner
