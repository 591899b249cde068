import Mathlib.Algebra.BigOperators.Group.Multiset.Basic
import Mathlib.Algebra.GroupWithZero.Nat
import Mathlib.Data.Multiset.Filter
import Reckoner.Proofs.Stacks.Agreement
import Reckoner.Proofs.Stacks.Leaves
import Reckoner.Proofs.Token.Enclosed

namespace Reckoner

open Token (enclosed)
open Token.CallRule (Span calledBy scanOne)
open Expr.Grammar (separator)

namespace Token

-- The operators, names and commas among the tokens. Each of them leaves a trace
-- in an expression, as a node or between the arguments of one.
def isMark (token : Token) : Bool :=
  match token.kind with
  | .operator | .identifier | .comma => true
  | .number | .bracketOpen | .bracketClose => false

def marks (tokens : List Token) : Multiset Token := tokens.filter isMark

theorem marks_cons (token : Token) (rest : List Token) :
    marks (token :: rest) = marks [token] + marks rest := by
  unfold marks
  rw [Multiset.coe_add, ← List.filter_append]
  rfl

theorem marks_of_isMark {token : Token} (h : token.isMark) : marks [token] = {token} := by
  simp [marks, h]

theorem marks_of_not_isMark {token : Token} (h : token.isMark = false) : marks [token] = 0 := by
  simp [marks, h]

theorem count_marks {token : Token} (h : token.isMark) (tokens : List Token) :
    (marks tokens).count token = tokens.count token := by
  rw [marks, Multiset.coe_count, List.count_filter h]

end Token

-- The commas between the arguments of a call.
def Function.commasIn (name : String) : Nat :=
  match named? name with
  | some function => function.arity - 1
  | none => 0

theorem Function.commasIn_name (function : Function) :
    commasIn function.name = function.arity - 1 := by
  simp [commasIn]

namespace Expr

-- The operators, names and commas that expressions are written with.
def marks (exprs : List Expr) : Multiset Token :=
  ((allSymbols exprs).map (Token.mk .operator) : Multiset Token) +
    ((allCallNames exprs).map (Token.mk .identifier) : Multiset Token) +
    Multiset.replicate ((allCallNames exprs).map Function.commasIn).sum separator

theorem allSymbols_append (front back : List Expr) :
    allSymbols (front ++ back) = allSymbols front ++ allSymbols back := by
  induction front with
  | nil => rfl
  | cons expr front ih => simp [allSymbols, ih]

theorem allCallNames_append (front back : List Expr) :
    allCallNames (front ++ back) = allCallNames front ++ allCallNames back := by
  induction front with
  | nil => rfl
  | cons expr front ih => simp [allCallNames, ih]

theorem marks_append (front back : List Expr) :
    marks (front ++ back) = marks front + marks back := by
  simp only [marks, allSymbols_append, allCallNames_append, List.map_append, List.sum_append,
    ← Multiset.coe_add, Multiset.replicate_add]
  ac_rfl

theorem marks_cons (expr : Expr) (rest : List Expr) :
    marks (expr :: rest) = marks [expr] + marks rest := marks_append [expr] rest

theorem marks_reverse (exprs : List Expr) : marks exprs.reverse = marks exprs := by
  induction exprs with
  | nil => rfl
  | cons expr rest ih =>
      rw [List.reverse_cons, marks_append, ih, marks_cons expr rest, add_comm]

theorem marks_number (value : Binary64) : marks [.number value] = 0 := by
  simp [marks, allSymbols, allCallNames, symbols, callNames]

theorem marks_binary (symbol : String) (left right : Expr) :
    marks [.binary symbol left right] =
      marks [left] + marks [right] + {⟨.operator, symbol⟩} := by
  have hsymbol : marks [.binary symbol left right] =
      marks [left, right] + {⟨.operator, symbol⟩} := by
    simp only [marks, allSymbols, allCallNames, symbols, callNames, List.append_nil,
      List.map_append, List.map_cons, List.map_nil, ← Multiset.coe_add, Multiset.coe_singleton]
    ac_rfl
  rw [hsymbol, marks_cons left [right]]

theorem marks_call (function : Function) (arguments : List Expr) :
    marks [.call function.name arguments] = marks arguments +
      Multiset.replicate (function.arity - 1) separator + {⟨.identifier, function.name⟩} := by
  simp only [marks, allSymbols, allCallNames, symbols, callNames, List.append_nil, List.map_append,
    List.map_cons, List.map_nil, List.sum_append, List.sum_singleton, Function.commasIn_name,
    ← Multiset.coe_add, Multiset.coe_singleton, Multiset.replicate_add]
  ac_rfl

end Expr
def Waiting.marks : Waiting → Multiset Token
  | .operator symbol => {⟨.operator, symbol⟩}
  | .bracket => 0
  | .call name => {⟨.identifier, name⟩}

namespace Stacks

def waitingMarks (waiting : List Waiting) : Multiset Token := (waiting.map Waiting.marks).sum

@[simp] theorem waitingMarks_cons (top : Waiting) (waiting : List Waiting) :
    waitingMarks (top :: waiting) = top.marks + waitingMarks waiting := by
  simp [waitingMarks]

-- One comma has been read for each finished argument of an open call.
def openCommas (calls : List Frame) : Multiset Token :=
  Multiset.replicate (calls.map Frame.finished).sum separator

@[simp] theorem openCommas_cons (frame : Frame) (calls : List Frame) :
    openCommas (frame :: calls) =
      Multiset.replicate frame.finished separator + openCommas calls := by
  simp [openCommas, Multiset.replicate_add]

-- What has been read lies in the operands, waits, or has ended an argument.
def marks (state : Stacks) : Multiset Token :=
  Expr.marks state.operands + waitingMarks state.waiting + openCommas state.calls

-- An operator that is applied goes from the waiting entries into an operand.
theorem applyWhile_marks {due : String → Except EvalError Bool} {floor : Nat}
    {waiting rest : List Waiting} {operands result : List Expr}
    (h : applyWhile due floor waiting operands = .ok (rest, result)) :
    Expr.marks result + waitingMarks rest = Expr.marks operands + waitingMarks waiting := by
  fun_induction applyWhile due floor waiting operands with
  | case1 | case3 => cases h
  | case2 =>
      cases h
      rfl
  | case4 symbol waiting operands hdue next hjoin ih =>
      obtain ⟨right, left, older, rfl, -, rfl⟩ := join_eq_ok_iff.mp hjoin
      rw [ih h, Expr.marks_cons _ older, Expr.marks_binary, Expr.marks_cons right (left :: older),
        Expr.marks_cons left older, waitingMarks_cons, Waiting.marks]
      ac_rfl
  | case5 =>
      cases h
      rfl

-- A call that is folded takes its commas with it.
theorem fold_marks {function : Function} {base finished : Nat} {operands : List Expr}
    (harity : finished + 1 = function.arity) :
    Expr.marks (fold ⟨function.name, base, finished + 1⟩ operands) =
      Expr.marks operands + Multiset.replicate finished separator +
        {⟨.identifier, function.name⟩} := by
  have hcommas : function.arity - 1 = finished := by omega
  unfold fold
  generalize operands.length - base = count
  calc Expr.marks (.call function.name (operands.take count).reverse :: operands.drop count)
      = Expr.marks (operands.take count) + Multiset.replicate finished separator +
          {⟨.identifier, function.name⟩} + Expr.marks (operands.drop count) := by
        rw [Expr.marks_cons, Expr.marks_call, Expr.marks_reverse, hcommas]
    _ = Expr.marks (operands.take count ++ operands.drop count) +
          Multiset.replicate finished separator + {⟨.identifier, function.name⟩} := by
        rw [Expr.marks_append]
        ac_rfl
    _ = _ := by rw [List.take_append_drop]

theorem withZero_marks (previous : Option Token) (symbol : String) (operands : List Expr) :
    Expr.marks (withZero previous symbol operands) = Expr.marks operands := by
  unfold withZero
  split
  · rw [Expr.marks_cons, Expr.marks_number, zero_add]
  · rfl

variable {spans : List (Option Span)} {state next : Stacks}

theorem comma_marks {lexeme : String} (h : comma lexeme state = .ok next) :
    next.marks = state.marks + {separator} := by
  obtain ⟨_, _, frame, calls, operands, happly, hcalls, -, rfl⟩ := comma_cases h
  have hmarks := applyWhile_marks happly
  simp only [marks, hcalls, openCommas_cons, Multiset.replicate_succ, ← hmarks,
    ← Multiset.singleton_add]
  ac_rfl

-- A comma or a closing bracket finds a bracket open, or the stacks refuse it.
theorem ne_nil_of_comma {lexeme : String} (h : comma lexeme state = .ok next)
    (hsound : Sound spans state) : spans ≠ [] := by
  obtain ⟨_, _, _, _, _, happly, -, -, -⟩ := comma_cases h
  have hyields := applyAll_yields hsound
  rw [happly] at hyields
  rintro rfl
  cases hyields.1

theorem ne_nil_of_close (h : close state = .ok next) (hsound : Sound spans state) :
    spans ≠ [] := by
  rintro rfl
  have hnone := @close_yields_of_nil _ (fun _ => False) hsound
  rw [h] at hnone
  exact hnone

-- The frame of a call that closes is the one that its name waits for.
theorem close_marks {previous : Option Token} {span : Option Span} (h : close state = .ok next)
    (hsound : Sound (span :: spans) state)
    (hclose : Token.CallRule.close previous span = .ok ()) : next.marks = state.marks := by
  have hyields := applyAll_yields hsound
  rcases close_cases h with ⟨waiting, operands, happly, rfl⟩ |
    ⟨name, waiting, frame, calls, operands, happly, hcalls, -, rfl⟩
  · have hmarks := applyWhile_marks happly
    simp only [marks, ← hmarks, waitingMarks_cons, Waiting.marks, zero_add]
  · have hmarks := applyWhile_marks happly
    rw [happly, hcalls] at hyields
    obtain ⟨hagree, -, -⟩ := hyields
    generalize hspans : span :: spans = brackets at hagree
    cases hagree with
    | @call _ _ _ function base finished hagree hbase =>
        cases hspans
        have harity := Token.CallRule.count_of_close hclose
        simp only [marks, hcalls, ← hmarks, openCommas_cons, waitingMarks_cons, Waiting.marks,
          fold_marks harity]
        ac_rfl

end Stacks

namespace Reader

-- A name is kept in mind until its bracket opens the call.
def marks (reader : Reader) : Multiset Token :=
  reader.state.marks + match calledBy reader.previous with
    | some function => {⟨.identifier, function.name⟩}
    | none => 0

theorem marks_of_calledBy {reader : Reader} (h : calledBy reader.previous = none) :
    reader.marks = reader.state.marks := by
  simp [marks, h]

theorem Steps.marks {reader next : Reader} {token : Token} (hstep : Steps reader token next)
    (hplain : token.Plain) (hsound : Stacks.Sound reader.spans reader.state) :
    next.marks = reader.marks + Token.marks [token] := by
  obtain ⟨previous, spans, state⟩ := reader
  obtain ⟨last, after, result⟩ := next
  obtain ⟨rfl, hscan, hreceive⟩ := hstep
  obtain ⟨kind, lexeme⟩ := token
  simp only at hscan hreceive hsound
  cases hp : calledBy previous with
  | some function =>
      obtain ⟨hk, -⟩ := Token.CallRule.eq_of_scanOne_of_calledBy hp hscan
      subst hk
      simp only [Stacks.receive, hp, Stacks.openCall_name, Except.ok.injEq] at hreceive
      subst hreceive
      rw [marks_of_calledBy rfl, Token.marks_of_not_isMark rfl]
      simp only [Reader.marks, hp, Stacks.marks, Stacks.waitingMarks_cons, Waiting.marks,
        Stacks.openCommas_cons, Multiset.replicate_zero, zero_add, add_zero]
      ac_rfl
  | none =>
      have hbefore := @marks_of_calledBy ⟨previous, spans, state⟩ hp
      rw [hbefore]
      cases kind with
      | number =>
          obtain ⟨value, -, rfl⟩ := Stacks.number_cases hreceive
          rw [marks_of_calledBy rfl, Token.marks_of_not_isMark rfl, add_zero]
          simp only [Stacks.marks]
          rw [Expr.marks_cons, Expr.marks_number, zero_add]
      | operator =>
          obtain ⟨binding, waiting, operands, -, happly, rfl⟩ := Stacks.operator_cases hreceive
          have hmarks := Stacks.applyWhile_marks happly
          rw [Stacks.withZero_marks] at hmarks
          rw [marks_of_calledBy rfl, Token.marks_of_isMark rfl]
          simp only [Stacks.marks, ← hmarks, Stacks.waitingMarks_cons, Waiting.marks]
          ac_rfl
      | bracketOpen =>
          obtain rfl : lexeme = "(" := hplain.opening rfl
          simp only [Stacks.receive, hp, Except.ok.injEq] at hreceive
          subst hreceive
          rw [marks_of_calledBy rfl, Token.marks_of_not_isMark rfl, add_zero]
          simp [Stacks.marks, Stacks.openBracket, Waiting.marks]
      | bracketClose =>
          rw [marks_of_calledBy rfl, Token.marks_of_not_isMark rfl, add_zero]
          simp only [scanOne, hp] at hscan
          cases spans with
          | nil => exact absurd rfl (Stacks.ne_nil_of_close hreceive hsound)
          | cons span outer =>
              obtain ⟨_, hclose, -⟩ := map_eq_ok_iff.mp hscan
              exact Stacks.close_marks hreceive hsound hclose
      | comma =>
          obtain rfl : lexeme = "," := hplain.comma rfl
          rw [marks_of_calledBy rfl, Token.marks_of_isMark rfl]
          exact Stacks.comma_marks hreceive
      | identifier =>
          obtain ⟨opened, hopen, rfl⟩ := map_eq_ok_iff.mp hreceive
          obtain ⟨function, rfl, -⟩ := Stacks.openCall_cases hopen
          rw [Token.marks_of_isMark rfl]
          simp [Reader.marks, calledBy]

-- Nothing is lost and nothing comes in between.
theorem Reads.marks {reader last : Reader} {tokens : List Token} (hreads : Reads reader tokens last)
    (hplain : ∀ token ∈ tokens, token.Plain)
    (hsound : Stacks.Sound reader.spans reader.state) :
    last.marks = reader.marks + Token.marks tokens := by
  induction hreads with
  | nil => exact (add_zero _).symm
  | @cons reader next last token rest hstep hrest ih =>
      simp only [List.forall_mem_cons] at hplain
      rw [ih hplain.2 (hstep.sound hplain.1 hsound), hstep.marks hplain.1 hsound,
        Token.marks_cons token rest, add_assoc]

theorem Steps.enclosed {reader next : Reader} {token : Token} {rest : List Token}
    (hstep : Steps reader token next) (hsound : Stacks.Sound reader.spans reader.state)
    (h : enclosed next.spans.length rest) : enclosed reader.spans.length (token :: rest) := by
  obtain ⟨previous, spans, state⟩ := reader
  obtain ⟨last, after, result⟩ := next
  obtain ⟨rfl, hscan, hreceive⟩ := hstep
  obtain ⟨kind, lexeme⟩ := token
  simp only at hscan hreceive hsound h
  cases hp : calledBy previous with
  | some function =>
      obtain ⟨hk, rfl⟩ := Token.CallRule.eq_of_scanOne_of_calledBy hp hscan
      subst hk
      exact h
  | none =>
      simp only [scanOne, hp] at hscan
      cases kind with
      | number | operator | identifier | bracketOpen =>
          cases hscan
          exact h
      | comma =>
          cases hscan
          rw [Token.length_countComma] at h
          simp [Token.enclosed, Stacks.ne_nil_of_comma hreceive hsound, h]
      | bracketClose =>
          cases spans with
          | nil => exact absurd rfl (Stacks.ne_nil_of_close hreceive hsound)
          | cons span outer =>
              obtain ⟨_, -, rfl⟩ := map_eq_ok_iff.mp hscan
              simpa [Token.enclosed] using h

theorem Reads.enclosed {reader last : Reader} {tokens : List Token}
    (hreads : Reads reader tokens last) (hplain : ∀ token ∈ tokens, token.Plain)
    (hsound : Stacks.Sound reader.spans reader.state) (hlast : last.spans = []) :
    enclosed reader.spans.length tokens := by
  induction hreads with
  | nil => simp [hlast, Token.enclosed]
  | cons hstep hrest ih =>
      simp only [List.forall_mem_cons] at hplain
      exact hstep.enclosed hsound (ih hplain.2 (hstep.sound hplain.1 hsound) hlast)

end Reader

end Reckoner
