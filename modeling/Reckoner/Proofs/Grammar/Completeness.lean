import Reckoner.Expr.Grammar
import Reckoner.Proofs.Reader
import Reckoner.Proofs.Stacks.Apply
import Reckoner.Proofs.Token.Places
import Reckoner.Proofs.Token.Zeros

namespace Reckoner

open Token (endsOperand)
open Token.CallRule (Span calledBy scanOne)

namespace Reader

open Stacks

-- Reading the tokens leaves one operand more, once the operators that bind at
-- least so tightly are applied.
structure Adds (binding : Nat) (reader : Reader) (tokens : List Token) (expr : Expr)
    (next : Reader) : Prop where
  reads : Reads reader tokens next
  ends : endsOperand next.previous
  spans : next.spans = reader.spans
  calls : next.state.calls = reader.state.calls
  applied : applyWhile (bindsAtLeast binding) (floor reader.state.calls) next.state.waiting
    next.state.operands = .ok (reader.state.waiting, expr :: reader.state.operands)

variable {reader mid next : Reader} {front more : List Token} {left right expr : Expr}

theorem Adds.weaken {looser tighter : Nat} (h : Adds tighter reader front expr next)
    (hle : looser ≤ tighter) (hsettled : Settled (bindsAtLeast looser) reader.state.waiting) :
    Adds looser reader front expr next where
  reads := h.reads
  ends := h.ends
  spans := h.spans
  calls := h.calls
  applied := by
    rw [applyWhile_after h.applied fun _ => bindsAtLeast_of_le hle]
    exact applyWhile_of_settled hsettled

theorem Adds.applyAll {binding : Nat} (h : Adds binding reader front expr next) :
    applyAll next.state = applyWhile always (floor reader.state.calls) reader.state.waiting
      (expr :: reader.state.operands) := by
  rw [applyAll_eq, h.calls]
  exact applyWhile_after h.applied fun _ _ => rfl

-- The reader after an operator whose left operand is complete.
def atOperator (symbol : String) (left : Expr) (reader : Reader) : Reader :=
  ⟨some ⟨.operator, symbol⟩, reader.spans, ⟨left :: reader.state.operands,
    .operator symbol :: reader.state.waiting, reader.state.calls⟩⟩

-- An operator of the same precedence finds its left operand complete.
theorem Adds.chain {binding tighter : Nat} {symbol : String}
    (hleft : Adds binding reader front left mid) (hp : precedence symbol = .ok binding)
    (hright : Adds tighter (atOperator symbol left reader) more right next)
    (hle : binding ≤ tighter) (hsettled : Settled (bindsAtLeast binding) reader.state.waiting)
    (hfloor : floor reader.state.calls ≤ reader.state.operands.length) :
    Adds binding reader (front ++ ⟨.operator, symbol⟩ :: more) (.binary symbol left right)
      next where
  reads := by
    refine reads_append_iff.mpr ⟨mid, hleft.reads, reads_cons_iff.mpr ⟨_, ?_, hright.reads⟩⟩
    have hu := Token.isUnaryPosition_of_endsOperand hleft.ends
    refine ⟨rfl, ?_, ?_⟩
    · simp [scanOne, Token.calledBy_of_endsOperand hleft.ends, hleft.spans, atOperator]
    · simp only [receive, operator_eq hp, withZero, hu, Bool.and_false, Bool.false_eq_true,
        ite_false, hleft.calls, hleft.applied]
      rfl
  ends := hright.ends
  spans := hright.spans
  calls := hright.calls
  applied := by
    refine (applyWhile_after hright.applied fun _ => bindsAtLeast_of_le hle).trans ?_
    have hjoin : join (floor reader.state.calls) symbol
        (right :: left :: reader.state.operands) =
        .ok (.binary symbol left right :: reader.state.operands) :=
      join_eq_ok_iff.mpr ⟨right, left, _, rfl, hfloor, rfl⟩
    simp only [atOperator, applyWhile, bindsAtLeast_eq hp, decide_eq_true (Nat.le_refl binding),
      hjoin]
    exact applyWhile_of_settled hsettled

-- An operand that is complete at once.
theorem adds_of_reads {token : Token} (binding : Nat)
    (hreads : Reads reader front (reader.push token expr)) (hends : endsOperand (some token))
    (hsettled : Settled (bindsAtLeast binding) reader.state.waiting) :
    Adds binding reader front expr (reader.push token expr) where
  reads := hreads
  ends := hends
  spans := rfl
  calls := rfl
  applied := applyWhile_of_settled hsettled

open Expr.Grammar (opening closing separator IsSum IsProduct IsAtom AreArguments)

-- The reader after the opening bracket of a group.
def inGroup (reader : Reader) : Reader :=
  ⟨some opening, none :: reader.spans,
    { reader.state with waiting := .bracket :: reader.state.waiting }⟩

theorem reads_opening (hp : calledBy reader.previous = none) :
    Reads reader [opening] (inGroup reader) := by
  refine .cons ⟨rfl, ?_, ?_⟩ (.nil _)
  · simp [scanOne, hp, opening, inGroup]
  · simp [receive, hp, opening, inGroup, openBracket]

theorem reads_group {binding : Nat} (hp : calledBy reader.previous = none)
    (h : Adds binding (inGroup reader) front expr next) :
    Reads reader (opening :: front ++ [closing]) (reader.push closing expr) := by
  refine reads_append_iff.mpr ⟨next, reads_append_iff.mpr ⟨_, reads_opening hp, h.reads⟩, ?_⟩
  have hall : applyAll next.state = .ok (.bracket :: reader.state.waiting,
      expr :: reader.state.operands) := h.applyAll
  refine .cons ⟨rfl, ?_, ?_⟩ (.nil _)
  · simp [scanOne, Token.calledBy_of_endsOperand h.ends, closing, h.spans, inGroup,
      Token.CallRule.close, Except.map, push]
  · simp [receive, closing, close, hall, h.calls, inGroup, push]

section

variable {binding : Nat} {function : Function} {finished : List Expr} {token : Token}

theorem finishArgument_within (reader : Reader) (expr : Expr) :
    finishArgument ⟨function.name, reader.state.operands.length, finished.length⟩
        (expr :: (finished.reverse ++ reader.state.operands)) =
      .ok ⟨function.name, reader.state.operands.length, finished.length + 1⟩ :=
  finishArgument_cons (by simp [Frame.floor, Nat.add_comm]) expr

-- A comma finishes an argument that has left one operand.
theorem Adds.steps_separator
    (h : Adds binding (reader.within function finished token) front expr next) :
    Steps next separator (reader.within function (finished ++ [expr]) separator) := by
  refine ⟨rfl, ?_, ?_⟩
  · simp [scanOne, Token.calledBy_of_endsOperand h.ends, separator, h.spans,
      Token.CallRule.countComma, within]
  · have hall := h.applyAll
    have hcalls := h.calls
    simp only [within] at hall hcalls
    simp only [receive, separator, comma, hall, hcalls, applyWhile, finishArgument_within,
      Except.map]
    simp [within]

-- The closing bracket folds the call out of the operands above its base.
theorem Adds.steps_closing
    (h : Adds binding (reader.within function finished token) front expr next)
    (harity : finished.length + 1 = function.arity) :
    Steps next closing (reader.push closing (.call function.name (finished ++ [expr]))) := by
  refine ⟨rfl, ?_, ?_⟩
  · simp [scanOne, Token.calledBy_of_endsOperand h.ends, closing, h.spans, within, push,
      Token.CallRule.close, Token.CallRule.argumentCount, Token.isOpening_of_endsOperand h.ends,
      harity, Except.map]
  · have hall := h.applyAll
    have hcalls := h.calls
    simp only [within] at hall hcalls
    simp only [receive, closing, close, hall, hcalls, applyWhile, finishArgument_within,
      Except.map, fold_concat, push]

end

mutual

theorem exists_adds_sum {tokens : List Token} {expr : Expr} (h : IsSum tokens expr)
    (reader : Reader) (hp : calledBy reader.previous = none)
    (hsettled : Settled (bindsAtLeast 1) reader.state.waiting)
    (hfloor : floor reader.state.calls ≤ reader.state.operands.length) :
    ∃ next, Adds 1 reader tokens expr next :=
  match h with
  | .product hproduct => by
      obtain ⟨next, hnext⟩ := exists_adds_product hproduct reader hp
        (settled_of_le (by decide) hsettled) hfloor
      exact ⟨next, hnext.weaken (by decide) hsettled⟩
  | @IsSum.chain _ _ _ _ symbol hleft hs hright => by
      obtain ⟨mid, hmid⟩ := exists_adds_sum hleft reader hp hsettled hfloor
      have hprec := precedence_of_mem_sums hs
      have hlooser : Settled (bindsAtLeast 2) (.operator symbol :: reader.state.waiting) :=
        bindsAtLeast_eq hprec 2
      obtain ⟨next, hnext⟩ := exists_adds_product hright (atOperator symbol _ reader) rfl hlooser
        (Nat.le_succ_of_le hfloor)
      exact ⟨next, hmid.chain hprec hnext (by decide) hsettled hfloor⟩

theorem exists_adds_product {tokens : List Token} {expr : Expr} (h : IsProduct tokens expr)
    (reader : Reader) (hp : calledBy reader.previous = none)
    (hsettled : Settled (bindsAtLeast 2) reader.state.waiting)
    (hfloor : floor reader.state.calls ≤ reader.state.operands.length) :
    ∃ next, Adds 2 reader tokens expr next :=
  match h with
  | .atom hatom => by
      obtain ⟨token, hends, hreads⟩ := reads_atom hatom reader hp hfloor
      exact ⟨_, adds_of_reads 2 hreads hends hsettled⟩
  | @IsProduct.chain _ _ _ _ symbol hleft hs hright => by
      obtain ⟨mid, hmid⟩ := exists_adds_product hleft reader hp hsettled hfloor
      have hprec := precedence_of_mem_products hs
      have hlooser : Settled (bindsAtLeast 3) (.operator symbol :: reader.state.waiting) :=
        bindsAtLeast_eq hprec 3
      obtain ⟨token, hends, hreads⟩ := reads_atom hright (atOperator symbol _ reader) rfl
        (Nat.le_succ_of_le hfloor)
      have hnext := adds_of_reads 3 hreads hends hlooser
      exact ⟨_, hmid.chain hprec hnext (by decide) hsettled hfloor⟩

theorem reads_atom {tokens : List Token} {expr : Expr} (h : IsAtom tokens expr)
    (reader : Reader) (hp : calledBy reader.previous = none)
    (hfloor : floor reader.state.calls ≤ reader.state.operands.length) :
    ∃ token, endsOperand (some token) ∧ Reads reader tokens (reader.push token expr) :=
  match h with
  | .number hread => ⟨_, rfl, reads_number hread hp⟩
  | .group hsum => by
      obtain ⟨next, hnext⟩ := exists_adds_sum hsum (inGroup reader) rfl trivial hfloor
      exact ⟨_, rfl, reads_group hp hnext⟩
  | @IsAtom.call function _ _ harguments harity => by
      refine ⟨closing, rfl, ?_⟩
      change Reads reader ([⟨.identifier, function.name⟩, opening] ++ (_ ++ [closing])) _
      refine reads_append_iff.mpr ⟨_, reads_name function hp, ?_⟩
      exact reads_arguments harguments function [] opening rfl reader (by simpa using harity)

theorem reads_arguments {tokens : List Token} {exprs : List Expr} (h : AreArguments tokens exprs)
    (function : Function) (finished : List Expr) (token : Token)
    (hp : calledBy (some token) = none) (reader : Reader)
    (harity : finished.length + exprs.length = function.arity) :
    Reads (reader.within function finished token) (tokens ++ [closing])
      (reader.push closing (.call function.name (finished ++ exprs))) :=
  have hfloor : floor (reader.within function finished token).state.calls ≤
      (reader.within function finished token).state.operands.length := by
    simp only [within, floor, Frame.floor, List.length_append, List.length_reverse]
    omega
  match h with
  | .last hsum => by
      obtain ⟨next, hnext⟩ := exists_adds_sum hsum (reader.within function finished token) hp
        trivial hfloor
      exact reads_append_iff.mpr ⟨next, hnext.reads, .cons (hnext.steps_closing harity) (.nil _)⟩
  | @AreArguments.more _ _ expr exprs hsum hmore => by
      obtain ⟨mid, hmid⟩ := exists_adds_sum hsum (reader.within function finished token) hp
        trivial hfloor
      have hrest := reads_arguments hmore function (finished ++ [expr]) separator rfl reader
        (by simpa [Nat.add_assoc, Nat.add_comm 1] using harity)
      rw [List.append_assoc] at hrest ⊢
      exact reads_append_iff.mpr ⟨mid, hmid.reads, .cons hmid.steps_separator hrest⟩

end

end Reader

namespace Expr

open Grammar (IsSum IsAtom IsSentence AreArguments opening closing separator)

theorem ofTokens_of_isSum {tokens : List Token} {expr : Expr} (h : IsSum tokens expr) :
    ofTokens tokens = .ok expr := by
  obtain ⟨next, hnext⟩ := Reader.exists_adds_sum h Reader.start rfl trivial (Nat.le_refl 0)
  refine ofTokens_eq_ok_iff.mpr ⟨next, hnext.reads, ?_, ?_⟩
  · apply (Token.CallRule.final_eq_ok_iff _ _).mpr
    exact ⟨Token.calledBy_of_endsOperand hnext.ends, by simp [hnext.spans, Reader.start]⟩
  · exact Stacks.finish_after hnext.applied

-- The zero before a minus may be written or left out, the expression is the same.
theorem ofTokens_of_isSentence {tokens : List Token} {expr : Expr} (h : IsSentence tokens expr) :
    ofTokens tokens = .ok expr := by
  rw [← ofTokens_withZeros]
  exact ofTokens_of_isSum h

-- Minus two times a power.
theorem ofTokens_negated_power :
    let tokens : List Token := [⟨.operator, "-"⟩, ⟨.number, "2"⟩, ⟨.operator, "*"⟩,
      ⟨.identifier, "power"⟩, opening, ⟨.number, "3"⟩, separator, ⟨.operator, "-"⟩,
      ⟨.number, "4"⟩, closing]
    let expr : Expr := .binary "-" (.number Binary64.zero)
      (.binary "*" (.number (Binary64.ofInt 2)) (.call "power" [.number (Binary64.ofInt 3),
        .binary "-" (.number Binary64.zero) (.number (Binary64.ofInt 4))]))
    IsSentence tokens expr ∧ ofTokens tokens = .ok expr := by
  intro tokens expr
  have h2 : Decimal.read? "2" = some (Binary64.ofInt 2) := by decide +kernel
  have h3 : Decimal.read? "3" = some (Binary64.ofInt 3) := by decide +kernel
  have h4 : Decimal.read? "4" = some (Binary64.ofInt 4) := by decide +kernel
  have harguments : AreArguments
      [⟨.number, "3"⟩, separator, Token.zero, ⟨.operator, "-"⟩, ⟨.number, "4"⟩]
      [.number (Binary64.ofInt 3),
        .binary "-" (.number Binary64.zero) (.number (Binary64.ofInt 4))] :=
    .more (.product (.atom (.number h3)))
      (.last (.chain (.product (.atom (.number Decimal.read?_zero))) (by decide)
        (.atom (.number h4))))
  have h : IsSentence tokens expr :=
    .chain (.product (.atom (.number Decimal.read?_zero))) (by decide)
      (.chain (.atom (.number h2)) (by decide) (@IsAtom.call .power _ _ harguments rfl))
  exact ⟨h, ofTokens_of_isSentence h⟩

end Expr

end Reckoner
