import Reckoner.Proofs.Arguments
import Reckoner.Proofs.Stacks.Graft
import Reckoner.Proofs.Token.Places

namespace Reckoner

open Token.CallRule (calledBy final)
open Expr.Grammar (closing)

namespace Reader

variable {reader last : Reader} {tokens : List Token}

-- An operand and a number in its place are read over alike.
theorem reads_push_iff (scion : Expr) (lexeme : String) (value : Binary64) {token : Token}
    (hends : Token.endsOperand (some token)) :
    Reads (reader.push token scion) tokens last ↔
      ∃ inner, Reads (reader.push ⟨.number, lexeme⟩ (.number value)) tokens inner ∧
        last = ⟨Token.after (some token) tokens, inner.spans,
          inner.state.graft scion reader.state.leaves.length⟩ := by
  have halike : Token.Alike (some token) (some ⟨.number, lexeme⟩) tokens :=
    ⟨Token.calledBy_of_endsOperand hends, Token.isUnaryPosition_of_endsOperand hends,
      .inr (Token.isOpening_of_endsOperand hends)⟩
  have hgrafted : (reader.push token scion).state =
      (reader.push ⟨.number, lexeme⟩ (.number value)).state.graft scion
        reader.state.leaves.length := by
    simp [push, Stacks.graft, Stacks.leaves, Expr.graftStack_cons_of_le, Expr.graft]
  have hplace : reader.state.leaves.length <
      (reader.push ⟨.number, lexeme⟩ (.number value)).state.leaves.length := by
    simp [push, Stacks.leaves, Expr.allLeaves_append, Expr.allLeaves, Expr.leaves]
  have hgraft {other : Reader} := @reads_graft_iff scion _ _ other tokens hplace
  have hpush : Reads (reader.push token scion) tokens last ↔
      Reads ⟨some token, reader.spans, (reader.push token scion).state⟩ tokens last := Iff.rfl
  rw [hpush, hgrafted, reads_alike halike]
  constructor
  · rintro ⟨_, hreads, rfl⟩
    obtain ⟨inner, hinner, rfl⟩ := hgraft.mp hreads
    exact ⟨inner, hinner, rfl⟩
  · rintro ⟨inner, hinner, rfl⟩
    exact ⟨_, hgraft.mpr ⟨inner, hinner, rfl⟩, rfl⟩

end Reader

namespace Expr

open Reader

-- A number is the leaf that has as many leaves to its left as numbers and
-- unwritten zeros stand before it.
theorem leaves_of_ofTokens_number {before after : List Token} {lexeme : String}
    {value : Binary64} {whole : Expr} (hread : Decimal.read? lexeme = some value)
    (h : ofTokens (before ++ ⟨.number, lexeme⟩ :: after) = .ok whole) :
    whole.leaves[Token.numberCount before]? = some value := by
  obtain ⟨last, hreads, -, hfinish⟩ := ofTokens_eq_ok_iff.mp h
  obtain ⟨reader, hbefore, hrest⟩ := reads_append_iff.mp hreads
  obtain ⟨next, hnumber, hafter⟩ := reads_cons_iff.mp hrest
  have hnext : next.state.leaves = reader.state.leaves ++ [value] := by
    have hminus : Token.isUnaryMinus reader.previous ⟨.number, lexeme⟩ = false := rfl
    rw [Stacks.receive_leaves hnumber.state, Token.values_of_not_unaryMinus hminus]
    simp [Token.values, hread]
  have hleaves : whole.leaves = last.state.leaves := Stacks.finish_leaves hfinish
  rw [hleaves, hafter.leaves, hnext, ← hbefore.length_leaves]
  simp

theorem final_after_operand {reader inner : Reader} {after : List Token} {token : Token}
    {lexeme : String} {value : Binary64} (hends : Token.endsOperand (some token))
    (h : Reads (reader.push ⟨.number, lexeme⟩ (.number value)) after inner) :
    final (Token.after (some token) after) inner.spans =
      final inner.previous inner.spans := by
  have hcalled : calledBy (some token) = calledBy (some ⟨.number, lexeme⟩) :=
    Token.calledBy_of_endsOperand hends
  rw [(reads_iff.mp h).1]
  exact Token.CallRule.final_congr (Token.CallRule.calledBy_after hcalled after) inner.spans

-- Whatever is read as one operand takes the place of a number.
theorem ofTokens_of_reads_push {before operand after : List Token} {token : Token}
    {lexeme : String} {scion whole : Expr} (hends : Token.endsOperand (some token))
    (hoperand : ∀ reader, Reads start before reader → calledBy reader.previous = none →
      Reads reader operand (reader.push token scion))
    (hwhole : ofTokens (before ++ ⟨.number, lexeme⟩ :: after) = .ok whole) :
    ofTokens (before ++ operand ++ after) =
      .ok (graft scion (Token.numberCount before) whole) := by
  obtain ⟨inner, hreads, hfinal, hfinish⟩ := ofTokens_eq_ok_iff.mp hwhole
  obtain ⟨reader, hbefore, hrest⟩ := reads_append_iff.mp hreads
  obtain ⟨next, hnumber, hinner⟩ := reads_cons_iff.mp hrest
  have hcalled := Token.CallRule.calledBy_of_scanOne hnumber.spans (by simp)
  obtain ⟨value, hread⟩ := Option.isSome_iff_exists.mp
    ((reads_singleton_iff.mpr hnumber).readable _ (List.mem_singleton_self _) rfl)
  obtain rfl := (reads_singleton_iff.mpr hnumber).unique (reads_number hread hcalled)
  have hafter := (reads_push_iff scion lexeme value hends).mpr ⟨inner, hinner, rfl⟩
  rw [← final_after_operand hends hinner] at hfinal
  have haround := reads_append_iff.mpr
    ⟨_, reads_append_iff.mpr ⟨reader, hbefore, hoperand reader hbefore hcalled⟩, hafter⟩
  refine ofTokens_eq_ok_iff.mpr ⟨_, haround, hfinal, ?_⟩
  simp only [Stacks.graft, Stacks.finish_graft, hfinish, hbefore.length_leaves, Except.map]

-- Two texts that are read as one and the same operand stand for each other.
theorem ofTokens_of_same_operand {before operand other after : List Token} {token last : Token}
    {expr whole : Expr} (hends : Token.endsOperand (some token))
    (hlast : Token.endsOperand (some last)) (hcalled : calledBy before.getLast? = none)
    (hoperand : ∀ reader, Reads start before reader → calledBy reader.previous = none →
      Reads reader operand (reader.push token expr))
    (hother : ∀ reader, Reads start before reader → calledBy reader.previous = none →
      Reads reader other (reader.push last expr))
    (hwhole : ofTokens (before ++ operand ++ after) = .ok whole) :
    ofTokens (before ++ other ++ after) = .ok whole := by
  obtain ⟨_, hreads, hfinal, hfinish⟩ := ofTokens_eq_ok_iff.mp hwhole
  obtain ⟨_, hmid, hafter⟩ := reads_append_iff.mp hreads
  obtain ⟨reader, hbefore, hread⟩ := reads_append_iff.mp hmid
  have hprevious : calledBy reader.previous = none := by
    rw [(reads_iff.mp hbefore).1, start, Token.after_none, hcalled]
  obtain rfl := hread.unique (hoperand reader hbefore hprevious)
  -- what follows cannot tell either text from a number
  obtain ⟨inner, hinner, rfl⟩ := (reads_push_iff expr "0" Binary64.zero hends).mp hafter
  have hagain := (reads_push_iff expr "0" Binary64.zero hlast).mpr ⟨inner, hinner, rfl⟩
  have haround := reads_append_iff.mpr
    ⟨_, reads_append_iff.mpr ⟨reader, hbefore, hother reader hbefore hprevious⟩, hagain⟩
  rw [final_after_operand hends hinner, ← final_after_operand hlast hinner] at hfinal
  exact ofTokens_eq_ok_iff.mpr ⟨_, haround, hfinal, hfinish⟩

section

variable {function : Function} {arguments : List (List Token)} {before after : List Token}
  {lexeme : String} {value : Binary64}

theorem exists_of_ofTokens_call {expr : Expr} (harity : arguments.length = function.arity)
    (hplain : ∀ argument ∈ arguments, ∀ token ∈ argument, token.Plain)
    (henclosed : ∀ argument ∈ arguments, Token.enclosed 0 argument)
    (hread : Decimal.read? lexeme = some value)
    (h : ofTokens (before ++ Token.call function arguments ++ after) = .ok expr) :
    ∃ exprs whole,
      List.Forall₂ (fun argument expr => ofTokens argument = .ok expr) arguments exprs ∧
      ofTokens (before ++ ⟨.number, lexeme⟩ :: after) = .ok whole ∧
      expr = graft (.call function.name exprs) (Token.numberCount before) whole := by
  obtain ⟨last, hreads, hfinal, hfinish⟩ := ofTokens_eq_ok_iff.mp h
  obtain ⟨mid, hmid, hafter⟩ := reads_append_iff.mp hreads
  obtain ⟨reader, hbefore, hcall⟩ := reads_append_iff.mp hmid
  -- a name that waits for its bracket would have refused the name of the call
  obtain ⟨_, hname, -⟩ := reads_cons_iff.mp hcall
  have hcalled := Token.CallRule.calledBy_of_scanOne hname.spans (by simp)
  obtain ⟨exprs, hexprs, rfl⟩ := (reads_call_iff hcalled harity hplain henclosed).mp hcall
  obtain ⟨inner, hinner, rfl⟩ := (reads_push_iff _ lexeme value rfl).mp hafter
  rw [hbefore.length_leaves] at hfinish
  simp only [Stacks.graft, Stacks.finish_graft, map_eq_ok_iff] at hfinish
  obtain ⟨whole, hwhole, hexpr⟩ := hfinish
  rw [final_after_operand rfl hinner] at hfinal
  have hnumber := reads_singleton_iff.mp (reads_number hread hcalled)
  have haround := reads_append_iff.mpr ⟨reader, hbefore, reads_cons_iff.mpr ⟨_, hnumber, hinner⟩⟩
  exact ⟨exprs, whole, hexprs, ofTokens_eq_ok_iff.mpr ⟨inner, haround, hfinal, hwhole⟩, hexpr⟩

theorem ofTokens_call {exprs : List Expr} {whole : Expr}
    (harity : arguments.length = function.arity)
    (hplain : ∀ argument ∈ arguments, ∀ token ∈ argument, token.Plain)
    (henclosed : ∀ argument ∈ arguments, Token.enclosed 0 argument)
    (hexprs : List.Forall₂ (fun argument expr => ofTokens argument = .ok expr) arguments exprs)
    (hwhole : ofTokens (before ++ ⟨.number, lexeme⟩ :: after) = .ok whole) :
    ofTokens (before ++ Token.call function arguments ++ after) =
      .ok (graft (.call function.name exprs) (Token.numberCount before) whole) := by
  refine ofTokens_of_reads_push (show Token.endsOperand (some closing) from rfl) ?_ hwhole
  intro reader _ hcalled
  exact (reads_call_iff hcalled harity hplain henclosed).mpr ⟨exprs, hexprs, rfl⟩

-- What stands in the brackets of a call and what stands around it do not meet:
-- the arguments are read by themselves, the rest as if a number stood there.
theorem ofTokens_call_compositional (harity : arguments.length = function.arity)
    (hplain : ∀ argument ∈ arguments, ∀ token ∈ argument, token.Plain)
    (henclosed : ∀ argument ∈ arguments, Token.enclosed 0 argument)
    (hread : Decimal.read? lexeme = some value) :
    (∀ expr, ofTokens (before ++ Token.call function arguments ++ after) = .ok expr ↔
      ∃ exprs whole,
        List.Forall₂ (fun argument expr => ofTokens argument = .ok expr) arguments exprs ∧
        ofTokens (before ++ ⟨.number, lexeme⟩ :: after) = .ok whole ∧
        expr = graft (.call function.name exprs) (Token.numberCount before) whole) ∧
    ∀ whole, ofTokens (before ++ ⟨.number, lexeme⟩ :: after) = .ok whole →
      whole.leaves[Token.numberCount before]? = some value := by
  refine ⟨fun expr => ⟨?_, ?_⟩, fun whole => leaves_of_ofTokens_number hread⟩
  · exact exists_of_ofTokens_call harity hplain henclosed hread
  · rintro ⟨exprs, whole, hexprs, hwhole, rfl⟩
    exact ofTokens_call harity hplain henclosed hexprs hwhole

end

-- The call takes the place behind the zero that the first minus stands for.
theorem ofTokens_negated_call :
    let before : List Token := [⟨.operator, "-"⟩]
    let arguments : List (List Token) := [[⟨.number, "3"⟩], [⟨.operator, "-"⟩, ⟨.number, "2"⟩]]
    let after : List Token := [⟨.operator, "*"⟩, ⟨.number, "2"⟩]
    ofTokens (before ++ Token.call .power arguments ++ after) =
      .ok (.binary "-" (.number Binary64.zero) (.binary "*"
        (.call "power" [.number (Binary64.ofInt 3),
          .binary "-" (.number Binary64.zero) (.number (Binary64.ofInt 2))])
        (.number (Binary64.ofInt 2)))) := by
  intro before arguments after
  have h2 : Decimal.read? "2" = some (Binary64.ofInt 2) := by decide +kernel
  have h3 : Decimal.read? "3" = some (Binary64.ofInt 3) := by decide +kernel
  have hcall := (@ofTokens_call_compositional .power arguments before after "3" _ rfl
    (by decide) (by decide) h3).1
  have hthree : ofTokens [⟨.number, "3"⟩] = .ok (.number (Binary64.ofInt 3)) := by
    simp only [ofTokens, Token.CallRule.check, Token.CallRule.checkFrom, Stacks.readFrom,
      Stacks.step, Stacks.number, h3]
    rfl
  have htwo : ofTokens [⟨.operator, "-"⟩, ⟨.number, "2"⟩] =
      .ok (.binary "-" (.number Binary64.zero) (.number (Binary64.ofInt 2))) := by
    simp only [ofTokens, Token.CallRule.check, Token.CallRule.checkFrom, Stacks.readFrom,
      Stacks.step, Stacks.number, h2]
    rfl
  have haround : ofTokens (before ++ ⟨.number, "3"⟩ :: after) =
      .ok (.binary "-" (.number Binary64.zero) (.binary "*" (.number (Binary64.ofInt 3))
        (.number (Binary64.ofInt 2)))) := by
    simp only [before, after, List.singleton_append, ofTokens, Token.CallRule.check,
      Token.CallRule.checkFrom, Stacks.readFrom, Stacks.step, Stacks.number, h2, h3]
    rfl
  exact (hcall _).mpr ⟨_, _, .cons hthree (.cons htwo .nil), haround, rfl⟩

end Expr

end Reckoner
