import Reckoner.Proofs.Calls
import Reckoner.Proofs.Grammar.Completeness
import Reckoner.Proofs.Inventory
import Reckoner.Proofs.Stacks.Bracketed

namespace Reckoner

open Token (enclosed endsOperand)
open Token.CallRule (calledBy scanOne)
open Expr.Grammar (opening closing)

-- The tokens with so many pairs of brackets around them.
def Token.bracketed : Nat → List Token → List Token
  | 0, tokens => tokens
  | depth + 1, tokens => opening :: bracketed depth tokens ++ [closing]

theorem Token.plain_bracketed {tokens : List Token} (hplain : ∀ token ∈ tokens, token.Plain)
    (depth : Nat) : ∀ token ∈ bracketed depth tokens, token.Plain := by
  induction depth with
  | zero => exact hplain
  | succ depth ih =>
      intro token hmem
      rcases List.mem_append.mp hmem with hmem | hmem
      · rcases List.mem_cons.mp hmem with rfl | hmem
        · decide
        · exact ih token hmem
      · obtain rfl := List.mem_singleton.mp hmem
        decide

-- What is one operand without brackets around it.
inductive Expr.IsOperand : List Token → Prop
  | number (lexeme : String) : IsOperand [⟨.number, lexeme⟩]
  | call {function : Function} {arguments : List (List Token)} :
      arguments.length = function.arity → (∀ argument ∈ arguments, enclosed 0 argument) →
      IsOperand (Token.call function arguments)

namespace Reader

variable {base reader last : Reader} {tokens : List Token} {expr : Expr}

-- What a text does by itself it does inside a bracket too, whatever stands
-- around the bracket.
theorem Reads.above_of_open (hreads : Reads reader tokens last) (h : base.state.Open)
    (hcontains : Contains reader tokens) : Reads (above base reader) tokens (above base last) := by
  induction hreads with
  | nil reader => exact .nil _
  | @cons reader next last token rest hstep _ ih =>
      refine @Reads.cons (above base reader) (above base next) _ _ _ ⟨hstep.previous, ?_, ?_⟩
        (ih (hcontains.step hstep))
      · have hinside := Token.inside_of_enclosed hcontains.enclosed
        exact (Token.scanOne_append hinside).trans (map_eq_ok_iff.mpr ⟨_, hstep.spans, rfl⟩)
      · exact Stacks.receive_above_of_ok h hstep.state

theorem open_inGroup (hfloor : Stacks.floor reader.state.calls ≤ reader.state.operands.length) :
    (inGroup reader).state.Open := ⟨trivial, hfloor⟩

-- The closing bracket finds one operand more than the opening one left behind.
theorem steps_closing_group {inner : Reader} {previous : Option Token}
    (hcalled : calledBy previous = none) (hspans : inner.spans = [])
    (hsound : Stacks.Sound [] inner.state)
    (hfloor : Stacks.floor reader.state.calls ≤ reader.state.operands.length)
    (hfinish : Stacks.finish inner.state.waiting inner.state.operands = .ok expr) :
    Steps ⟨previous, (above (inGroup reader) inner).spans, (above (inGroup reader) inner).state⟩
      closing (reader.push closing expr) := by
  have hcalls := hsound.agrees.eq_nil
  have happly : Stacks.applyAll inner.state = .ok ([], [expr]) := by
    rw [Stacks.applyAll_eq, hcalls]
    exact Stacks.finish_eq_ok_iff.mp hfinish
  have habove := Stacks.applyAll_above_of_ok (open_inGroup hfloor) happly
  refine ⟨rfl, ?_, ?_⟩
  · simp [scanOne, hcalled, closing, above, map, inGroup, hspans, Token.CallRule.close,
      Except.map, push]
  · simp only [above, map] at habove ⊢
    simp only [Stacks.receive, closing, Stacks.close, habove]
    simp [Stacks.above, hcalls, inGroup, push]

-- Tokens that are accepted by themselves are one operand when brackets stand
-- around them.
theorem reads_brackets (hcalled : calledBy reader.previous = none)
    (hfloor : Stacks.floor reader.state.calls ≤ reader.state.operands.length)
    (hplain : ∀ token ∈ tokens, token.Plain) (hexpr : Expr.ofTokens tokens = .ok expr) :
    Reads reader (opening :: tokens ++ [closing]) (reader.push closing expr) := by
  obtain ⟨inner, hinner, hfinal, hfinish⟩ := Expr.ofTokens_eq_ok_iff.mp hexpr
  have hlast := hinner.sound hplain Stacks.sound_empty
  have hclosed := Stacks.spans_eq_nil_of_finish hlast.agrees hfinish
  have henclosed : enclosed 0 tokens := hinner.enclosed hplain Stacks.sound_empty hclosed
  have hcontains := contains_start hplain henclosed
  obtain ⟨hspans, hsound⟩ := hcontains.sound_of_reads hinner
  have habove := hinner.above_of_open (open_inGroup hfloor) hcontains
  have hgroup : Reads (inGroup reader) tokens
      ⟨Token.after (some opening) tokens, (above (inGroup reader) inner).spans,
        (above (inGroup reader) inner).state⟩ :=
    (reads_alike (Token.alike_none rfl henclosed)).mpr ⟨_, habove, rfl⟩
  have hafter : calledBy (Token.after (some opening) tokens) = none := by
    have hinnermost := ((Token.CallRule.final_eq_ok_iff _ _).mp hfinal).1
    rw [(reads_iff.mp hinner).1] at hinnermost
    rw [← hinnermost]
    exact Token.CallRule.calledBy_after (show calledBy (some opening) = calledBy none from rfl) tokens
  have hstep := steps_closing_group hafter hspans hsound hfloor hfinish
  have hopen := reads_append_iff.mpr ⟨_, reads_opening hcalled, hgroup⟩
  exact reads_append_iff.mpr ⟨_, hopen, reads_singleton_iff.mpr hstep⟩

end Reader

namespace Expr

open Reader

variable {before tokens after : List Token} {expr : Expr}

theorem ofTokens_of_reads {token : Token} (hends : endsOperand (some token))
    (hreads : Reads start tokens (start.push token expr)) : ofTokens tokens = .ok expr := by
  have hfinal := (Token.CallRule.final_eq_ok_iff (some token) []).mpr
    ⟨Token.calledBy_of_endsOperand hends, by simp⟩
  exact ofTokens_eq_ok_iff.mpr ⟨_, hreads, hfinal, rfl⟩

theorem ofTokens_bracketed (hplain : ∀ token ∈ tokens, token.Plain)
    (hexpr : ofTokens tokens = .ok expr) (depth : Nat) :
    ofTokens (Token.bracketed depth tokens) = .ok expr := by
  induction depth with
  | zero => exact hexpr
  | succ depth ih =>
      have hreads := @reads_brackets start _ _ rfl (Nat.le_refl 0)
        (Token.plain_bracketed hplain depth) ih
      exact ofTokens_of_reads (show endsOperand (some closing) from rfl) hreads

-- Such tokens are one operand wherever an operand can stand.
theorem IsOperand.exists_reads (hoperand : IsOperand tokens)
    (hplain : ∀ token ∈ tokens, token.Plain) (hexpr : ofTokens tokens = .ok expr) :
    ∃ token, endsOperand (some token) ∧ ∀ reader, calledBy reader.previous = none →
      Reads reader tokens (reader.push token expr) := by
  obtain ⟨last, hlast, -, -⟩ := ofTokens_eq_ok_iff.mp hexpr
  cases hoperand with
  | number lexeme =>
      obtain ⟨value, hread⟩ := Option.isSome_iff_exists.mp
        (hlast.readable _ (List.mem_singleton_self _) rfl)
      have hnumber := ofTokens_of_reads rfl (reads_number hread rfl)
      obtain rfl : expr = .number value := Except.ok.inj (hexpr.symm.trans hnumber)
      exact ⟨⟨.number, lexeme⟩, rfl, fun reader hcalled => reads_number hread hcalled⟩
  | @call function arguments harity henclosed =>
      have hplain := plain_of_plain_call hplain
      have hreads {reader next : Reader} (hcalled : calledBy reader.previous = none) :=
        @reads_call_iff _ _ _ next hcalled harity hplain henclosed
      obtain ⟨exprs, hexprs, rfl⟩ := (hreads rfl).mp hlast
      have hcall := ofTokens_of_reads (show endsOperand (some closing) from rfl) hlast
      obtain rfl : expr = .call function.name exprs := Except.ok.inj (hexpr.symm.trans hcall)
      exact ⟨closing, rfl, fun reader hcalled => (hreads hcalled).mpr ⟨exprs, hexprs, rfl⟩⟩

-- With brackets around it any accepted text is.
theorem exists_reads_bracketed {depth : Nat} (hoperand : 0 < depth ∨ IsOperand tokens)
    (hplain : ∀ token ∈ tokens, token.Plain) (hexpr : ofTokens tokens = .ok expr) :
    ∃ token, endsOperand (some token) ∧ ∀ reader, calledBy reader.previous = none →
      Stacks.floor reader.state.calls ≤ reader.state.operands.length →
      Reads reader (Token.bracketed depth tokens) (reader.push token expr) := by
  cases depth with
  | zero =>
      obtain ⟨token, hends, hreads⟩ :=
        (hoperand.resolve_left (Nat.lt_irrefl 0)).exists_reads hplain hexpr
      exact ⟨token, hends, fun reader hcalled _ => hreads reader hcalled⟩
  | succ depth =>
      exact ⟨closing, rfl, fun reader hcalled hfloor => reads_brackets hcalled hfloor
        (Token.plain_bracketed hplain depth) (ofTokens_bracketed hplain hexpr depth)⟩

-- Brackets around an accepted text make an operand of it, and leave no other trace:
-- it takes the place of a number, with any number of brackets around it, and with
-- none if it is an operand already. An operand that stands anywhere may have as many
-- brackets as one likes, but those of a call are the call's.
theorem ofTokens_brackets_transparent (hbefore : ∀ token ∈ before, token.Plain)
    (hplain : ∀ token ∈ tokens, token.Plain) (hexpr : ofTokens tokens = .ok expr) :
    (∀ lexeme whole, ofTokens (before ++ ⟨.number, lexeme⟩ :: after) = .ok whole →
      (∃ value, Decimal.read? lexeme = some value ∧
        whole.leaves[Token.numberCount before]? = some value) ∧
      ∀ depth, 0 < depth ∨ IsOperand tokens →
        ofTokens (before ++ Token.bracketed depth tokens ++ after) =
          .ok (graft expr (Token.numberCount before) whole)) ∧
    (∀ depth more whole, 0 < depth ∧ 0 < more ∨ IsOperand tokens →
      calledBy before.getLast? = none →
      ofTokens (before ++ Token.bracketed depth tokens ++ after) = .ok whole →
      ofTokens (before ++ Token.bracketed more tokens ++ after) = .ok whole) ∧
    ∀ depth, ofTokens (Token.bracketed depth tokens) = .ok expr := by
  have hfloor (reader : Reader) (hreads : Reads start before reader) :
      Stacks.floor reader.state.calls ≤ reader.state.operands.length :=
    (hreads.sound hbefore Stacks.sound_empty).floor_le
  refine ⟨fun lexeme whole hwhole => ⟨?_, fun depth hdepth => ?_⟩,
    fun depth more whole hoperand hcalled hwhole => ?_, ofTokens_bracketed hplain hexpr⟩
  · obtain ⟨last, hreads, -, -⟩ := ofTokens_eq_ok_iff.mp hwhole
    obtain ⟨value, hread⟩ := Option.isSome_iff_exists.mp
      (hreads.readable _ (List.mem_append_right _ List.mem_cons_self) rfl)
    exact ⟨value, hread, leaves_of_ofTokens_number hread hwhole⟩
  · obtain ⟨token, hends, hreads⟩ := exists_reads_bracketed hdepth hplain hexpr
    refine ofTokens_of_reads_push hends (fun reader hstart hcalled => ?_) hwhole
    exact hreads reader hcalled (hfloor reader hstart)
  · obtain ⟨token, hends, hreads⟩ :=
      exists_reads_bracketed (hoperand.imp_left And.left) hplain hexpr
    obtain ⟨last, hlast, hagain⟩ :=
      exists_reads_bracketed (hoperand.imp_left And.right) hplain hexpr
    have hfirst (reader : Reader) (hstart : Reads start before reader)
        (hnone : calledBy reader.previous = none) :
        Reads reader (Token.bracketed depth tokens) (reader.push token expr) :=
      hreads reader hnone (hfloor reader hstart)
    have hsecond (reader : Reader) (hstart : Reads start before reader)
        (hnone : calledBy reader.previous = none) :
        Reads reader (Token.bracketed more tokens) (reader.push last expr) :=
      hagain reader hnone (hfloor reader hstart)
    exact ofTokens_of_same_operand hends hlast hcalled hfirst hsecond hwhole

-- The brackets keep the sum together behind the product, and a second pair of them
-- changes nothing.
theorem ofTokens_brackets_transparent_product :
    let before : List Token := [⟨.operator, "-"⟩, ⟨.number, "2"⟩, ⟨.operator, "*"⟩]
    let tokens : List Token := [⟨.number, "3"⟩, ⟨.operator, "+"⟩, ⟨.number, "4"⟩]
    let after : List Token := [⟨.operator, "+"⟩, ⟨.number, "2"⟩]
    let expr : Expr := .binary "+" (.number (Binary64.ofInt 3)) (.number (Binary64.ofInt 4))
    ofTokens tokens = .ok expr ∧
      ofTokens (before ++ Token.bracketed 2 tokens ++ after) =
        .ok (.binary "+" (.binary "-" (.number Binary64.zero)
          (.binary "*" (.number (Binary64.ofInt 2)) expr)) (.number (Binary64.ofInt 2))) := by
  intro before tokens after expr
  have h2 : Decimal.read? "2" = some (Binary64.ofInt 2) := by decide +kernel
  have h3 : Decimal.read? "3" = some (Binary64.ofInt 3) := by decide +kernel
  have h4 : Decimal.read? "4" = some (Binary64.ofInt 4) := by decide +kernel
  have htokens : ofTokens tokens = .ok expr := by
    simp only [tokens, ofTokens, Token.CallRule.check, Token.CallRule.checkFrom, Stacks.readFrom,
      Stacks.step, Stacks.number, h3, h4]
    rfl
  have haround : ofTokens (before ++ ⟨.number, "2"⟩ :: after) =
      .ok (.binary "+" (.binary "-" (.number Binary64.zero)
        (.binary "*" (.number (Binary64.ofInt 2)) (.number (Binary64.ofInt 2))))
        (.number (Binary64.ofInt 2))) := by
    simp only [before, after, List.cons_append, List.nil_append, ofTokens, Token.CallRule.check,
      Token.CallRule.checkFrom, Stacks.readFrom, Stacks.step, Stacks.number, h2]
    rfl
  have htransparent := @ofTokens_brackets_transparent before tokens after expr (by decide)
    (by decide) htokens
  exact ⟨htokens, (htransparent.1 "2" _ haround).2 2 (.inl (by decide))⟩

end Expr

end Reckoner
